import FactoryTest.Json.Text

/-!
# Texts without white space

`cJSON_PrintUnformatted` prints a tree on one line and without white space (`compactValue`). How
it prints a number is left open, but for line breaks (`PrintsCompact`).

The length of an object is the sum of what its members take (`length_compactValue_object`).
-/

namespace FactoryTest.JsonText

section

variable (number : Double → List Char)

mutual

/-- A value. -/
def compactValue : CJson → List Char
  | .null => ['n', 'u', 'l', 'l']
  | .bool true => ['t', 'r', 'u', 'e']
  | .bool false => ['f', 'a', 'l', 's', 'e']
  | .number d => number d
  | .string s => printString s
  | .array [] => ['[', ']']
  | .array (item :: items) => '[' :: (compactValue item ++ compactItems items)
  | .object [] => ['{', '}']
  | .object ((key, value) :: members) =>
    '{' :: (printString key ++ ':' :: (compactValue value ++ compactMembers members))

/-- The items of an array that follow its first one. -/
def compactItems : List CJson → List Char
  | [] => [']']
  | item :: items => ',' :: (compactValue item ++ compactItems items)

/-- The members of an object that follow its first one. -/
def compactMembers : List (String × CJson) → List Char
  | [] => ['}']
  | (key, value) :: members =>
    ',' :: (printString key ++ ':' :: (compactValue value ++ compactMembers members))

end

/-! ## Length -/

/-- What a member takes: its key, a colon, its value, and the comma or the brace after it. -/
def memberLength (m : String × CJson) : ℕ :=
  (printString m.1).length + (compactValue number m.2).length + 2

theorem length_compactMembers (members : List (String × CJson)) :
    (compactMembers number members).length = (members.map (memberLength number)).sum + 1 := by
  induction members with
  | nil => simp [compactMembers]
  | cons m members ih =>
    obtain ⟨key, value⟩ := m
    simp only [compactMembers, List.length_cons, List.length_append, ih, List.map_cons,
      List.sum_cons, memberLength]
    omega

theorem length_compactValue_object {members : List (String × CJson)} (h : members ≠ []) :
    (compactValue number (.object members)).length =
      (members.map (memberLength number)).sum + 1 := by
  cases members with
  | nil => exact absurd rfl h
  | cons m members =>
    obtain ⟨key, value⟩ := m
    simp only [compactValue, List.length_cons, List.length_append, length_compactMembers,
      List.map_cons, List.sum_cons, memberLength]
    omega

theorem length_printString (s : String) :
    (printString s).length = (s.toList.flatMap escape).length + 2 := by
  simp [printString]

end

/-! ## One line -/

/-- The text has no line break. -/
def Unbroken (text : List Char) : Prop := ∀ c ∈ text, c ≠ '\r' ∧ c ≠ '\n'

theorem unbroken_append {s t : List Char} : Unbroken (s ++ t) ↔ Unbroken s ∧ Unbroken t :=
  List.forall_mem_append

theorem unbroken_cons {c : Char} {s : List Char} :
    Unbroken (c :: s) ↔ (c ≠ '\r' ∧ c ≠ '\n') ∧ Unbroken s := List.forall_mem_cons

theorem unbroken_nil : Unbroken [] := List.forall_mem_nil _

theorem unbroken_digits (n : ℕ) : Unbroken (Nat.toDigits 10 n) := by
  intro c hc
  have hdigit : c.isDigit = true := Nat.isDigit_of_mem_toDigits (by decide) (by decide) hc
  constructor <;> rintro rfl <;> cases hdigit

theorem digitChar_ne_break : ∀ n < 16, Nat.digitChar n ≠ '\r' ∧ Nat.digitChar n ≠ '\n' := by decide

theorem unbroken_escape (c : Char) : Unbroken (escape c) := by
  unfold escape
  by_cases hplain : 32 ≤ c.toNat
  · have hc : c ≠ '\r' ∧ c ≠ '\n' := by
      constructor <;> rintro rfl <;> exact absurd hplain (by decide)
    rw [if_pos hplain]
    split_ifs <;> simp [unbroken_cons, unbroken_nil, hc]
  · have hhigh := digitChar_ne_break (c.toNat / 16) (by omega)
    have hlow := digitChar_ne_break (c.toNat % 16) (by omega)
    rw [if_neg hplain]
    split_ifs
    iterate 5 simp [unbroken_cons, unbroken_nil]
    simp [unbroken_cons, unbroken_nil, hhigh, hlow]

theorem unbroken_printString (s : String) : Unbroken (printString s) := by
  refine unbroken_append.2 ⟨unbroken_cons.2 ⟨by decide, fun c hc => ?_⟩, by simp [Unbroken]⟩
  obtain ⟨d, -, hc⟩ := List.mem_flatMap.1 hc
  exact unbroken_escape d c hc

section

variable {number : Double → List Char}

mutual

/-- A tree is printed on one line. -/
theorem unbroken_compactValue (hnumber : ∀ d, Unbroken (number d)) :
    ∀ v : CJson, Unbroken (compactValue number v)
  | .null | .bool true | .bool false | .array [] | .object [] => by
    simp [compactValue, unbroken_cons, unbroken_nil]
  | .number d => hnumber d
  | .string s => unbroken_printString s
  | .array (item :: items) =>
    unbroken_cons.2 ⟨by decide, unbroken_append.2
      ⟨unbroken_compactValue hnumber item, unbroken_compactItems hnumber items⟩⟩
  | .object ((key, value) :: members) =>
    unbroken_cons.2 ⟨by decide, unbroken_append.2 ⟨unbroken_printString key,
      unbroken_cons.2 ⟨by decide, unbroken_append.2
        ⟨unbroken_compactValue hnumber value, unbroken_compactMembers hnumber members⟩⟩⟩⟩

theorem unbroken_compactItems (hnumber : ∀ d, Unbroken (number d)) :
    ∀ items : List CJson, Unbroken (compactItems number items)
  | [] => by simp [compactItems, unbroken_cons, unbroken_nil]
  | item :: items =>
    unbroken_cons.2 ⟨by decide, unbroken_append.2
      ⟨unbroken_compactValue hnumber item, unbroken_compactItems hnumber items⟩⟩

theorem unbroken_compactMembers (hnumber : ∀ d, Unbroken (number d)) :
    ∀ members : List (String × CJson), Unbroken (compactMembers number members)
  | [] => by simp [compactMembers, unbroken_cons, unbroken_nil]
  | (key, value) :: members =>
    unbroken_cons.2 ⟨by decide, unbroken_append.2 ⟨unbroken_printString key,
      unbroken_cons.2 ⟨by decide, unbroken_append.2
        ⟨unbroken_compactValue hnumber value, unbroken_compactMembers hnumber members⟩⟩⟩⟩

end

end

/-! ## The library -/

/-- `cJSON_PrintUnformatted` prints a tree without white space, and a number on one line. -/
structure PrintsCompact (cJSON : CJsonLibrary) (number : Double → List Char) : Prop where
  text : ∀ t : CJson, t.Printable →
    cJSON.PrintUnformatted t = some (String.ofList (compactValue number t))
  number : ∀ d, Unbroken (number d)

/-- The printer and the parser, with a printer of texts without white space. -/
def compactText : CJsonLibrary :=
  { jsonText with PrintUnformatted v := some (String.ofList (compactValue printNumber v)) }

theorem unbroken_printNumber (d : Double) : Unbroken (printNumber d) := by
  cases d with
  | finite q h =>
    refine unbroken_append.2 ⟨?_, ?_⟩
    · cases q.num * 5 ^ Nat.log2 q.den with
      | ofNat n => exact unbroken_digits n
      | negSucc n => exact unbroken_cons.2 ⟨by decide, unbroken_digits _⟩
    · split_ifs
      · exact unbroken_nil
      · exact unbroken_cons.2 ⟨by decide, unbroken_cons.2 ⟨by decide, unbroken_digits _⟩⟩
  | infinity | nan => simp [printNumber, unbroken_cons, unbroken_nil]

theorem printsCompact_compactText : PrintsCompact compactText printNumber where
  text _ _ := rfl
  number := unbroken_printNumber

end FactoryTest.JsonText

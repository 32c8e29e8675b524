import FactoryTest.Json.CJson
import Mathlib.Data.Nat.Prime.Basic
import Mathlib.Tactic.NormNum
import Mathlib.Tactic.Positivity

/-!
# JSON texts

A printer and a parser of JSON texts, to run the model with (`jsonText`). Trees are laid out as
`cJSON_Print` lays them out, and integers are printed as it prints them. A number that is no
integer is printed as an integer with a decimal exponent, which denotes it exactly.

A printed tree is parsed back to the same tree (`lossless_jsonText`): `CJsonLibrary.Lossless`
asks nothing that cannot be had.
-/

namespace FactoryTest.JsonText

/-! ## Strings -/

/-- A character of a string literal. -/
def escape (c : Char) : List Char :=
  if 32 ≤ c.toNat then
    if c = '"' then ['\\', '"']
    else if c = '\\' then ['\\', '\\']
    else [c]
  else if c = '\x08' then ['\\', 'b']
  else if c = '\x0c' then ['\\', 'f']
  else if c = '\n' then ['\\', 'n']
  else if c = '\r' then ['\\', 'r']
  else if c = '\t' then ['\\', 't']
  else ['\\', 'u', '0', '0', Nat.digitChar (c.toNat / 16), Nat.digitChar (c.toNat % 16)]

/-- A string literal. -/
def printString (s : String) : List Char := '"' :: s.toList.flatMap escape ++ ['"']

/-- The value of a hexadecimal digit. -/
def hexValue (c : Char) : ℕ :=
  if c.isDigit then c.toNat - '0'.toNat else c.toNat - 'a'.toNat + 10

/-- The character of an escape of two characters. -/
def unescape (c : Char) : Option Char :=
  if c = '"' then some '"'
  else if c = '\\' then some '\\'
  else if c = '/' then some '/'
  else if c = 'b' then some '\x08'
  else if c = 'f' then some '\x0c'
  else if c = 'n' then some '\n'
  else if c = 'r' then some '\r'
  else if c = 't' then some '\t'
  else none

/-- The rest of a string literal, after its opening quote. -/
def scanString : List Char → Option (List Char × List Char)
  | '"' :: rest => some ([], rest)
  | '\\' :: 'u' :: _ :: _ :: high :: low :: rest =>
    (scanString rest).map fun s => (Char.ofNat (16 * hexValue high + hexValue low) :: s.1, s.2)
  | '\\' :: e :: rest =>
    match unescape e with
    | some c => (scanString rest).map fun s => (c :: s.1, s.2)
    | none => none
  | c :: rest => (scanString rest).map fun s => (c :: s.1, s.2)
  | [] => none

theorem hexValue_digitChar : ∀ n < 16, hexValue (Nat.digitChar n) = n := by decide

theorem scanString_escape (c : Char) (rest : List Char) :
    scanString (escape c ++ rest) = (scanString rest).map fun s => (c :: s.1, s.2) := by
  unfold escape
  split_ifs with hplain hquote hbackslash
  any_goals
    subst c
    simp [scanString, unescape]
  · simp [scanString, hbackslash]
  · have hc : Char.ofNat (16 * (c.toNat / 16) + c.toNat % 16) = c := by
      rw [Nat.div_add_mod, Char.ofNat_toNat]
    have hhigh := hexValue_digitChar (c.toNat / 16) (by omega)
    have hlow := hexValue_digitChar (c.toNat % 16) (by omega)
    simp [scanString, hhigh, hlow, hc]

theorem scanString_flatMap (cs rest : List Char) :
    scanString (cs.flatMap escape ++ '"' :: rest) = some (cs, rest) := by
  induction cs with
  | nil => simp [scanString]
  | cons c cs ih => simp [List.append_assoc, scanString_escape, ih]

/-! ## Numbers -/

/-- An integer in decimal digits. -/
def printInt : ℤ → List Char
  | .ofNat n => Nat.toDigits 10 n
  | .negSucc n => '-' :: Nat.toDigits 10 (n + 1)

/-- A number, exactly: its denominator is `2 ^ k`, so `10 ^ k` times it is an integer. -/
def printNumber : Double → List Char
  | .finite q _ =>
    let k := Nat.log2 q.den
    printInt (q.num * 5 ^ k) ++ if k = 0 then [] else 'e' :: '-' :: Nat.toDigits 10 k
  | _ => ['n', 'u', 'l', 'l']

/-- The digits that a text begins with, and the rest. -/
def scanDigits (s : List Char) : ℕ × List Char :=
  (Nat.ofDigitChars 10 (s.takeWhile Char.isDigit) 0, s.dropWhile Char.isDigit)

/-- An integer. -/
def scanInt : List Char → ℤ × List Char
  | '-' :: s => (-(scanDigits s).1, (scanDigits s).2)
  | s => ((scanDigits s).1, (scanDigits s).2)

/-- A decimal exponent, which is zero where there is none. -/
def scanExponent : List Char → ℕ × List Char
  | 'e' :: '-' :: s => scanDigits s
  | s => (0, s)

/-- A number. -/
def scanNumber (s : List Char) : Option (Double × List Char) :=
  let m := scanInt s
  let k := scanExponent m.2
  let q : ℚ := m.1 / 10 ^ k.1
  if h : Binary64 q then some (.finite q h, k.2) else none

/-- What follows a number does not go on with it. -/
def Terminated (rest : List Char) : Prop := ∀ c s, rest = c :: s → c.isDigit = false ∧ c ≠ 'e'

theorem scanDigits_toDigits (n : ℕ) {rest : List Char}
    (h : ∀ c s, rest = c :: s → c.isDigit = false) :
    scanDigits (Nat.toDigits 10 n ++ rest) = (n, rest) := by
  have hdigits : ∀ c ∈ Nat.toDigits 10 n, c.isDigit = true := fun c hc =>
    Nat.isDigit_of_mem_toDigits (by decide) (by decide) hc
  have hrest : rest.takeWhile Char.isDigit = [] ∧ rest.dropWhile Char.isDigit = rest := by
    cases rest with
    | nil => exact ⟨rfl, rfl⟩
    | cons c s => simp [h c s rfl]
  unfold scanDigits
  rw [List.takeWhile_append_of_pos hdigits, List.dropWhile_append_of_pos hdigits, hrest.1,
    hrest.2, List.append_nil, Nat.ofDigitChars_ten_toDigits]

theorem toDigits_eq_cons (n : ℕ) : ∃ c s, Nat.toDigits 10 n = c :: s ∧ c.isDigit = true := by
  obtain ⟨c, s, h⟩ := List.exists_cons_of_ne_nil (Nat.toDigits_ne_nil (n := n) (b := 10))
  refine ⟨c, s, h, Nat.isDigit_of_mem_toDigits (b := 10) (n := n) (by decide) (by decide) ?_⟩
  rw [h]
  exact List.mem_cons_self

theorem scanInt_printInt (m : ℤ) {rest : List Char}
    (h : ∀ c s, rest = c :: s → c.isDigit = false) :
    scanInt (printInt m ++ rest) = (m, rest) := by
  cases m with
  | ofNat n =>
    obtain ⟨c, s, hdigits, hc⟩ := toDigits_eq_cons n
    have hminus : c ≠ '-' := by
      rintro rfl
      cases hc
    have hscan : scanInt (Nat.toDigits 10 n ++ rest) =
        (↑(scanDigits (Nat.toDigits 10 n ++ rest)).1,
          (scanDigits (Nat.toDigits 10 n ++ rest)).2) := by
      rw [hdigits]
      simp [scanInt, hminus]
    rw [printInt, hscan, scanDigits_toDigits n h]
    rfl
  | negSucc n =>
    rw [printInt, List.cons_append, scanInt, scanDigits_toDigits (n + 1) h]
    rfl

/-- The denominator of a binary64 number is a power of two. -/
theorem den_eq_two_pow {q : ℚ} (h : Binary64 q) : q.den = 2 ^ Nat.log2 q.den := by
  obtain ⟨k, -, hk⟩ := (Nat.dvd_prime_pow Nat.prime_two).1 h.1
  rw [hk, Nat.log2_two_pow]

theorem div_ten_pow {q : ℚ} (h : Binary64 q) :
    ((q.num * 5 ^ Nat.log2 q.den : ℤ) : ℚ) / 10 ^ Nat.log2 q.den = q := by
  have hden := den_eq_two_pow h
  have hq : (q.num : ℚ) / 2 ^ Nat.log2 q.den = q := by
    conv_rhs => rw [← Rat.num_div_den q, hden]
    push_cast
    rfl
  have hten : (10 : ℚ) ^ Nat.log2 q.den = 2 ^ Nat.log2 q.den * 5 ^ Nat.log2 q.den := by
    rw [← mul_pow]
    norm_num
  rw [hten]
  push_cast
  rw [mul_div_mul_right _ _ (by positivity), hq]

theorem scanExponent_of_terminated {rest : List Char} (h : Terminated rest) :
    scanExponent rest = (0, rest) := by
  unfold scanExponent
  split
  · exact absurd rfl (h _ _ rfl).2
  · rfl

theorem scanNumber_printNumber {q : ℚ} (h : Binary64 q) {rest : List Char}
    (hrest : Terminated rest) :
    scanNumber (printNumber (.finite q h) ++ rest) = some (.finite q h, rest) := by
  have hq := div_ten_pow h
  generalize hk : Nat.log2 q.den = k at hq
  have hscan (tail : List Char) (htail : ∀ c s, tail = c :: s → c.isDigit = false)
      (hexponent : scanExponent tail = (k, rest)) :
      scanNumber (printInt (q.num * 5 ^ k) ++ tail) = some (.finite q h, rest) := by
    simp only [scanNumber, scanInt_printInt _ htail, hexponent, hq, dif_pos h]
  unfold printNumber
  simp only [hk]
  split_ifs with hzero
  · rw [List.append_nil]
    refine hscan rest (fun c s heq => (hrest c s heq).1) ?_
    rw [scanExponent_of_terminated hrest, hzero]
  · rw [List.append_assoc]
    refine hscan _ (fun c s heq => ?_) ?_
    · cases heq
      rfl
    · exact scanDigits_toDigits k fun c s heq => (hrest c s heq).1

/-! ## Values -/

mutual

/-- A value inside `depth` objects. -/
def printValue (depth : ℕ) : CJson → List Char
  | .null => ['n', 'u', 'l', 'l']
  | .bool true => ['t', 'r', 'u', 'e']
  | .bool false => ['f', 'a', 'l', 's', 'e']
  | .number d => printNumber d
  | .string s => printString s
  | .array [] => ['[', ']']
  | .array (item :: items) => '[' :: (printValue depth item ++ printItems depth items)
  | .object members => '{' :: '\n' :: printMembers depth members

/-- The items of an array that follow its first one. -/
def printItems (depth : ℕ) : List CJson → List Char
  | [] => [']']
  | item :: items => ',' :: ' ' :: (printValue depth item ++ printItems depth items)

/-- The members of an object inside `depth` objects. -/
def printMembers (depth : ℕ) : List (String × CJson) → List Char
  | [] => List.replicate depth '\t' ++ ['}']
  | (key, value) :: members =>
    List.replicate (depth + 1) '\t' ++ printString key ++ ':' :: '\t' ::
      (printValue (depth + 1) value ++ (if members.isEmpty then [] else [',']) ++
        '\n' :: printMembers depth members)

end

/-- Drop white space. -/
def skip (s : List Char) : List Char := s.dropWhile (· ≤ ' ')

/-- The rest of a literal. -/
def scanLiteral (text : List Char) (value : CJson) (s : List Char) :
    Option (CJson × List Char) :=
  if text.isPrefixOf s then some (value, s.drop text.length) else none

mutual

/-- A value. -/
def parseValue : ℕ → List Char → Option (CJson × List Char)
  | 0, _ => none
  | fuel + 1, s =>
    match skip s with
    | [] => none
    | c :: rest =>
      if c = 'n' then scanLiteral ['u', 'l', 'l'] .null rest
      else if c = 't' then scanLiteral ['r', 'u', 'e'] (.bool true) rest
      else if c = 'f' then scanLiteral ['a', 'l', 's', 'e'] (.bool false) rest
      else if c = '"' then
        (scanString rest).map fun s => (.string (String.ofList s.1), s.2)
      else if c = '[' then
        if (skip rest).head? = some ']' then some (.array [], (skip rest).tail)
        else (parseItems fuel rest).map fun r => (.array r.1, r.2)
      else if c = '{' then
        if (skip rest).head? = some '}' then some (.object [], (skip rest).tail)
        else (parseMembers fuel rest).map fun r => (.object r.1, r.2)
      else (scanNumber (c :: rest)).map fun r => (.number r.1, r.2)

/-- The items of an array, up to its closing bracket. -/
def parseItems : ℕ → List Char → Option (List CJson × List Char)
  | 0, _ => none
  | fuel + 1, s =>
    match parseValue fuel s with
    | none => none
    | some (item, rest) =>
      match skip rest with
      | [] => none
      | c :: rest =>
        if c = ',' then (parseItems fuel rest).map fun r => (item :: r.1, r.2)
        else if c = ']' then some ([item], rest)
        else none

/-- The members of an object, up to its closing brace. -/
def parseMembers : ℕ → List Char → Option (List (String × CJson) × List Char)
  | 0, _ => none
  | fuel + 1, s =>
    match skip s with
    | [] => none
    | c :: rest =>
      if c = '"' then
        match scanString rest with
        | none => none
        | some (key, rest) =>
          match skip rest with
          | [] => none
          | c :: rest =>
            if c = ':' then
              match parseValue fuel rest with
              | none => none
              | some (value, rest) =>
                match skip rest with
                | [] => none
                | c :: rest =>
                  if c = ',' then
                    (parseMembers fuel rest).map fun r => ((String.ofList key, value) :: r.1, r.2)
                  else if c = '}' then some ([(String.ofList key, value)], rest)
                  else none
            else none
      else none

end

/-! ## Parsing what is printed -/

@[simp] theorem skip_cons_of_le {c : Char} (h : c ≤ ' ') (s : List Char) :
    skip (c :: s) = skip s := by
  simp [skip, h]

@[simp] theorem skip_cons_of_not_le {c : Char} (h : ¬ c ≤ ' ') (s : List Char) :
    skip (c :: s) = c :: s := by
  simp [skip, h]

@[simp] theorem skip_tabs (n : ℕ) (s : List Char) : skip (List.replicate n '\t' ++ s) = skip s := by
  induction n with
  | zero => rfl
  | succ n ih => rw [List.replicate_succ, List.cons_append, skip_cons_of_le (by decide), ih]

theorem parseValue_skip {s s' : List Char} (h : skip s = skip s') (fuel : ℕ) :
    parseValue fuel s = parseValue fuel s' := by
  cases fuel with
  | zero => rfl
  | succ fuel => rw [parseValue, parseValue, h]

theorem parseMembers_skip {s s' : List Char} (h : skip s = skip s') (fuel : ℕ) :
    parseMembers fuel s = parseMembers fuel s' := by
  cases fuel with
  | zero => rfl
  | succ fuel => rw [parseMembers, parseMembers, h]

theorem terminated_cons {c : Char} {s : List Char} (hdigit : c.isDigit = false) (he : c ≠ 'e') :
    Terminated (c :: s) := by
  rintro d t heq
  cases heq
  exact ⟨hdigit, he⟩

theorem terminated_printItems (depth : ℕ) (items : List CJson) (rest : List Char) :
    Terminated (printItems depth items ++ rest) := by
  cases items <;> exact terminated_cons (by decide) (by decide)

theorem length_printItems (depth : ℕ) (items : List CJson) :
    0 < (printItems depth items).length := by
  cases items <;> simp [printItems]

/-- A number begins with a digit or a sign. -/
theorem printNumber_eq_cons {q : ℚ} (h : Binary64 q) :
    ∃ c s, printNumber (.finite q h) = c :: s ∧ (c.isDigit = true ∨ c = '-') := by
  unfold printNumber
  dsimp only
  rcases q.num * 5 ^ Nat.log2 q.den with n | n
  · obtain ⟨c, s, hdigits, hc⟩ := toDigits_eq_cons n
    exact ⟨c, _, by rw [printInt, hdigits]; rfl, .inl hc⟩
  · exact ⟨'-', _, rfl, .inr rfl⟩

theorem ne_of_isDigit_or_minus {c d : Char} (hc : c.isDigit = true ∨ c = '-')
    (hdigit : d.isDigit = false) (hminus : d ≠ '-') : c ≠ d := by
  rintro rfl
  rcases hc with hc | hc
  · exact absurd hc (by rw [hdigit]; decide)
  · exact hminus hc

theorem not_le_space_of_isDigit_or_minus {c : Char} (hc : c.isDigit = true ∨ c = '-') :
    ¬ c ≤ ' ' := by
  rcases hc with hc | rfl
  · simp only [Char.isDigit, Bool.and_eq_true, decide_eq_true_eq] at hc
    intro hle
    have hval : '0'.val ≤ ' '.val := UInt32.le_trans hc.1 hle
    exact absurd hval (by decide)
  · decide

/-- A printed value begins with a character that is neither white space nor a bracket that
closes. -/
theorem printValue_eq_cons (depth : ℕ) {v : CJson} (hv : v.Printable) :
    ∃ c s, printValue depth v = c :: s ∧ ¬ c ≤ ' ' ∧ c ≠ ']' := by
  match v with
  | .null | .bool true | .bool false | .string _ | .array [] | .array (_ :: _) | .object _ =>
    simp only [printValue, printString]
    exact ⟨_, _, rfl, by decide, by decide⟩
  | .number (.finite q h) =>
    obtain ⟨c, s, heq, hc⟩ := printNumber_eq_cons h
    exact ⟨c, s, by rw [printValue, heq], not_le_space_of_isDigit_or_minus hc,
      ne_of_isDigit_or_minus hc (by decide) (by decide)⟩
  | .number (.infinity _) => exact absurd hv Bool.false_ne_true
  | .number .nan => exact absurd hv Bool.false_ne_true

/-- If a value is followed by items, it is parsed as the item before them. -/
theorem parseItems_of_parseValue {fuel : ℕ} {s tail : List Char} {item : CJson}
    {items : List CJson} {rest : List Char} (h : parseValue fuel s = some (item, tail))
    (htail : skip tail = ']' :: rest ∧ items = [] ∨
      ∃ tail', skip tail = ',' :: tail' ∧ parseItems fuel tail' = some (items, rest)) :
    parseItems (fuel + 1) s = some (item :: items, rest) := by
  rw [parseItems, h]
  rcases htail with ⟨hskip, rfl⟩ | ⟨tail', hskip, hitems⟩
  · simp [hskip]
  · simp [hskip, hitems]

theorem parseMembers_of_parseValue (n : ℕ) (key : String) {fuel : ℕ} {s tail : List Char}
    {value : CJson} {members : List (String × CJson)} {rest : List Char}
    (h : parseValue fuel s = some (value, tail))
    (htail : skip tail = '}' :: rest ∧ members = [] ∨
      ∃ tail', skip tail = ',' :: tail' ∧ parseMembers fuel tail' = some (members, rest)) :
    parseMembers (fuel + 1) (List.replicate n '\t' ++ (printString key ++ ':' :: s)) =
      some ((key, value) :: members, rest) := by
  have hkey : scanString (key.toList.flatMap escape ++ '"' :: ':' :: s) =
      some (key.toList, ':' :: s) := scanString_flatMap _ _
  rw [parseMembers, skip_tabs]
  rcases htail with ⟨hskip, rfl⟩ | ⟨tail', hskip, hmembers⟩
  · simp [printString, List.append_assoc, hkey, h, hskip]
  · simp [printString, List.append_assoc, hkey, h, hskip, hmembers]

mutual

theorem parseValue_printValue (v : CJson) (hv : v.Printable) (depth fuel : ℕ) (rest : List Char)
    (hrest : Terminated rest) (hfuel : (printValue depth v).length < fuel) :
    parseValue fuel (printValue depth v ++ rest) = some (v, rest) := by
  obtain ⟨fuel, rfl⟩ := Nat.exists_eq_succ_of_ne_zero (Nat.ne_zero_of_lt hfuel)
  match v with
  | .null | .bool true | .bool false => simp [printValue, parseValue, scanLiteral]
  | .string t =>
    simp [printValue, parseValue, printString, List.append_assoc, scanString_flatMap]
  | .number (.finite q h) =>
    obtain ⟨c, s, heq, hc⟩ := printNumber_eq_cons h
    have hscan := scanNumber_printNumber h hrest
    have hne (d : Char) (hdigit : d.isDigit = false) (hminus : d ≠ '-') : c ≠ d :=
      ne_of_isDigit_or_minus hc hdigit hminus
    rw [heq, List.cons_append] at hscan
    rw [printValue, heq, List.cons_append, parseValue,
      skip_cons_of_not_le (not_le_space_of_isDigit_or_minus hc)]
    dsimp only
    rw [if_neg (hne _ (by decide) (by decide)), if_neg (hne _ (by decide) (by decide)),
      if_neg (hne _ (by decide) (by decide)), if_neg (hne _ (by decide) (by decide)),
      if_neg (hne _ (by decide) (by decide)), if_neg (hne _ (by decide) (by decide)), hscan]
    rfl
  | .number (.infinity _) => exact absurd hv Bool.false_ne_true
  | .number .nan => exact absurd hv Bool.false_ne_true
  | .array [] => simp [printValue, parseValue]
  | .array (item :: items) =>
    obtain ⟨c, s, heq, hspace, hbracket⟩ := printValue_eq_cons depth hv.1
    simp only [printValue, List.length_cons, List.length_append] at hfuel
    obtain ⟨fuel, rfl⟩ := Nat.exists_eq_succ_of_ne_zero (show fuel ≠ 0 by omega)
    have hlength := length_printItems depth items
    have hitem := parseValue_printValue item hv.1 depth fuel (printItems depth items ++ rest)
      (terminated_printItems depth items rest) (by omega)
    have hitems := parseItems_printItems items hv.2 depth fuel _ item rest hitem (by omega)
    rw [← List.append_assoc, heq] at hitems
    rw [printValue, heq, parseValue]
    simp only [List.cons_append, List.append_assoc] at hitems
    simp [hspace, hbracket, hitems]
  | .object [] => simp [printValue, printMembers, parseValue]
  | .object ((key, value) :: members) =>
    simp only [printValue, List.length_cons] at hfuel
    have hmembers := parseMembers_printMembers key value members hv depth fuel rest (by omega)
    rw [← parseMembers_skip (skip_cons_of_le (c := '\n') (by decide) _)] at hmembers
    have hquote : (skip (printMembers depth ((key, value) :: members) ++ rest)).head? =
        some '"' := by
      simp [printMembers, printString, List.append_assoc]
    rw [printValue, List.cons_append, List.cons_append, parseValue]
    simp [hquote, hmembers]
termination_by fuel

theorem parseItems_printItems (items : List CJson) (hitems : CJson.PrintableItems items)
    (depth fuel : ℕ) (s : List Char) (item : CJson) (rest : List Char)
    (h : parseValue fuel s = some (item, printItems depth items ++ rest))
    (hfuel : (printItems depth items).length ≤ fuel) :
    parseItems (fuel + 1) s = some (item :: items, rest) := by
  refine parseItems_of_parseValue h ?_
  match items with
  | [] => exact .inl ⟨skip_cons_of_not_le (by decide) _, rfl⟩
  | next :: items =>
    simp only [printItems, List.length_cons, List.length_append] at hfuel
    obtain ⟨fuel, rfl⟩ := Nat.exists_eq_succ_of_ne_zero (show fuel ≠ 0 by omega)
    have hlength := length_printItems depth items
    have hnext := parseValue_printValue next hitems.1 depth fuel (printItems depth items ++ rest)
      (terminated_printItems depth items rest) (by omega)
    refine .inr ⟨_, skip_cons_of_not_le (by decide) _, ?_⟩
    refine parseItems_printItems items hitems.2 depth fuel _ next rest ?_ (by omega)
    rw [← hnext]
    refine parseValue_skip ?_ fuel
    simp [List.append_assoc]
termination_by fuel

theorem parseMembers_printMembers (key : String) (value : CJson)
    (members : List (String × CJson)) (h : CJson.PrintableMembers ((key, value) :: members))
    (depth fuel : ℕ) (rest : List Char)
    (hfuel : (printMembers depth ((key, value) :: members)).length < fuel) :
    parseMembers fuel (printMembers depth ((key, value) :: members) ++ rest) =
      some ((key, value) :: members, rest) := by
  obtain ⟨fuel, rfl⟩ := Nat.exists_eq_succ_of_ne_zero (Nat.ne_zero_of_lt hfuel)
  simp only [printMembers, List.length_append, List.length_cons] at hfuel
  have hvalue (tail : List Char) (htail : Terminated tail) :
      parseValue fuel ('\t' :: (printValue (depth + 1) value ++ tail)) = some (value, tail) := by
    rw [parseValue_skip (skip_cons_of_le (by decide) _)]
    exact parseValue_printValue value h.2.1 (depth + 1) fuel tail htail (by omega)
  match members with
  | [] =>
    have hskip : skip ('\n' :: (printMembers depth [] ++ rest)) = '}' :: rest := by
      simp [printMembers, List.append_assoc]
    have hmembers := parseMembers_of_parseValue (depth + 1) key
      (hvalue _ (terminated_cons (by decide) (by decide))) (.inl ⟨hskip, rfl⟩)
    simpa [printMembers, List.append_assoc] using hmembers
  | (key', value') :: members =>
    have hrest := parseMembers_printMembers key' value' members h.2.2 depth fuel rest (by
      simp only [printMembers, List.length_append, List.length_cons] at hfuel ⊢
      omega)
    rw [← parseMembers_skip (skip_cons_of_le (c := '\n') (by decide) _)] at hrest
    have hmembers := parseMembers_of_parseValue (depth + 1) key
      (hvalue (',' :: '\n' :: (printMembers depth ((key', value') :: members) ++ rest))
        (terminated_cons (by decide) (by decide)))
      (.inr ⟨_, skip_cons_of_not_le (by decide) _, hrest⟩)
    simpa [printMembers, List.append_assoc] using hmembers
termination_by fuel

end

/-! ## The library -/

/-- The number of characters and more is fuel enough to parse a text. -/
def parse (text : String) : Option CJson :=
  (parseValue (text.toList.length + 1) text.toList).map Prod.fst

/-- A printer and a parser in the place of cJSON. -/
def jsonText : CJsonLibrary where
  ParseWithLength := parse
  GetErrorPtr text := some text
  Print v := some (String.ofList (printValue 0 v))
  PrintUnformatted v := some (String.ofList (printValue 0 v))

/-- Printing and parsing lose nothing. -/
theorem lossless_jsonText : jsonText.Lossless := by
  intro v hv
  have hparse := parseValue_printValue v hv 0 ((printValue 0 v).length + 2) ['\n']
    (terminated_cons (by decide) (by decide)) (by omega)
  exact ⟨_, rfl, by simp [jsonText, parse, hparse]⟩

end FactoryTest.JsonText

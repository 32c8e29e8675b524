import FactoryTest.Json.Serialization
import FactoryTest.Lib.JsonGrammar

/-!
# Output values are printed as JSON

The texts that `output_value_to_string` and `output_value_to_pretty_string` make are JSON with
the value that was printed (`Prints`), for values with integral numbers and strings in UTF-8.

**Where it fails.** `escape_string` leaves control characters as they are, but for the line feed,
the carriage return and the tabulator, and no JSON text has them (`bell_not_escaped`).

**Where it holds** (`prints_iff`). Exactly for the values with no such character in a string or a
key.

Both printers put commas between elements, so both are built from one lemma about what may follow
an element (`Tail`).
-/

namespace FactoryTest.Serialization

open JsonGrammar

/-! ## UTF-8 -/

/-- The bytes of a text in UTF-8, as characters. -/
def utf8 (t : List Char) : List Char :=
  t.flatMap fun c => (String.utf8EncodeChar c).map fun b => Char.ofNat b.toNat

theorem utf8_append (s t : List Char) : utf8 (s ++ t) = utf8 s ++ utf8 t := List.flatMap_append

theorem toNat_ofNat_byte (b : UInt8) : (Char.ofNat b.toNat).toNat = b.toNat := by
  have hb := b.toNat_lt
  have hvalid : b.toNat.isValidChar := .inl (by omega)
  rw [Char.ofNat, dif_pos hvalid]
  rfl

theorem utf8_of_lt {c : Char} (hc : c.toNat < 0x80) : utf8 [c] = [c] := by
  have hsize : c.utf8Size = 1 := Char.utf8Size_eq_one_iff.2 (Nat.le_of_lt_succ hc)
  have hbyte : c.val.toUInt8.toNat = c.toNat := Nat.mod_eq_of_lt (show c.toNat < 256 by omega)
  simp only [utf8, List.flatMap_singleton, String.utf8EncodeChar_eq_singleton hsize,
    List.map_singleton, hbyte, Char.ofNat_toNat]

theorem le_or_of_le {x m : UInt8} (hm : 0x80 ≤ m.toNat) : 0x80 ≤ (x ||| m).toNat := by
  rw [UInt8.toNat_or]
  exact hm.trans Nat.right_le_or

/-- The bytes of a character beyond ASCII are none of ASCII. -/
theorem le_of_mem_utf8 {c d : Char} (hc : 0x80 ≤ c.toNat) (hd : d ∈ utf8 [c]) :
    0x80 ≤ d.toNat := by
  have hbytes : ∀ b ∈ String.utf8EncodeChar c, 0x80 ≤ b.toNat := by
    rcases Char.utf8Size_eq c with hsize | hsize | hsize | hsize
    · have hle : c.toNat ≤ 127 := Char.utf8Size_eq_one_iff.1 hsize
      omega
    all_goals
      have hlead (x : UInt8) : 0x80 ≤ (x ||| 0xc0).toNat ∧ 0x80 ≤ (x ||| 0xe0).toNat ∧
          0x80 ≤ (x ||| 0xf0).toNat :=
        ⟨le_or_of_le (by decide), le_or_of_le (by decide), le_or_of_le (by decide)⟩
      have htail (x : UInt8) : 0x80 ≤ (x ||| 0x80).toNat := le_or_of_le (by decide)
      simp only [String.utf8EncodeChar_eq_cons_cons, String.utf8EncodeChar_eq_cons_cons_cons,
        String.utf8EncodeChar_eq_cons_cons_cons_cons, hsize, List.forall_mem_cons, hlead, htail,
        List.not_mem_nil, false_imp_iff, implies_true, and_self]
  obtain ⟨b, hb, rfl⟩ := List.mem_map.1 (by simpa only [utf8, List.flatMap_singleton] using hd)
  rw [toNat_ofNat_byte]
  exact hbytes b hb

theorem utf8_cons_of_lt {c : Char} (hc : c.toNat < 0x80) (t : List Char) :
    utf8 (c :: t) = c :: utf8 t := by
  rw [← List.singleton_append, utf8_append, utf8_of_lt hc, List.singleton_append]

theorem utf8_eq_self {t : List Char} (ht : ∀ c ∈ t, c.toNat < 0x80) : utf8 t = t := by
  induction t with
  | nil => rfl
  | cons c t ih =>
    obtain ⟨hc, ht⟩ := List.forall_mem_cons.1 ht
    rw [utf8_cons_of_lt hc, ih ht]

theorem utf8_of_all {t : List Char} (ht : t.all (·.toNat < 0x80) = true) : utf8 t = t :=
  utf8_eq_self fun c hc => of_decide_eq_true (List.all_eq_true.1 ht c hc)

/-- Below the space, the bytes of a text are its characters. -/
theorem plain_utf8 {t : List Char} (ht : Plain t) : Plain (utf8 t) := by
  intro d hd
  obtain ⟨c, hc, hd⟩ := List.mem_flatMap.1 hd
  by_cases hascii : c.toNat < 0x80
  · have hsame := utf8_of_lt hascii
    rw [utf8, List.flatMap_singleton] at hsame
    rw [hsame, List.mem_singleton] at hd
    exact hd ▸ ht c hc
  · refine .inl ((by decide : 0x20 ≤ 0x80).trans (le_of_mem_utf8 (not_lt.1 hascii) ?_))
    rwa [utf8, List.flatMap_singleton]

/-! ## Strings -/

/-- `escape_char` leaves no control character in the place of this one. -/
def Escaped (c : Char) : Prop := 0x20 ≤ c.toNat ∨ c = '\n' ∨ c = '\r' ∨ c = '\t'

instance (c : Char) : Decidable (Escaped c) := by
  unfold Escaped
  infer_instance

theorem escaped_of_all {t : List Char} (h : t.all (fun c => decide (Escaped c)) = true) :
    ∀ c ∈ t, Escaped c := fun c hc => of_decide_eq_true (List.all_eq_true.1 h c hc)

/-- The bytes are those of a text in UTF-8, and these are its code units. -/
def StandsString (value : String) (units : List UInt16) : Prop :=
  ∃ t, value.toList = utf8 t ∧ units = t.flatMap utf16

theorem escape_char_of_le {c : Char} (hc : 0x80 ≤ c.toNat) : escape_char c = [c] := by
  have hne (d : Char) (hd : d.toNat < 0x80) : c ≠ d := by
    rintro rfl
    omega
  unfold escape_char
  rw [if_neg (hne _ (by decide)), if_neg (hne _ (by decide)), if_neg (hne _ (by decide)),
    if_neg (hne _ (by decide)), if_neg (hne _ (by decide))]

theorem escape_char_ascii {c : Char} (hc : c.toNat < 0x80) :
    ∀ d ∈ escape_char c, d.toNat < 0x80 := by
  unfold escape_char
  split_ifs <;> simp_all

/-- Escaping the bytes is escaping the text. -/
theorem escape_utf8 (t : List Char) :
    (utf8 t).flatMap escape_char = utf8 (t.flatMap escape_char) := by
  induction t with
  | nil => rfl
  | cons c t ih =>
    rw [← List.singleton_append, utf8_append, List.flatMap_append, ih, List.flatMap_append,
      utf8_append, List.flatMap_singleton]
    congr 1
    by_cases hc : c.toNat < 0x80
    · rw [utf8_of_lt hc, List.flatMap_singleton, utf8_eq_self (escape_char_ascii hc)]
    · rw [escape_char_of_le (not_lt.1 hc)]
      have hbytes : ∀ d ∈ utf8 [c], escape_char d = [d] := fun d hd =>
        escape_char_of_le (le_of_mem_utf8 (not_lt.1 hc) hd)
      rw [List.flatMap_congr hbytes, List.flatMap_singleton']

theorem escape_chars {t : List Char} (ht : ∀ c ∈ t, Escaped c) :
    Chars (t.flatMap escape_char) (t.flatMap utf16) := by
  induction t with
  | nil => exact .nil
  | cons c t ih =>
    obtain ⟨hc, ht⟩ := List.forall_mem_cons.1 ht
    have hrest := ih ht
    rw [List.flatMap_cons, List.flatMap_cons]
    unfold escape_char
    split_ifs with hbackslash hquote hline hreturn htab
    · subst hbackslash
      exact .escape (by decide) hrest
    · subst hquote
      exact .escape (by decide) hrest
    · subst hline
      exact .escape (by decide) hrest
    · subst hreturn
      exact .escape (by decide) hrest
    · subst htab
      exact .escape (by decide) hrest
    · refine .unescaped ⟨?_, hquote, hbackslash⟩ hrest
      rcases hc with hc | hc | hc | hc
      · exact hc
      · exact absurd hc hline
      · exact absurd hc hreturn
      · exact absurd hc htab

theorem quoted_eq_utf8 {value : String} {units : List UInt16} (h : StandsString value units)
    (hescaped : ∀ c ∈ value.toList, Escaped c) :
    ∃ t, quoted value = utf8 t ∧ IsString t units := by
  obtain ⟨t, ht, rfl⟩ := h
  refine ⟨'"' :: (t.flatMap escape_char ++ ['"']), ?_, .quoted (escape_chars fun c hc => ?_)⟩
  · rw [quoted, escape_string, ht, escape_utf8, utf8_cons_of_lt (by decide), utf8_append,
      utf8_of_lt (c := '"') (by decide)]
  · by_cases hascii : c.toNat < 0x80
    · refine hescaped c ?_
      rw [ht, utf8, List.mem_flatMap]
      refine ⟨c, hc, ?_⟩
      have hself := utf8_of_lt hascii
      rw [utf8, List.flatMap_singleton] at hself
      rw [hself]
      exact List.mem_singleton_self c
    · exact .inl (by omega)

/-! ## Values -/

mutual

/-- The numbers of a tree are integral and not too large, its strings are in UTF-8, and this is
its value. -/
def Stands : OutputValue → Value → Prop
  | .null, .null => True
  | .boolean b, .boolean b' => b = b'
  | .number (.finite q _), .number q' => q = q' ∧ q.den = 1 ∧ |q| ≤ 2 ^ 53
  | .string value, .string units => StandsString value units
  | .array items, .array vs => StandsItems items vs
  | .object members, .object ms => StandsMembers members ms
  | _, _ => False

def StandsItems : List OutputValue → List Value → Prop
  | [], [] => True
  | item :: items, v :: vs => Stands item v ∧ StandsItems items vs
  | _, _ => False

def StandsMembers : List (String × OutputValue) → List (List UInt16 × Value) → Prop
  | [], [] => True
  | (key, value) :: members, (units, v) :: ms =>
    StandsString key units ∧ Stands value v ∧ StandsMembers members ms
  | _, _ => False

end

mutual

/-- No string and no key of the tree has a control character that `escape_string` leaves. -/
def AllEscaped : OutputValue → Prop
  | .null | .boolean _ | .number _ => True
  | .string value => ∀ c ∈ value.toList, Escaped c
  | .array items => ItemsEscaped items
  | .object members => MembersEscaped members

def ItemsEscaped : List OutputValue → Prop
  | [] => True
  | item :: items => AllEscaped item ∧ ItemsEscaped items

def MembersEscaped : List (String × OutputValue) → Prop
  | [] => True
  | (key, value) :: members =>
    (∀ c ∈ key.toList, Escaped c) ∧ AllEscaped value ∧ MembersEscaped members

end

theorem number_text_eq {q : ℚ} (h : Binary64 q) (hq : q.den = 1) :
    IsNumber (number_text (.finite q h)) q ∧
      utf8 (number_text (.finite q h)) = number_text (.finite q h) := by
  have hdigits : ∀ c ∈ Nat.toDigits 10 q.num.natAbs, c.toNat < 0x80 := fun c hc =>
    lt_of_le_of_lt (Char.isDigit_iff_toNat.1
      (Nat.isDigit_of_mem_toDigits (b := 10) (by decide) (by decide) hc)).2 (by decide)
  have hnum : (q.num : ℚ) = q := Rat.den_eq_one_iff q |>.1 hq
  unfold number_text
  dsimp only
  rw [if_pos hq]
  by_cases hneg : q < 0
  · have hsign : q.num < 0 := Rat.num_neg.2 hneg
    have habs : ((q.num.natAbs : ℕ) : ℚ) = -q := by
      have hint : (q.num.natAbs : ℤ) = -q.num := by omega
      rw [← Int.cast_natCast, hint, Int.cast_neg, hnum]
    rw [if_pos hneg, List.singleton_append]
    constructor
    · have hnumber := isNumber_minus_toDigits q.num.natAbs
      rwa [habs, neg_neg] at hnumber
    · exact utf8_eq_self (List.forall_mem_cons.2 ⟨by decide, hdigits⟩)
  · have hsign : 0 ≤ q.num := Rat.num_nonneg.2 (not_lt.1 hneg)
    have habs : ((q.num.natAbs : ℕ) : ℚ) = q := by
      rw [← Int.cast_natCast, Int.natAbs_of_nonneg hsign, hnum]
    rw [if_neg hneg, List.nil_append]
    constructor
    · have hnumber := isNumber_toDigits q.num.natAbs
      rwa [habs] at hnumber
    · exact utf8_eq_self hdigits

/-! ## Elements -/

/-- What follows an element, so that with it they are elements. -/
def Tail (t : List Char) (vs : List Value) : Prop :=
  ∀ e v, Derives e (.element v) → Derives (e ++ t) (.elements (v :: vs))

/-- What follows a member, so that with it they are members. -/
def MemberTail (t : List Char) (ms : List (List UInt16 × Value)) : Prop :=
  ∀ e key v, Derives e (.member key v) → Derives (e ++ t) (.members ((key, v) :: ms))

theorem element_append_ws {e b : List Char} {v : Value} (he : Derives e (.element v))
    (hb : Ws b) : Derives (e ++ b) (.element v) := by
  cases he with
  | element ha ht hb' =>
    rw [List.append_assoc]
    exact .element ha ht (hb'.append hb)

theorem element_of_ws {a e : List Char} {v : Value} (ha : Ws a) (he : Derives e (.value v)) :
    Derives (a ++ e) (.element v) := by
  have h := Derives.element ha he ws_nil
  rwa [List.append_nil] at h

theorem tail_nil {b : List Char} (hb : Ws b) : Tail b [] :=
  fun _ _ he => .last (element_append_ws he hb)

theorem Tail.cons {t e : List Char} {v : Value} {vs : List Value} (ht : Tail t vs)
    (he : Derives e (.element v)) : Tail (',' :: (e ++ t)) (v :: vs) :=
  fun _ _ hfirst => .more hfirst (ht e v he)

theorem member_append_ws {e b : List Char} {key : List UInt16} {v : Value}
    (he : Derives e (.member key v)) (hb : Ws b) : Derives (e ++ b) (.member key v) := by
  cases he with
  | member ha hk hb' ht =>
    rw [List.append_assoc, List.cons_append]
    exact .member ha hk hb' (element_append_ws ht hb)

theorem memberTail_nil {b : List Char} (hb : Ws b) : MemberTail b [] :=
  fun _ _ _ he => .last_member (member_append_ws he hb)

theorem MemberTail.cons {t e : List Char} {key : List UInt16} {v : Value}
    {ms : List (List UInt16 × Value)} (ht : MemberTail t ms) (he : Derives e (.member key v)) :
    MemberTail (',' :: (e ++ t)) ((key, v) :: ms) :=
  fun _ _ _ hfirst => .more_members hfirst (ht e key v he)

/-- A member with white space before its key and after its colon. -/
theorem member_of_ws {a k c e : List Char} {key : List UInt16} {v : Value} (ha : Ws a)
    (hk : IsString k key) (hc : Ws c) (he : Derives e (.value v)) :
    Derives (a ++ k ++ ':' :: (c ++ e)) (.member key v) := by
  have h := Derives.member ha hk ws_nil (element_of_ws hc he)
  rwa [List.append_nil] at h

theorem ws_space : Ws [' '] := ws_replicate 1

/-! ## The compact form -/

mutual

theorem output_value_spec (value : OutputValue) (v : Value) (h : Stands value v)
    (hescaped : AllEscaped value) :
    ∃ t, output_value_to_string value = utf8 t ∧ Derives t (.value v) := by
  match value, v with
  | .null, .null => exact ⟨_, (utf8_of_all (by decide)).symm, .null⟩
  | .boolean b, .boolean b' =>
    obtain rfl : b = b' := h
    cases b
    · exact ⟨_, (utf8_of_all (by decide)).symm, .false⟩
    · exact ⟨_, (utf8_of_all (by decide)).symm, .true⟩
  | .number (.finite q hq), .number q' =>
    obtain ⟨rfl, hden, -⟩ := h
    obtain ⟨hnumber, hutf8⟩ := number_text_eq hq hden
    exact ⟨_, hutf8.symm, .number hnumber⟩
  | .string s, .string units =>
    obtain ⟨t, ht, hstring⟩ := quoted_eq_utf8 h hescaped
    exact ⟨t, ht, .string hstring⟩
  | .array [], .array [] => exact ⟨_, (utf8_of_all (by decide)).symm, .no_elements ws_nil⟩
  | .array (item :: items), .array (v :: vs) =>
    obtain ⟨t, ht, hvalue⟩ := output_value_spec item v h.1 hescaped.1
    obtain ⟨ts, hts, htail⟩ := output_items_spec items vs h.2 hescaped.2
    refine ⟨'[' :: (t ++ ts ++ [']']), ?_, .array (htail t v hvalue.bare)⟩
    rw [output_value_to_string, ht, hts, utf8_cons_of_lt (by decide)]
    simp only [utf8_append, List.append_assoc]
  | .object [], .object [] => exact ⟨_, (utf8_of_all (by decide)).symm, .no_members ws_nil⟩
  | .object ((key, value) :: members), .object ((units, v) :: ms) =>
    obtain ⟨k, hk, hkey⟩ := quoted_eq_utf8 h.1 hescaped.1
    obtain ⟨t, ht, hvalue⟩ := output_value_spec value v h.2.1 hescaped.2.1
    obtain ⟨ts, hts, htail⟩ := output_members_spec members ms h.2.2 hescaped.2.2
    have hmember := member_of_ws ws_nil hkey ws_space hvalue
    refine ⟨'{' :: ([] ++ k ++ ':' :: ([' '] ++ t) ++ ts ++ ['}']), ?_,
      .object (htail _ _ _ hmember)⟩
    rw [output_value_to_string, ht, hts, hk]
    simp only [utf8_cons_of_lt (show '{'.toNat < 0x80 by decide), utf8_append,
      utf8_cons_of_lt (show ':'.toNat < 0x80 by decide),
      utf8_of_lt (show ' '.toNat < 0x80 by decide), List.nil_append, List.append_assoc]
    rfl

theorem output_items_spec (items : List OutputValue) (vs : List Value) (h : StandsItems items vs)
    (hescaped : ItemsEscaped items) :
    ∃ t, output_items items = utf8 (t ++ [']']) ∧ Tail t vs := by
  match items, vs with
  | [], [] => exact ⟨[], (utf8_of_all (by decide)).symm, tail_nil ws_nil⟩
  | item :: items, v :: vs =>
    obtain ⟨t, ht, hvalue⟩ := output_value_spec item v h.1 hescaped.1
    obtain ⟨ts, hts, htail⟩ := output_items_spec items vs h.2 hescaped.2
    refine ⟨',' :: (([' '] ++ t) ++ ts), ?_, htail.cons (element_of_ws ws_space hvalue)⟩
    rw [output_items, ht, hts]
    simp only [List.cons_append, utf8_cons_of_lt (show ','.toNat < 0x80 by decide), utf8_append,
      utf8_cons_of_lt (show ' '.toNat < 0x80 by decide), List.nil_append, List.append_assoc]
    rfl

theorem output_members_spec (members : List (String × OutputValue))
    (ms : List (List UInt16 × Value)) (h : StandsMembers members ms)
    (hescaped : MembersEscaped members) :
    ∃ t, output_members members = utf8 (t ++ ['}']) ∧ MemberTail t ms := by
  match members, ms with
  | [], [] => exact ⟨[], (utf8_of_all (by decide)).symm, memberTail_nil ws_nil⟩
  | (key, value) :: members, (units, v) :: ms =>
    obtain ⟨k, hk, hkey⟩ := quoted_eq_utf8 h.1 hescaped.1
    obtain ⟨t, ht, hvalue⟩ := output_value_spec value v h.2.1 hescaped.2.1
    obtain ⟨ts, hts, htail⟩ := output_members_spec members ms h.2.2 hescaped.2.2
    refine ⟨',' :: ([' '] ++ k ++ ':' :: ([' '] ++ t) ++ ts), ?_,
      htail.cons (member_of_ws ws_space hkey ws_space hvalue)⟩
    rw [output_members, ht, hts, hk]
    simp only [List.cons_append, utf8_cons_of_lt (show ','.toNat < 0x80 by decide), utf8_append,
      utf8_cons_of_lt (show ':'.toNat < 0x80 by decide),
      utf8_cons_of_lt (show ' '.toNat < 0x80 by decide), List.nil_append, List.append_assoc]
    rfl

end

/-! ## The pretty form -/

section

variable {n : ℕ}

theorem utf8_indent (depth : ℕ) : utf8 (indent n depth) = indent n depth :=
  utf8_eq_self fun c hc => by
    obtain rfl := List.eq_of_mem_replicate hc
    decide

theorem ws_line (depth : ℕ) : Ws ('\n' :: indent n depth) :=
  List.forall_mem_cons.2 ⟨.inr (.inr (.inl rfl)), ws_replicate _⟩

theorem utf8_line (depth : ℕ) : utf8 ('\n' :: indent n depth) = '\n' :: indent n depth := by
  rw [utf8_cons_of_lt (by decide), utf8_indent]

mutual

theorem pretty_output_value_spec (depth : ℕ) (value : OutputValue) (v : Value)
    (h : Stands value v) (hescaped : AllEscaped value) :
    ∃ t, pretty_output_value n depth value = utf8 t ∧ Derives t (.value v) := by
  match value, v with
  | .null, _ | .boolean _, _ | .number _, _ | .string _, _ =>
    simp only [pretty_output_value]
    exact output_value_spec _ _ h hescaped
  | .array [], .array [] =>
    exact ⟨_, by rw [pretty_output_value]; exact (utf8_of_all (by decide)).symm,
      .no_elements ws_nil⟩
  | .array (item :: items), .array (v :: vs) =>
    obtain ⟨t, ht, hvalue⟩ := pretty_output_value_spec (depth + 1) item v h.1 hescaped.1
    obtain ⟨ts, hts, htail⟩ := pretty_items_spec depth items vs h.2 hescaped.2
    refine ⟨'[' :: (('\n' :: indent n (depth + 1)) ++ t ++ ts ++ [']']), ?_,
      .array (htail _ v (element_of_ws (ws_line _) hvalue))⟩
    rw [pretty_output_value, ht, hts, utf8_cons_of_lt (by decide)]
    simp only [utf8_append, utf8_line, List.append_assoc]
    rfl
  | .object [], .object [] =>
    exact ⟨_, by rw [pretty_output_value]; exact (utf8_of_all (by decide)).symm,
      .no_members ws_nil⟩
  | .object ((key, value) :: members), .object ((units, v) :: ms) =>
    obtain ⟨k, hk, hkey⟩ := quoted_eq_utf8 h.1 hescaped.1
    obtain ⟨t, ht, hvalue⟩ := pretty_output_value_spec (depth + 1) value v h.2.1 hescaped.2.1
    obtain ⟨ts, hts, htail⟩ := pretty_members_spec depth members ms h.2.2 hescaped.2.2
    have hmember := member_of_ws (ws_line (n := n) (depth + 1)) hkey ws_space hvalue
    refine ⟨'{' :: (('\n' :: indent n (depth + 1)) ++ k ++ ':' :: ([' '] ++ t) ++ ts ++ ['}']),
      ?_, .object (htail _ _ _ hmember)⟩
    rw [pretty_output_value, ht, hts, hk, utf8_cons_of_lt (by decide)]
    simp only [utf8_append, utf8_line, utf8_cons_of_lt (show ':'.toNat < 0x80 by decide),
      utf8_of_lt (show ' '.toNat < 0x80 by decide), List.append_assoc]
    rfl

theorem pretty_items_spec (depth : ℕ) (items : List OutputValue) (vs : List Value)
    (h : StandsItems items vs) (hescaped : ItemsEscaped items) :
    ∃ t, pretty_items n depth items = utf8 (t ++ [']']) ∧ Tail t vs := by
  match items, vs with
  | [], [] =>
    refine ⟨'\n' :: indent n depth, ?_, tail_nil (ws_line depth)⟩
    rw [pretty_items, utf8_append, utf8_line]
    rfl
  | item :: items, v :: vs =>
    obtain ⟨t, ht, hvalue⟩ := pretty_output_value_spec (depth + 1) item v h.1 hescaped.1
    obtain ⟨ts, hts, htail⟩ := pretty_items_spec depth items vs h.2 hescaped.2
    refine ⟨',' :: (('\n' :: indent n (depth + 1)) ++ t ++ ts), ?_,
      htail.cons (element_of_ws (ws_line _) hvalue)⟩
    rw [pretty_items, ht, hts, List.cons_append, utf8_cons_of_lt (by decide)]
    simp only [utf8_append, utf8_line, List.append_assoc]
    rfl

theorem pretty_members_spec (depth : ℕ) (members : List (String × OutputValue))
    (ms : List (List UInt16 × Value)) (h : StandsMembers members ms)
    (hescaped : MembersEscaped members) :
    ∃ t, pretty_members n depth members = utf8 (t ++ ['}']) ∧ MemberTail t ms := by
  match members, ms with
  | [], [] =>
    refine ⟨'\n' :: indent n depth, ?_, memberTail_nil (ws_line depth)⟩
    rw [pretty_members, utf8_append, utf8_line]
    rfl
  | (key, value) :: members, (units, v) :: ms =>
    obtain ⟨k, hk, hkey⟩ := quoted_eq_utf8 h.1 hescaped.1
    obtain ⟨t, ht, hvalue⟩ := pretty_output_value_spec (depth + 1) value v h.2.1 hescaped.2.1
    obtain ⟨ts, hts, htail⟩ := pretty_members_spec depth members ms h.2.2 hescaped.2.2
    have hmember := member_of_ws (ws_line (n := n) (depth + 1)) hkey ws_space hvalue
    refine ⟨',' :: (('\n' :: indent n (depth + 1)) ++ k ++ ':' :: ([' '] ++ t) ++ ts), ?_,
      htail.cons hmember⟩
    rw [pretty_members, ht, hts, hk, List.cons_append, utf8_cons_of_lt (by decide)]
    simp only [utf8_append, utf8_line, utf8_cons_of_lt (show ':'.toNat < 0x80 by decide),
      utf8_of_lt (show ' '.toNat < 0x80 by decide), List.append_assoc]
    rfl

end

end

/-! ## Control characters -/

theorem plain_left {s t : List Char} (h : Plain (s ++ t)) : Plain s :=
  fun c hc => h c (List.mem_append_left t hc)

theorem plain_right {s t : List Char} (h : Plain (s ++ t)) : Plain t :=
  fun c hc => h c (List.mem_append_right s hc)

theorem plain_tail {c : Char} {t : List Char} (h : Plain (c :: t)) : Plain t :=
  plain_right (s := [c]) h

theorem escaped_of_quoted {value : String} (h : Plain (quoted value)) :
    ∀ c ∈ value.toList, Escaped c := by
  intro c hc
  by_contra hnot
  simp only [Escaped, not_or] at hnot
  obtain ⟨hspace, hline, hreturn, htab⟩ := hnot
  have hself : escape_char c = [c] := by
    have hne (d : Char) (hd : 0x20 ≤ d.toNat) : c ≠ d := by
      rintro rfl
      exact hspace hd
    unfold escape_char
    rw [if_neg (hne _ (by decide)), if_neg (hne _ (by decide)), if_neg hline, if_neg hreturn,
      if_neg htab]
  have hmem : c ∈ quoted value := by
    refine List.mem_cons_of_mem _ (List.mem_append_left _ (List.mem_flatMap.2 ⟨c, hc, ?_⟩))
    rw [hself]
    exact List.mem_singleton_self c
  rcases h c hmem with hle | rfl | rfl | rfl | rfl
  · exact hspace hle
  · exact hspace (by decide)
  · exact htab rfl
  · exact hline rfl
  · exact hreturn rfl

mutual

theorem allEscaped_of_plain (value : OutputValue) (h : Plain (output_value_to_string value)) :
    AllEscaped value := by
  match value with
  | .null | .boolean _ | .number _ | .array [] | .object [] => trivial
  | .string s => exact escaped_of_quoted h
  | .array (item :: items) =>
    rw [output_value_to_string] at h
    have hparts := plain_tail h
    exact ⟨allEscaped_of_plain item (plain_left hparts),
      itemsEscaped_of_plain items (plain_right hparts)⟩
  | .object ((key, value) :: members) =>
    rw [output_value_to_string] at h
    have hparts := plain_tail h
    exact ⟨escaped_of_quoted (plain_left (plain_left (plain_left hparts))),
      allEscaped_of_plain value (plain_right (plain_left hparts)),
      membersEscaped_of_plain members (plain_right hparts)⟩

theorem itemsEscaped_of_plain (items : List OutputValue) (h : Plain (output_items items)) :
    ItemsEscaped items := by
  match items with
  | [] => trivial
  | item :: items =>
    rw [output_items] at h
    exact ⟨allEscaped_of_plain item (plain_right (plain_left h)),
      itemsEscaped_of_plain items (plain_right h)⟩

theorem membersEscaped_of_plain (members : List (String × OutputValue))
    (h : Plain (output_members members)) : MembersEscaped members := by
  match members with
  | [] => trivial
  | (key, value) :: members =>
    rw [output_members] at h
    exact ⟨escaped_of_quoted (plain_right (plain_left (plain_left (plain_left h)))),
      allEscaped_of_plain value (plain_right (plain_left h)),
      membersEscaped_of_plain members (plain_right h)⟩

end

/-! ## Both forms -/

/-- The bytes are a JSON text in UTF-8 with this value. -/
def Prints (bytes : List Char) (v : Value) : Prop := ∃ t, bytes = utf8 t ∧ IsText t v

/-- Both forms of a value, the pretty one with any indentation, are JSON texts with that value
exactly if no string and no key of it has a control character that is left as it is. -/
theorem prints_iff (value : OutputValue) (v : Value) (h : Stands value v) :
    (Prints (output_value_to_string value) v ∧
      ∀ n, Prints (output_value_to_pretty_string value n).toList v) ↔ AllEscaped value := by
  constructor
  · rintro ⟨⟨t, ht, htext⟩, -⟩
    refine allEscaped_of_plain value ?_
    rw [ht]
    exact plain_utf8 htext.printable
  · intro hescaped
    refine ⟨?_, fun n => ?_⟩
    · obtain ⟨t, ht, hvalue⟩ := output_value_spec value v h hescaped
      exact ⟨t, ht, hvalue.bare⟩
    · obtain ⟨t, ht, hvalue⟩ := @pretty_output_value_spec (max n 1) 0 value v h hescaped
      exact ⟨t, by rw [output_value_to_pretty_string, String.toList_ofList, ht], hvalue.bare⟩

/-- An object with a micro sign, a quote and a line feed. -/
def sampleValue : OutputValue :=
  .object [("\u00c2\u00b5A", .array [.number (.ofInt (-12)), .boolean true]),
    ("say \"x\"", .string "a\nb")]

def sampleMeaning : Value :=
  .object [([0xb5, 0x41], .array [.number (-12), .boolean true]),
    ("say \"x\"".toList.flatMap utf16, .string [0x61, 0x0a, 0x62])]

theorem stands_sample : Stands sampleValue sampleMeaning := by
  refine ⟨⟨['\u00b5', 'A'], by decide, by decide⟩, ⟨⟨?_, ?_, ?_⟩, rfl, trivial⟩,
    ⟨"say \"x\"".toList, by decide, rfl⟩, ⟨['a', '\n', 'b'], by decide, by decide⟩, trivial⟩
  all_goals decide +kernel

theorem prints_sample : Prints (output_value_to_string sampleValue) sampleMeaning ∧
    ∀ n, Prints (output_value_to_pretty_string sampleValue n).toList sampleMeaning :=
  (prints_iff sampleValue sampleMeaning stands_sample).2
    ⟨escaped_of_all (by decide), ⟨trivial, trivial, trivial⟩, escaped_of_all (by decide),
      escaped_of_all (by decide), trivial⟩

/-- A bell is printed as it is. -/
theorem bell_not_escaped : ¬ ∀ value v, Stands value v →
    Prints (output_value_to_string value) v ∧
      ∀ n, Prints (output_value_to_pretty_string value n).toList v := by
  intro hclaim
  have hstands : Stands (.string "\x07") (.string [7]) := ⟨['\x07'], by decide, by decide⟩
  obtain ⟨⟨t, ht, htext⟩, -⟩ := hclaim _ _ hstands
  have hplain := plain_utf8 htext.printable
  rw [← ht] at hplain
  exact absurd hplain (by decide)

end FactoryTest.Serialization

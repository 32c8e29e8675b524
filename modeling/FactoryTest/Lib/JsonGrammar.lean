import Mathlib.Algebra.Order.Field.Rat
import Mathlib.Data.List.Basic
import Mathlib.Tactic.Common
import Mathlib.Tactic.IntervalCases

/-!
# The grammar of JSON

Which texts are JSON, and which value each of them has (`IsText`). A text is a list of
characters. A value keeps a string as its UTF-16 code units, so that every escape has a value,
and an object as the list of its members.

The phrases of the grammar (`Phrase`) are derived by one relation, so that a fact about all of
them is one induction.
-/

namespace FactoryTest.JsonGrammar

/-- What a text says. -/
inductive Value
  | null
  | boolean (b : Bool)
  | number (q : ℚ)
  | string (units : List UInt16)
  | array (values : List Value)
  | object (members : List (List UInt16 × Value))

/-! ## White space, numbers and strings -/

/-- White space. -/
def IsWs (c : Char) : Prop := c = ' ' ∨ c = '\t' ∨ c = '\n' ∨ c = '\r'

def Ws (t : List Char) : Prop := ∀ c ∈ t, IsWs c

def Digits (t : List Char) : Prop := ∀ c ∈ t, c.isDigit = true

/-- `int`, without a sign. -/
inductive IntPart : List Char → ℕ → Prop
  | zero : IntPart ['0'] 0
  | digits {c : Char} {t : List Char} (hdigits : Digits (c :: t)) (hzero : c ≠ '0') :
    IntPart (c :: t) (Nat.ofDigitChars 10 (c :: t) 0)

/-- `frac`, or nothing. -/
inductive Frac : List Char → ℚ → Prop
  | none : Frac [] 0
  | point {t : List Char} (hdigits : Digits t) (hne : t ≠ []) :
    Frac ('.' :: t) (Nat.ofDigitChars 10 t 0 / 10 ^ t.length)

/-- `exp`, or nothing. -/
inductive Exp : List Char → ℤ → Prop
  | none : Exp [] 0
  | plain {e : Char} {t : List Char} (he : e = 'e' ∨ e = 'E') (hdigits : Digits t)
    (hne : t ≠ []) : Exp (e :: t) (Nat.ofDigitChars 10 t 0)
  | plus {e : Char} {t : List Char} (he : e = 'e' ∨ e = 'E') (hdigits : Digits t)
    (hne : t ≠ []) : Exp (e :: '+' :: t) (Nat.ofDigitChars 10 t 0)
  | minus {e : Char} {t : List Char} (he : e = 'e' ∨ e = 'E') (hdigits : Digits t)
    (hne : t ≠ []) : Exp (e :: '-' :: t) (-Nat.ofDigitChars 10 t 0)

/-- `number`. -/
inductive IsNumber : List Char → ℚ → Prop
  | plain {i f e : List Char} {n : ℕ} {q : ℚ} {k : ℤ} (hi : IntPart i n) (hf : Frac f q)
    (he : Exp e k) : IsNumber (i ++ f ++ e) ((n + q) * 10 ^ k)
  | minus {i f e : List Char} {n : ℕ} {q : ℚ} {k : ℤ} (hi : IntPart i n) (hf : Frac f q)
    (he : Exp e k) : IsNumber ('-' :: (i ++ f ++ e)) (-((n + q) * 10 ^ k))

/-- The UTF-16 code units of a character. -/
def utf16 (c : Char) : List UInt16 :=
  if c.toNat < 0x10000 then [UInt16.ofNat c.toNat]
  else [UInt16.ofNat (0xD800 + (c.toNat - 0x10000) / 0x400),
    UInt16.ofNat (0xDC00 + (c.toNat - 0x10000) % 0x400)]

/-- `unescaped`. -/
def Unescaped (c : Char) : Prop := 0x20 ≤ c.toNat ∧ c ≠ '"' ∧ c ≠ '\\'

/-- The characters that may follow a backslash, with what they stand for. -/
def escapes : List (Char × Char) :=
  [('"', '"'), ('\\', '\\'), ('/', '/'), ('b', '\x08'), ('f', '\x0c'), ('n', '\n'), ('r', '\r'),
    ('t', '\t')]

/-- The value of a hexadecimal digit. -/
def hex? (c : Char) : Option ℕ :=
  if c.isDigit then some (c.toNat - '0'.toNat)
  else if 'a'.toNat ≤ c.toNat ∧ c.toNat ≤ 'f'.toNat then some (c.toNat - 'a'.toNat + 10)
  else if 'A'.toNat ≤ c.toNat ∧ c.toNat ≤ 'F'.toNat then some (c.toNat - 'A'.toNat + 10)
  else none

/-- What stands between the quotes of a string. -/
inductive Chars : List Char → List UInt16 → Prop
  | nil : Chars [] []
  | unescaped {c : Char} {t : List Char} {units : List UInt16} (hc : Unescaped c)
    (ht : Chars t units) : Chars (c :: t) (utf16 c ++ units)
  | escape {c d : Char} {t : List Char} {units : List UInt16} (hc : (c, d) ∈ escapes)
    (ht : Chars t units) : Chars ('\\' :: c :: t) (utf16 d ++ units)
  | unit {a b c d : Char} {h i j k : ℕ} {t : List Char} {units : List UInt16}
    (ha : hex? a = some h) (hb : hex? b = some i) (hc : hex? c = some j) (hd : hex? d = some k)
    (ht : Chars t units) : Chars ('\\' :: 'u' :: a :: b :: c :: d :: t)
      (UInt16.ofNat (((16 * h + i) * 16 + j) * 16 + k) :: units)

/-- `string`. -/
inductive IsString : List Char → List UInt16 → Prop
  | quoted {t : List Char} {units : List UInt16} (ht : Chars t units) :
    IsString ('"' :: (t ++ ['"'])) units

/-! ## Values -/

/-- A phrase of the grammar. An element is a value with white space around it; elements and
members are at least one, with commas between them. -/
inductive Phrase
  | value (v : Value)
  | element (v : Value)
  | elements (vs : List Value)
  | member (key : List UInt16) (v : Value)
  | members (ms : List (List UInt16 × Value))

/-- The text is the phrase. -/
inductive Derives : List Char → Phrase → Prop
  | null : Derives ['n', 'u', 'l', 'l'] (.value .null)
  | true : Derives ['t', 'r', 'u', 'e'] (.value (.boolean true))
  | false : Derives ['f', 'a', 'l', 's', 'e'] (.value (.boolean false))
  | number {t : List Char} {q : ℚ} (ht : IsNumber t q) : Derives t (.value (.number q))
  | string {t : List Char} {units : List UInt16} (ht : IsString t units) :
    Derives t (.value (.string units))
  | no_elements {t : List Char} (ht : Ws t) :
    Derives ('[' :: (t ++ [']'])) (.value (.array []))
  | array {t : List Char} {vs : List Value} (ht : Derives t (.elements vs)) :
    Derives ('[' :: (t ++ [']'])) (.value (.array vs))
  | no_members {t : List Char} (ht : Ws t) :
    Derives ('{' :: (t ++ ['}'])) (.value (.object []))
  | object {t : List Char} {ms : List (List UInt16 × Value)} (ht : Derives t (.members ms)) :
    Derives ('{' :: (t ++ ['}'])) (.value (.object ms))
  | element {a t b : List Char} {v : Value} (ha : Ws a) (ht : Derives t (.value v)) (hb : Ws b) :
    Derives (a ++ t ++ b) (.element v)
  | last {t : List Char} {v : Value} (ht : Derives t (.element v)) : Derives t (.elements [v])
  | more {t ts : List Char} {v : Value} {vs : List Value} (ht : Derives t (.element v))
    (hts : Derives ts (.elements vs)) : Derives (t ++ ',' :: ts) (.elements (v :: vs))
  | member {a k b t : List Char} {key : List UInt16} {v : Value} (ha : Ws a) (hk : IsString k key)
    (hb : Ws b) (ht : Derives t (.element v)) : Derives (a ++ k ++ b ++ ':' :: t) (.member key v)
  | last_member {t : List Char} {key : List UInt16} {v : Value} (ht : Derives t (.member key v)) :
    Derives t (.members [(key, v)])
  | more_members {t ts : List Char} {key : List UInt16} {v : Value}
    {ms : List (List UInt16 × Value)} (ht : Derives t (.member key v))
    (hts : Derives ts (.members ms)) : Derives (t ++ ',' :: ts) (.members ((key, v) :: ms))

/-- The text is JSON with this value. -/
def IsText (t : List Char) (v : Value) : Prop := Derives t (.element v)

theorem ws_nil : Ws [] := fun _ h => absurd h List.not_mem_nil

theorem Ws.append {s t : List Char} (hs : Ws s) (ht : Ws t) : Ws (s ++ t) := by
  intro c hc
  exact (List.mem_append.1 hc).elim (hs c) (ht c)

theorem ws_replicate (n : ℕ) : Ws (List.replicate n ' ') :=
  fun _ hc => .inl (List.eq_of_mem_replicate hc)

/-- A value with nothing around it. -/
theorem Derives.bare {t : List Char} {v : Value} (ht : Derives t (.value v)) :
    Derives t (.element v) := by
  have h := Derives.element ws_nil ht ws_nil
  rwa [List.nil_append, List.append_nil] at h

/-! ## Integers -/

theorem ne_zero_of_toDigits {n : ℕ} (hn : n ≠ 0) {c : Char} {t : List Char}
    (h : Nat.toDigits 10 n = c :: t) : c ≠ '0' := by
  induction n using Nat.strong_induction_on generalizing c t with
  | _ n ih =>
    by_cases hlt : n < 10
    · rw [Nat.toDigits_of_lt_base hlt] at h
      obtain rfl := (List.cons.inj h).1
      interval_cases n
      · exact absurd rfl hn
      all_goals decide
    · rw [Nat.toDigits_of_base_le (by decide) (not_lt.1 hlt)] at h
      obtain ⟨d, s, hhigh⟩ :=
        List.exists_cons_of_ne_nil (Nat.toDigits_ne_nil (b := 10) (n := n / 10))
      rw [hhigh, List.cons_append] at h
      obtain ⟨rfl, -⟩ := List.cons.inj h
      exact ih (n / 10) (Nat.div_lt_self (by omega) (by decide)) (by omega) hhigh

theorem intPart_toDigits (n : ℕ) : IntPart (Nat.toDigits 10 n) n := by
  by_cases hn : n = 0
  · subst hn
    exact .zero
  · obtain ⟨c, t, h⟩ := List.exists_cons_of_ne_nil (Nat.toDigits_ne_nil (b := 10) (n := n))
    have hdigits : Digits (c :: t) := fun d hd =>
      Nat.isDigit_of_mem_toDigits (b := 10) (n := n) (by decide) (by decide) (h ▸ hd)
    have hint := IntPart.digits hdigits (ne_zero_of_toDigits hn h)
    rwa [← h, Nat.ofDigitChars_ten_toDigits] at hint

/-- The digits of a natural number are a number. -/
theorem isNumber_toDigits (n : ℕ) : IsNumber (Nat.toDigits 10 n) n := by
  have h := IsNumber.plain (intPart_toDigits n) .none .none
  simpa using h

theorem isNumber_minus_toDigits (n : ℕ) : IsNumber ('-' :: Nat.toDigits 10 n) (-n) := by
  have h := IsNumber.minus (intPart_toDigits n) .none .none
  simpa using h

/-! ## Control characters -/

/-- The only control characters are white space. -/
def Plain (t : List Char) : Prop := ∀ c ∈ t, 0x20 ≤ c.toNat ∨ IsWs c

instance (c : Char) : Decidable (IsWs c) := by
  unfold IsWs
  infer_instance

instance (t : List Char) : Decidable (Plain t) := List.decidableBAll _ t

theorem Plain.append {s t : List Char} (hs : Plain s) (ht : Plain t) : Plain (s ++ t) := by
  intro c hc
  exact (List.mem_append.1 hc).elim (hs c) (ht c)

theorem Plain.cons {c : Char} {t : List Char} (hc : 0x20 ≤ c.toNat) (ht : Plain t) :
    Plain (c :: t) :=
  List.forall_mem_cons.2 ⟨.inl hc, ht⟩

theorem Ws.plain {t : List Char} (ht : Ws t) : Plain t := fun c hc => .inr (ht c hc)

theorem space_le_of_isDigit {c : Char} (hc : c.isDigit = true) : 0x20 ≤ c.toNat :=
  le_trans (by decide) (Char.isDigit_iff_toNat.1 hc).1

theorem Digits.plain {t : List Char} (ht : Digits t) : Plain t :=
  fun c hc => .inl (space_le_of_isDigit (ht c hc))

theorem space_le_of_hex? {c : Char} {n : ℕ} (h : hex? c = some n) : 0x20 ≤ c.toNat := by
  unfold hex? at h
  split_ifs at h with hdigit hlower hupper
  · exact space_le_of_isDigit hdigit
  · exact le_trans (by decide) hlower.1
  · exact le_trans (by decide) hupper.1

/-- A property of digits, signs, the point and the letters of an exponent is one of all the
characters of a number. -/
theorem IsNumber.forall_mem {P : Char → Prop} (hdigit : ∀ c : Char, c.isDigit = true → P c)
    (hsign : P '-') (hplus : P '+') (hpoint : P '.') (hlower : P 'e') (hupper : P 'E')
    {t : List Char} {q : ℚ} (h : IsNumber t q) : ∀ c ∈ t, P c := by
  have hint {i : List Char} {n : ℕ} (hi : IntPart i n) : ∀ c ∈ i, P c := by
    cases hi with
    | zero => exact List.forall_mem_singleton.2 (hdigit _ (by decide))
    | digits hdigits => exact fun c hc => hdigit c (hdigits c hc)
  have hfrac {f : List Char} {q : ℚ} (hf : Frac f q) : ∀ c ∈ f, P c := by
    cases hf with
    | none => exact List.forall_mem_nil _
    | point hdigits => exact List.forall_mem_cons.2 ⟨hpoint, fun c hc => hdigit c (hdigits c hc)⟩
  have hletter {e : Char} (he : e = 'e' ∨ e = 'E') : P e := by
    rcases he with rfl | rfl
    · exact hlower
    · exact hupper
  have hexp {e : List Char} {k : ℤ} (he : Exp e k) : ∀ c ∈ e, P c := by
    cases he with
    | none => exact List.forall_mem_nil _
    | plain he hdigits =>
      exact List.forall_mem_cons.2 ⟨hletter he, fun c hc => hdigit c (hdigits c hc)⟩
    | plus he hdigits =>
      exact List.forall_mem_cons.2
        ⟨hletter he, List.forall_mem_cons.2 ⟨hplus, fun c hc => hdigit c (hdigits c hc)⟩⟩
    | minus he hdigits =>
      exact List.forall_mem_cons.2
        ⟨hletter he, List.forall_mem_cons.2 ⟨hsign, fun c hc => hdigit c (hdigits c hc)⟩⟩
  have hunsigned {i f e : List Char} {n : ℕ} {q : ℚ} {k : ℤ} (hi : IntPart i n) (hf : Frac f q)
      (he : Exp e k) : ∀ c ∈ i ++ f ++ e, P c :=
    List.forall_mem_append.2 ⟨List.forall_mem_append.2 ⟨hint hi, hfrac hf⟩, hexp he⟩
  cases h with
  | plain hi hf he => exact hunsigned hi hf he
  | minus hi hf he => exact List.forall_mem_cons.2 ⟨hsign, hunsigned hi hf he⟩

theorem IsNumber.printable {t : List Char} {q : ℚ} (h : IsNumber t q) : Plain t :=
  h.forall_mem (fun _ hc => .inl (space_le_of_isDigit hc)) (by decide) (by decide) (by decide)
    (by decide) (by decide)

theorem Chars.printable {t : List Char} {units : List UInt16} (h : Chars t units) : Plain t := by
  induction h with
  | nil => decide
  | unescaped hc _ ih => exact ih.cons hc.1
  | escape hc _ ih =>
    have htable : ∀ p ∈ escapes, 0x20 ≤ p.1.toNat := by decide
    exact (ih.cons (htable _ hc)).cons (by decide)
  | unit ha hb hc hd _ ih =>
    exact (((((ih.cons (space_le_of_hex? hd)).cons (space_le_of_hex? hc)).cons
      (space_le_of_hex? hb)).cons (space_le_of_hex? ha)).cons (by decide)).cons (by decide)

theorem IsString.printable {t : List Char} {units : List UInt16} (h : IsString t units) :
    Plain t := by
  cases h with
  | quoted ht => exact (ht.printable.append (by decide)).cons (by decide)

/-- No text has a control character other than white space. -/
theorem Derives.printable {t : List Char} {p : Phrase} (h : Derives t p) : Plain t := by
  induction h with
  | null | true | false => decide
  | number ht => exact ht.printable
  | string ht => exact ht.printable
  | no_elements ht | no_members ht => exact (ht.plain.append (by decide)).cons (by decide)
  | array _ ih | object _ ih => exact (ih.append (by decide)).cons (by decide)
  | element ha _ hb ih => exact (ha.plain.append ih).append hb.plain
  | last _ ih | last_member _ ih => exact ih
  | more _ _ ih ihs | more_members _ _ ih ihs => exact ih.append (ihs.cons (by decide))
  | member ha hk hb _ ih =>
    exact ((ha.plain.append hk.printable).append hb.plain).append (ih.cons (by decide))

end FactoryTest.JsonGrammar

import FactoryTest.Lib.JsonGrammar

/-!
# Navigation sentences

`inspect_navigation_nmea_line` looks for sentences `$ID,FIELDS*HH` with a checksum.

**Where it fails.** It looks for the first comma and the first star, but not for what comes after
the two digits, nor for which of the two comes first. So it takes `$GGA,*6DX`, and in `$X*58GGA,`
it takes the type from text that no checksum covers (`trailing_text_counts`).

**Where it holds** (`inspect_exact_iff`). On every line without text after the digits. A line
with the star before the comma has such text.
-/

namespace FactoryTest.CapLora1262

open JsonGrammar (hex?)

abbrev Bytes := List UInt8

/-! ## The code -/

structure GpsTestResult where
  nmea_detected : Bool := false
  valid_sentence_count : UInt32 := 0
  last_sentence_type : Bytes := []
  ic_info : Bytes := []
  error_message : String := ""
  deriving DecidableEq

/-- The bytes of a literal. -/
def bytes (literal : String) : Bytes := literal.toList.map Char.toUInt8

/-- `std::toupper` in the C locale. -/
def toupper (character : UInt8) : UInt8 :=
  if 'a'.toUInt8 ≤ character ∧ character ≤ 'z'.toUInt8 then character - 32 else character

/-- `none` stands for -1. -/
def hex_nibble (character : UInt8) : Option ℕ :=
  if '0'.toUInt8 ≤ character ∧ character ≤ '9'.toUInt8 then
    some (character.toNat - '0'.toNat)
  else if 'A'.toUInt8 ≤ toupper character ∧ toupper character ≤ 'F'.toUInt8 then
    some ((toupper character).toNat - 'A'.toNat + 10)
  else none

def xor (body : Bytes) : UInt8 := body.foldl (· ^^^ ·) 0

/-- The types that are compared with, in their order. -/
def navigation_types : List Bytes :=
  ["GGA", "GLL", "GSA", "GSV", "RMC", "VTG", "ZDA", "GST"].map bytes

/-- What an accepted sentence changes. -/
def GpsTestResult.count (result : GpsTestResult) (type : Bytes) : GpsTestResult :=
  { result with
    nmea_detected := true
    valid_sentence_count := result.valid_sentence_count + 1
    last_sentence_type := type }

/-- The last three bytes of the sentence id. -/
def type_of (sentence_id : Bytes) : Bytes := sentence_id.drop (sentence_id.length - 3)

/-- `inspect_navigation_nmea_line`, with the result it leaves. -/
def inspect_navigation_nmea_line (line : Bytes) (result : GpsTestResult) : Bool × GpsTestResult :=
  if line.length < 7 ∨ line.head? ≠ some '$'.toUInt8 then (false, result)
  else match line.idxOf? ','.toUInt8, line.idxOf? '*'.toUInt8 with
    | some comma, some star =>
      if comma < 3 ∨ line.length ≤ star + 2 then (false, result)
      else match hex_nibble (line.getD (star + 1) 0), hex_nibble (line.getD (star + 2) 0) with
        | some checksum_high, some checksum_low =>
          if xor ((line.take star).drop 1) ≠ UInt8.ofNat (checksum_high <<< 4 ||| checksum_low) then
            (false, result)
          else
            let sentence_id := (line.drop 1).take (comma - 1)
            if sentence_id.length < 3 then (false, result)
            else if type_of sentence_id ∉ navigation_types then (false, result)
            else (true, result.count (type_of sentence_id))
        | _, _ => (false, result)
    | _, _ => (false, result)

/-! ## Sentences -/

/-- The two bytes are hexadecimal digits, and their value is the checksum of the body. -/
def Sums (body : Bytes) (h1 h2 : UInt8) : Prop :=
  ∃ high ∈ hex? (Char.ofNat h1.toNat), ∃ low ∈ hex? (Char.ofNat h2.toNat),
    (xor body).toNat = 16 * high + low

instance (body : Bytes) (h1 h2 : UInt8) : Decidable (Sums body h1 h2) := by
  unfold Sums
  infer_instance

/-- The id of a navigation sentence: what stands before the first comma. -/
structure Navigation (id : Bytes) : Prop where
  comma : ','.toUInt8 ∉ id
  length : 3 ≤ id.length
  type : type_of id ∈ navigation_types

/-- The line is a navigation sentence. -/
def IsSentence (line : Bytes) : Prop :=
  ∃ id fields h1 h2,
    line = '$'.toUInt8 :: (id ++ ','.toUInt8 :: (fields ++ ['*'.toUInt8, h1, h2])) ∧
    Navigation id ∧ '*'.toUInt8 ∉ id ∧ '*'.toUInt8 ∉ fields ∧
    Sums (id ++ ','.toUInt8 :: fields) h1 h2

instance (id : Bytes) : Decidable (Navigation id) :=
  decidable_of_iff (','.toUInt8 ∉ id ∧ 3 ≤ id.length ∧ type_of id ∈ navigation_types)
    ⟨fun ⟨hcomma, hlength, htype⟩ => ⟨hcomma, hlength, htype⟩,
      fun h => ⟨h.comma, h.length, h.type⟩⟩

/-- The bytes before the first comma of the line are such an id, and those before the first star
have their checksum after it. There the line goes on with the tail. -/
structure Reads (line id tail : Bytes) : Prop where
  navigation : Navigation id
  named : ∃ rest, line = '$'.toUInt8 :: (id ++ ','.toUInt8 :: rest)
  summed : ∃ body h1 h2, line = '$'.toUInt8 :: (body ++ '*'.toUInt8 :: h1 :: h2 :: tail) ∧
    '*'.toUInt8 ∉ body ∧ Sums body h1 h2

/-! ## Positions -/

section Positions

variable {α : Type*} [BEq α] [LawfulBEq α]

theorem idxOf?_append_cons {a : α} {xs : List α} (ha : a ∉ xs) (ys : List α) :
    (xs ++ a :: ys).idxOf? a = some xs.length := by
  induction xs with
  | nil => simp [List.idxOf?_cons]
  | cons x xs ih =>
    obtain ⟨hx, ha⟩ := not_or.1 (fun h => ha (List.mem_cons.2 h))
    rw [List.cons_append, List.idxOf?_cons, ih ha, if_neg (by simpa using Ne.symm hx)]
    rfl

theorem exists_append_of_idxOf? {a : α} {xs : List α} {i : ℕ} (h : xs.idxOf? a = some i) :
    ∃ front back, xs = front ++ a :: back ∧ a ∉ front ∧ front.length = i := by
  induction xs generalizing i with
  | nil => simp at h
  | cons x xs ih =>
    rw [List.idxOf?_cons] at h
    split_ifs at h with hx
    · obtain rfl : x = a := by simpa using hx
      exact ⟨[], xs, rfl, List.not_mem_nil, Option.some.inj h⟩
    · obtain ⟨j, hj, rfl⟩ := Option.map_eq_some_iff.1 h
      obtain ⟨front, back, rfl, ha, rfl⟩ := ih hj
      refine ⟨x :: front, back, rfl, ?_, rfl⟩
      rw [List.mem_cons, not_or]
      exact ⟨fun heq => hx (by simp [heq]), ha⟩

/-- A list is cut in one way at the first place of an element. -/
theorem append_cons_inj {a : α} {xs ys xs' ys' : List α} (h : xs ++ a :: ys = xs' ++ a :: ys')
    (ha : a ∉ xs) (ha' : a ∉ xs') : xs = xs' ∧ ys = ys' := by
  have hlength : xs.length = xs'.length := by
    have hcongr := congrArg (List.idxOf? a) h
    rw [idxOf?_append_cons ha, idxOf?_append_cons ha'] at hcongr
    exact Option.some.inj hcongr
  obtain ⟨rfl, hrest⟩ := List.append_inj h hlength
  exact ⟨rfl, (List.cons.inj hrest).2⟩

end Positions

/-! ## Digits -/

theorem hex_nibble_eq (c : UInt8) : hex_nibble c = hex? (Char.ofNat c.toNat) := by
  have hbyte : ∀ n < 256, hex_nibble (UInt8.ofNat n) =
      hex? (Char.ofNat (UInt8.ofNat n).toNat) := by decide +kernel
  have hc := hbyte c.toNat c.toNat_lt
  rwa [UInt8.ofNat_toNat] at hc

theorem hex?_lt {c : Char} {n : ℕ} (h : hex? c = some n) : n < 16 := by
  unfold hex? at h
  split_ifs at h with hdigit hlower hupper
  · have hle : c.toNat ≤ '9'.toNat := (Char.isDigit_iff_toNat.1 hdigit).2
    obtain rfl := Option.some.inj h
    simp only [Char.reduceToNat] at hle ⊢
    omega
  · obtain rfl := Option.some.inj h
    simp only [Char.reduceToNat] at hlower ⊢
    omega
  · obtain rfl := Option.some.inj h
    simp only [Char.reduceToNat] at hupper ⊢
    omega

theorem or_eq_add {high low : ℕ} (hlow : low < 16) : high <<< 4 ||| low = 16 * high + low := by
  have hor : high <<< 4 + low = high <<< 4 ||| low := Nat.shiftLeft_add_eq_or_of_lt hlow high
  rw [← hor, Nat.shiftLeft_eq]
  omega

/-- The code's comparison of the checksum. -/
theorem sums_iff {body : Bytes} {h1 h2 : UInt8} {high low : ℕ} (hhigh : hex_nibble h1 = some high)
    (hlow : hex_nibble h2 = some low) :
    Sums body h1 h2 ↔ xor body = UInt8.ofNat (high <<< 4 ||| low) := by
  rw [hex_nibble_eq] at hhigh hlow
  have hhigh16 := hex?_lt hhigh
  have hlow16 := hex?_lt hlow
  have hsmall : (UInt8.ofNat (16 * high + low)).toNat = 16 * high + low :=
    Nat.mod_eq_of_lt (by omega)
  unfold Sums
  rw [hhigh, hlow, or_eq_add hlow16, ← UInt8.toNat_inj, hsmall]
  simp only [Option.mem_def, Option.some.injEq, exists_eq_left']

/-! ## What the code accepts -/

/-- The answer on a line with both delimiters, and two bytes after the star. -/
theorem inspect_eq {line id rest body tail : Bytes} {h1 h2 : UInt8}
    (hnamed : line = '$'.toUInt8 :: (id ++ ','.toUInt8 :: rest)) (hid : ','.toUInt8 ∉ id)
    (hsummed : line = '$'.toUInt8 :: (body ++ '*'.toUInt8 :: h1 :: h2 :: tail))
    (hbody : '*'.toUInt8 ∉ body) (result : GpsTestResult) :
    inspect_navigation_nmea_line line result =
      if 7 ≤ line.length ∧ Navigation id ∧ Sums body h1 h2 then
        (true, result.count (type_of id))
      else (false, result) := by
  have hhead : line.head? = some '$'.toUInt8 := by rw [hnamed, List.head?_cons]
  have hcomma : line.idxOf? ','.toUInt8 = some (id.length + 1) := by
    rw [hnamed, ← List.cons_append, idxOf?_append_cons, List.length_cons]
    rw [List.mem_cons, not_or]
    exact ⟨by decide, hid⟩
  have hstar : line.idxOf? '*'.toUInt8 = some (body.length + 1) := by
    rw [hsummed, ← List.cons_append, idxOf?_append_cons, List.length_cons]
    rw [List.mem_cons, not_or]
    exact ⟨by decide, hbody⟩
  have hroom : body.length + 1 + 2 < line.length := by
    rw [hsummed]
    simp only [List.length_cons, List.length_append]
    omega
  have hhigh : line.getD (body.length + 1 + 1) 0 = h1 := by
    rw [hsummed, List.getD_cons_succ, List.getD_eq_getElem?_getD,
      List.getElem?_append_right (Nat.le_succ _)]
    simp
  have hlow : line.getD (body.length + 1 + 2) 0 = h2 := by
    rw [hsummed, List.getD_cons_succ, List.getD_eq_getElem?_getD,
      List.getElem?_append_right (by omega)]
    simp
  have hcovered : (line.take (body.length + 1)).drop 1 = body := by
    rw [hsummed, List.take_succ_cons, List.drop_one, List.tail_cons, List.take_left]
  have hname : (line.drop 1).take (id.length + 1 - 1) = id := by
    rw [hnamed, List.drop_one, List.tail_cons, Nat.add_sub_cancel, List.take_left]
  unfold inspect_navigation_nmea_line
  rw [hcomma, hstar]
  simp only [hhead, hhigh, hlow, hcovered, hname, ne_eq, not_true, or_false]
  by_cases haccept : 7 ≤ line.length ∧ Navigation id ∧ Sums body h1 h2
  · rw [if_pos haccept]
    obtain ⟨hseven, hnavigation, hsums⟩ := haccept
    have ⟨high, hdigit, low, hdigit', _⟩ := hsums
    rw [← hex_nibble_eq] at hdigit hdigit'
    have hthree := hnavigation.length
    rw [if_neg (Nat.not_lt.2 hseven), if_neg (by omega), hdigit, hdigit']
    simp only
    rw [if_neg (not_not.2 ((sums_iff hdigit hdigit').1 hsums)), if_neg (Nat.not_lt.2 hthree),
      if_neg (not_not.2 hnavigation.type)]
  · rw [if_neg haccept]
    by_cases hseven : line.length < 7
    · rw [if_pos hseven]
    rw [if_neg hseven]
    by_cases hroom : id.length + 1 < 3 ∨ line.length ≤ body.length + 1 + 2
    · rw [if_pos hroom]
    rw [if_neg hroom]
    cases hdigit : hex_nibble h1 with
    | none => rfl
    | some high =>
      cases hdigit' : hex_nibble h2 with
      | none => rfl
      | some low =>
        simp only
        by_cases hsum : xor body = UInt8.ofNat (high <<< 4 ||| low)
        · by_cases hlength : id.length < 3
          · simp only [hsum, not_true, if_false, hlength, if_true]
          · have htype : type_of id ∉ navigation_types := fun htype =>
              haccept ⟨Nat.not_lt.1 hseven, ⟨hid, Nat.not_lt.1 hlength, htype⟩,
                (sums_iff hdigit hdigit').2 hsum⟩
            simp only [hsum, not_true, if_false, hlength, htype, not_false_eq_true, if_true]
        · simp only [hsum, not_false_eq_true, if_true]

/-- A line that is not cut so is not accepted. -/
theorem inspect_eq_false {line : Bytes}
    (h : ¬ ∃ id rest body h1 h2 tail, line = '$'.toUInt8 :: (id ++ ','.toUInt8 :: rest) ∧
      ','.toUInt8 ∉ id ∧ line = '$'.toUInt8 :: (body ++ '*'.toUInt8 :: h1 :: h2 :: tail) ∧
      '*'.toUInt8 ∉ body) (result : GpsTestResult) :
    inspect_navigation_nmea_line line result = (false, result) := by
  unfold inspect_navigation_nmea_line
  by_cases hhead : line.length < 7 ∨ line.head? ≠ some '$'.toUInt8
  · rw [if_pos hhead]
  rw [if_neg hhead]
  obtain ⟨line, rfl⟩ : ∃ rest, line = '$'.toUInt8 :: rest := by
    obtain ⟨-, hhead⟩ := not_or.1 hhead
    exact List.head?_eq_some_iff.1 (not_not.1 hhead)
  cases hcomma : ('$'.toUInt8 :: line).idxOf? ','.toUInt8 with
  | none => rfl
  | some comma =>
    cases hstar : ('$'.toUInt8 :: line).idxOf? '*'.toUInt8 with
    | none => rfl
    | some star =>
      simp only
      by_cases hroom : comma < 3 ∨ ('$'.toUInt8 :: line).length ≤ star + 2
      · rw [if_pos hroom]
      -- The line is cut at both delimiters.
      obtain ⟨hthree, hroom⟩ := not_or.1 hroom
      obtain ⟨front, rest, hnamed, hfront, hcomma⟩ := exists_append_of_idxOf? hcomma
      obtain ⟨front', back, hsummed, hfront', hstar⟩ := exists_append_of_idxOf? hstar
      have hid : ∃ id, front = '$'.toUInt8 :: id := by
        cases front with
        | nil => exact absurd (List.cons.inj hnamed).1 (by decide)
        | cons c id => exact ⟨id, by rw [(List.cons.inj hnamed).1]⟩
      have hbody : ∃ body, front' = '$'.toUInt8 :: body := by
        cases front' with
        | nil => exact absurd (List.cons.inj hsummed).1 (by decide)
        | cons c body => exact ⟨body, by rw [(List.cons.inj hsummed).1]⟩
      obtain ⟨id, rfl⟩ := hid
      obtain ⟨body, rfl⟩ := hbody
      obtain ⟨h1, h2, tail, rfl⟩ : ∃ h1 h2 tail, back = h1 :: h2 :: tail := by
        have hlength := congrArg List.length hsummed
        simp only [List.length_append, List.length_cons] at hlength hroom hstar
        rcases back with _ | ⟨h1, _ | ⟨h2, tail⟩⟩
        · simp only [List.length_nil] at hlength
          omega
        · simp only [List.length_singleton] at hlength
          omega
        · exact ⟨h1, h2, tail, rfl⟩
      refine absurd ⟨id, rest, body, h1, h2, tail, hnamed, ?_, hsummed, ?_⟩ h
      · exact fun hmem => hfront (List.mem_cons_of_mem _ hmem)
      · exact fun hmem => hfront' (List.mem_cons_of_mem _ hmem)

/-- An accepted line has an id, and the checksum of what is before its first star. -/
theorem inspect_spec (line : Bytes) (result : GpsTestResult) :
    (∃ id tail, 7 ≤ line.length ∧ Reads line id tail ∧
        inspect_navigation_nmea_line line result = (true, result.count (type_of id))) ∨
      (∀ id tail, ¬ (7 ≤ line.length ∧ Reads line id tail)) ∧
        inspect_navigation_nmea_line line result = (false, result) := by
  by_cases hcut : ∃ id rest body h1 h2 tail,
      line = '$'.toUInt8 :: (id ++ ','.toUInt8 :: rest) ∧ ','.toUInt8 ∉ id ∧
      line = '$'.toUInt8 :: (body ++ '*'.toUInt8 :: h1 :: h2 :: tail) ∧ '*'.toUInt8 ∉ body
  · obtain ⟨id, rest, body, h1, h2, tail, hnamed, hid, hsummed, hbody⟩ := hcut
    have heq := inspect_eq hnamed hid hsummed hbody result
    by_cases haccept : 7 ≤ line.length ∧ Navigation id ∧ Sums body h1 h2
    · rw [if_pos haccept] at heq
      obtain ⟨hseven, hnavigation, hsums⟩ := haccept
      exact .inl ⟨id, tail, hseven,
        ⟨hnavigation, ⟨rest, hnamed⟩, body, h1, h2, hsummed, hbody, hsums⟩, heq⟩
    · rw [if_neg haccept] at heq
      refine .inr ⟨?_, heq⟩
      rintro id' tail' ⟨hseven, hnavigation, ⟨rest', hnamed'⟩, body', h1', h2', hsummed', hbody',
        hsums⟩
      have hids := append_cons_inj (List.cons.inj (hnamed.symm.trans hnamed')).2 hid
        hnavigation.comma
      have hbodies := append_cons_inj (List.cons.inj (hsummed.symm.trans hsummed')).2 hbody hbody'
      have hdigit := List.cons.inj hbodies.2
      have hdigit' := List.cons.inj hdigit.2
      rw [← hids.1] at hnavigation
      rw [← hbodies.1, ← hdigit.1, ← hdigit'.1] at hsums
      exact haccept ⟨hseven, hnavigation, hsums⟩
  · refine .inr ⟨?_, inspect_eq_false hcut result⟩
    rintro id tail ⟨-, hnavigation, ⟨rest, hnamed⟩, body, h1, h2, hsummed, hbody, -⟩
    exact hcut ⟨id, rest, body, h1, h2, tail, hnamed, hnavigation.comma, hsummed, hbody⟩

theorem ne_comma_of_digit {h : UInt8} {n : ℕ} (hn : hex? (Char.ofNat h.toNat) = some n) :
    h ≠ ','.toUInt8 := by
  have hnone : hex? (Char.ofNat ','.toUInt8.toNat) = none := by decide
  rintro rfl
  rw [hnone] at hn
  cases hn

/-- A sentence is a line that is read with nothing after the digits: its comma is before its
star. -/
theorem isSentence_iff (line : Bytes) :
    IsSentence line ↔ 7 ≤ line.length ∧ ∃ id, Reads line id [] := by
  constructor
  · rintro ⟨id, fields, h1, h2, rfl, hnavigation, hid, hfields, hsums⟩
    have hlong := hnavigation.length
    refine ⟨?_, id, hnavigation, ⟨_, rfl⟩, id ++ ','.toUInt8 :: fields, h1, h2, ?_, ?_, hsums⟩
    · simp only [List.length_cons, List.length_append]
      omega
    · rw [List.append_assoc, List.cons_append]
    · rw [List.mem_append, List.mem_cons, not_or, not_or]
      exact ⟨hid, by decide, hfields⟩
  · rintro ⟨-, id, hnavigation, ⟨rest, hnamed⟩, body, h1, h2, hsummed, hbody, hsums⟩
    have hcomma : ','.toUInt8 ∈ body := by
      obtain ⟨high, hhigh, low, hlow, -⟩ := hsums
      have hmem : ','.toUInt8 ∈ '$'.toUInt8 :: (body ++ ['*'.toUInt8, h1, h2]) := by
        rw [← hsummed, hnamed]
        exact List.mem_cons_of_mem _ (List.mem_append_right _ List.mem_cons_self)
      simp only [List.mem_cons, List.mem_append, List.not_mem_nil, or_false] at hmem
      rcases hmem with hmem | hmem | hmem | hmem | hmem
      · exact absurd hmem (by decide)
      · exact hmem
      · exact absurd hmem (by decide)
      · exact absurd hmem.symm (ne_comma_of_digit hhigh)
      · exact absurd hmem.symm (ne_comma_of_digit hlow)
    obtain ⟨front, fields, rfl, hfront⟩ := List.eq_append_cons_of_mem hcomma
    have hline := (List.cons.inj (hnamed.symm.trans hsummed)).2
    rw [List.append_assoc, List.cons_append] at hline
    obtain ⟨rfl, hrest⟩ := append_cons_inj hline hnavigation.comma hfront
    rw [List.mem_append, List.mem_cons, not_or, not_or] at hbody
    exact ⟨id, fields, h1, h2, by rw [hnamed, hrest], hnavigation, hbody.1, hbody.2.2, hsums⟩

/-- There is text after the two digits, and apart from it the line has all that is looked for. -/
def HasTail (line : Bytes) : Prop :=
  7 ≤ line.length ∧ ∃ id tail, tail ≠ [] ∧ Reads line id tail

/-- The sentences are accepted and counted, and nothing else changes the result. -/
structure Exact (line : Bytes) (result : GpsTestResult) : Prop where
  accepted : (inspect_navigation_nmea_line line result).1 = true ↔ IsSentence line
  counted : IsSentence line →
    (inspect_navigation_nmea_line line result).2.nmea_detected = true ∧
    (inspect_navigation_nmea_line line result).2.valid_sentence_count =
      result.valid_sentence_count + 1
  unchanged : ¬ IsSentence line → (inspect_navigation_nmea_line line result).2 = result

theorem Reads.tail_eq {line id id' tail tail' : Bytes} (h : Reads line id tail)
    (h' : Reads line id' tail') : tail = tail' := by
  obtain ⟨body, h1, h2, hsummed, hbody, -⟩ := h.summed
  obtain ⟨body', h1', h2', hsummed', hbody', -⟩ := h'.summed
  have hcut := append_cons_inj (List.cons.inj (hsummed.symm.trans hsummed')).2 hbody hbody'
  exact (List.cons.inj (List.cons.inj hcut.2).2).2

/-- Exactly the sentences are accepted, unless there is text after the digits. -/
theorem inspect_exact_iff (line : Bytes) (result : GpsTestResult) :
    Exact line result ↔ ¬ HasTail line := by
  rcases inspect_spec line result with ⟨id, tail, hseven, hreads, heq⟩ | ⟨hnone, heq⟩
  · by_cases htail : tail = []
    · subst htail
      have hsentence : IsSentence line := (isSentence_iff line).2 ⟨hseven, id, hreads⟩
      refine iff_of_true ⟨?_, fun _ => ?_, fun h => absurd hsentence h⟩ ?_
      · rw [heq]
        exact iff_of_true rfl hsentence
      · rw [heq]
        exact ⟨rfl, rfl⟩
      · rintro ⟨-, id', tail', hne, hreads'⟩
        exact hne (hreads'.tail_eq hreads)
    · have hsentence : ¬ IsSentence line := by
        intro h
        obtain ⟨-, id', hreads'⟩ := (isSentence_iff line).1 h
        exact htail (hreads.tail_eq hreads')
      refine iff_of_false (fun h => hsentence (h.accepted.1 ?_)) ?_
      · rw [heq]
      · exact not_not.2 ⟨hseven, id, tail, htail, hreads⟩
  · have hsentence : ¬ IsSentence line := by
      intro h
      obtain ⟨hseven, id, hreads⟩ := (isSentence_iff line).1 h
      exact hnone id [] ⟨hseven, hreads⟩
    refine iff_of_true ⟨?_, fun h => absurd h hsentence, fun _ => ?_⟩ ?_
    · rw [heq]
      exact iff_of_false Bool.false_ne_true hsentence
    · rw [heq]
    · rintro ⟨hseven, id, tail, -, hreads⟩
      exact hnone id tail ⟨hseven, hreads⟩

/-- A sentence ends in a digit. -/
theorem IsSentence.digit_getLast? {line : Bytes} (h : IsSentence line) :
    ∃ digit ∈ line.getLast?, hex? (Char.ofNat digit.toNat) ≠ none := by
  obtain ⟨id, fields, h1, h2, rfl, -, -, -, high, -, low, hlow, -⟩ := h
  have hend : '$'.toUInt8 :: (id ++ ','.toUInt8 :: (fields ++ ['*'.toUInt8, h1, h2])) =
      '$'.toUInt8 :: (id ++ ','.toUInt8 :: (fields ++ ['*'.toUInt8, h1])) ++ [h2] := by simp
  refine ⟨h2, ?_, ?_⟩
  · rw [hend, List.getLast?_concat]
    rfl
  · rw [Option.mem_def.1 hlow]
    exact Option.some_ne_none low

/-- Text after the digits, and a star in the id. -/
theorem trailing_text_counts :
    ¬ Exact (bytes "$GGA,*6DX") {} ∧ ¬ Exact (bytes "$X*58GGA,") {} := by
  have hnot {line : Bytes} {last : UInt8} (hlast : line.getLast? = some last)
      (hnone : hex? (Char.ofNat last.toNat) = none)
      (haccept : (inspect_navigation_nmea_line line {}).1 = true) : ¬ Exact line {} := by
    intro h
    obtain ⟨digit, hmem, hne⟩ := (h.accepted.1 haccept).digit_getLast?
    obtain rfl := Option.some.inj (hlast.symm.trans hmem)
    exact hne hnone
  refine ⟨hnot rfl ?_ ?_, hnot rfl ?_ ?_⟩
  all_goals decide

end FactoryTest.CapLora1262

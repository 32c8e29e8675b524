import FactoryTest.Json.WellFormed

/-!
# The last JSON object of a benchmark's output

fio writes its JSON among lines of its own. `final_json_document` looks for the last object by
counting braces outside of strings.

**Theorem** (`final_json_document_spec`). In an output of JSON objects and of text with no quotes
and braces between them (`IsOutput`), it finds the last object.

Inside of an object, every phrase of the grammar leaves the scan as it was (`scan_derives`): a
string ends at its own quote, and an inner object takes the depth up and down again without
reaching zero.
-/

namespace FactoryTest.Performance

open JsonGrammar Serialization

/-! ## The code -/

/-- The variables of `final_json_document`. Positions are `none` for `npos`. -/
structure Scan where
  object_start : Option ℕ := none
  last_start : Option ℕ := none
  last_end : Option ℕ := none
  depth : ℕ := 0
  in_string : Bool := false
  escaped : Bool := false
  deriving DecidableEq

/-- One turn of the loop of `final_json_document`, at the byte `ch` in position `i`. -/
def Scan.step (s : Scan) (i : ℕ) (ch : Char) : Scan :=
  if s.in_string then
    if s.escaped then { s with escaped := false }
    else if ch = '\\' then { s with escaped := true }
    else if ch = '"' then { s with in_string := false }
    else s
  else if ch = '"' then { s with in_string := true }
  else if ch = '{' then
    { s with object_start := if s.depth = 0 then some i else s.object_start, depth := s.depth + 1 }
  else if ch = '}' ∧ 0 < s.depth then
    if s.depth - 1 = 0 ∧ s.object_start ≠ none then
      { s with depth := s.depth - 1, last_start := s.object_start, last_end := some i }
    else { s with depth := s.depth - 1 }
  else s

/-- The loop over the bytes from position `i` on. -/
def scan (s : Scan) (i : ℕ) : List Char → Scan
  | [] => s
  | ch :: text => scan (s.step i ch) (i + 1) text

/-- The depth is an `int`. It is at most the length of the text (`depth_scan_le`), of which a
process keeps no more than `max_output_bytes`. -/
def final_json_document (text : List Char) : List Char :=
  match (scan {} 0 text).last_start, (scan {} 0 text).last_end with
  | some last_start, some last_end =>
    if last_end < last_start then text
    else (text.drop last_start).take (last_end - last_start + 1)
  | _, _ => text

theorem scan_append (s : Scan) (i : ℕ) (a b : List Char) :
    scan s i (a ++ b) = scan (scan s i a) (i + a.length) b := by
  induction a generalizing s i with
  | nil => rfl
  | cons c a ih =>
    rw [List.cons_append, scan, ih, scan, List.length_cons, Nat.add_right_comm, Nat.add_assoc]

theorem depth_step_le (s : Scan) (i : ℕ) (ch : Char) : (s.step i ch).depth ≤ s.depth + 1 := by
  unfold Scan.step
  split_ifs <;> grind

theorem depth_scan_le (s : Scan) (i : ℕ) (text : List Char) :
    (scan s i text).depth ≤ s.depth + text.length := by
  induction text generalizing s i with
  | nil => exact Nat.le_refl _
  | cons ch text ih =>
    have hstep := depth_step_le s i ch
    have hrest := ih (s.step i ch) (i + 1)
    rw [scan, List.length_cons]
    omega

/-! ## Text that the scan passes over -/

/-- A byte with no meaning outside of strings. -/
def Inert (c : Char) : Prop := c ≠ '"' ∧ c ≠ '{' ∧ c ≠ '}'

instance (c : Char) : Decidable (Inert c) := by
  unfold Inert
  infer_instance

theorem inert_of_all {t : List Char} (h : t.all (fun c => decide (Inert c)) = true) :
    ∀ c ∈ t, Inert c := fun c hc => of_decide_eq_true (List.all_eq_true.1 h c hc)

/-- The scan is neither in a string nor after a backslash. -/
structure Outside (s : Scan) : Prop where
  in_string : s.in_string = false
  escaped : s.escaped = false

theorem Outside.step_inert {s : Scan} (hs : Outside s) (i : ℕ) {c : Char} (hc : Inert c) :
    s.step i c = s := by
  obtain ⟨hquote, hopen, hclose⟩ := hc
  unfold Scan.step
  rw [if_neg (by simp [hs.in_string]), if_neg hquote, if_neg hopen, if_neg fun h => hclose h.1]

theorem Outside.scan_inert {s : Scan} (hs : Outside s) (i : ℕ) {t : List Char}
    (ht : ∀ c ∈ t, Inert c) : scan s i t = s := by
  induction t generalizing i with
  | nil => rfl
  | cons c t ih =>
    obtain ⟨hc, ht⟩ := List.forall_mem_cons.1 ht
    rw [scan, hs.step_inert i hc, ih (i + 1) ht]

/-- The bytes of a text in ASCII are its characters. -/
theorem mem_of_mem_utf8 {d : Char} {t : List Char} (hd : d ∈ utf8 t) (hascii : d.toNat < 0x80) :
    d ∈ t := by
  obtain ⟨c, hc, hmem⟩ := List.mem_flatMap.1 hd
  have hbytes : d ∈ utf8 [c] := by rwa [utf8, List.flatMap_singleton]
  by_cases hlow : c.toNat < 0x80
  · rw [utf8_of_lt hlow, List.mem_singleton] at hbytes
    exact hbytes ▸ hc
  · have hhigh := le_of_mem_utf8 (Nat.le_of_not_lt hlow) hbytes
    omega

theorem not_mem_utf8 {d : Char} {t : List Char} (hascii : d.toNat < 0x80) (hd : d ∉ t) :
    d ∉ utf8 t := fun hmem => hd (mem_of_mem_utf8 hmem hascii)

theorem inert_utf8 {t : List Char} (ht : ∀ c ∈ t, Inert c) : ∀ c ∈ utf8 t, Inert c := by
  have hquote : '"' ∉ utf8 t := not_mem_utf8 (by decide) fun h => (ht _ h).1 rfl
  have hopen : '{' ∉ utf8 t := not_mem_utf8 (by decide) fun h => (ht _ h).2.1 rfl
  have hclose : '}' ∉ utf8 t := not_mem_utf8 (by decide) fun h => (ht _ h).2.2 rfl
  intro c hc
  exact ⟨fun h => hquote (h ▸ hc), fun h => hopen (h ▸ hc), fun h => hclose (h ▸ hc)⟩

theorem Outside.scan_utf8 {s : Scan} (hs : Outside s) (i : ℕ) {t : List Char}
    (ht : ∀ c ∈ t, Inert c) : scan s i (utf8 t) = s := hs.scan_inert i (inert_utf8 ht)

theorem inert_of_isDigit {c : Char} (hc : c.isDigit = true) : Inert c := by
  refine ⟨?_, ?_, ?_⟩ <;> rintro rfl <;> exact absurd hc (by decide)

theorem inert_of_ws {t : List Char} (ht : Ws t) : ∀ c ∈ t, Inert c := by
  intro c hc
  rcases ht c hc with rfl | rfl | rfl | rfl <;> decide

theorem inert_of_isNumber {t : List Char} {q : ℚ} (ht : IsNumber t q) : ∀ c ∈ t, Inert c :=
  ht.forall_mem (fun _ => inert_of_isDigit) (by decide) (by decide) (by decide) (by decide)
    (by decide)

/-! ## Strings -/

/-- A byte with no meaning in a string. -/
def Literal (c : Char) : Prop := c ≠ '\\' ∧ c ≠ '"'

/-- The scan is in a string, and not after a backslash. -/
structure Inside (s : Scan) : Prop where
  in_string : s.in_string = true
  escaped : s.escaped = false

theorem Inside.step_literal {s : Scan} (hs : Inside s) (i : ℕ) {c : Char} (hc : Literal c) :
    s.step i c = s := by
  unfold Scan.step
  rw [if_pos hs.in_string, if_neg (by simp [hs.escaped]), if_neg hc.1, if_neg hc.2]

theorem Inside.scan_literal {s : Scan} (hs : Inside s) (i : ℕ) {t : List Char}
    (ht : ∀ c ∈ t, Literal c) : scan s i t = s := by
  induction t generalizing i with
  | nil => rfl
  | cons c t ih =>
    obtain ⟨hc, ht⟩ := List.forall_mem_cons.1 ht
    rw [scan, hs.step_literal i hc, ih (i + 1) ht]

/-- Whatever follows a backslash is passed over, a quote too. -/
theorem Inside.scan_escape {s : Scan} (hs : Inside s) (i : ℕ) (c : Char) (t : List Char) :
    scan s i ('\\' :: c :: t) = scan s (i + 2) t := by
  have hback : s.step i '\\' = { s with escaped := true } := by
    unfold Scan.step
    rw [if_pos hs.in_string, if_neg (by simp [hs.escaped]), if_pos rfl]
  have hnext : Scan.step { s with escaped := true } (i + 1) c = s := by
    unfold Scan.step
    rw [if_pos hs.in_string, if_pos rfl, ← hs.escaped]
  rw [scan, hback, scan, hnext]

theorem literal_of_hex? {c : Char} {n : ℕ} (hc : hex? c = some n) : Literal c := by
  have hback : hex? '\\' = none := by decide
  have hquote : hex? '"' = none := by decide
  constructor
  · rintro rfl
    simp [hback] at hc
  · rintro rfl
    simp [hquote] at hc

theorem ascii_of_hex? {c : Char} {n : ℕ} (hc : hex? c = some n) : c.toNat < 0x80 := by
  unfold hex? at hc
  split_ifs at hc with hdigit hlower hupper
  · exact Nat.lt_of_le_of_lt (Char.isDigit_iff_toNat.1 hdigit).2 (by decide)
  · exact Nat.lt_of_le_of_lt hlower.2 (by decide)
  · exact Nat.lt_of_le_of_lt hupper.2 (by decide)

theorem literal_utf8 {c : Char} (hc : Unescaped c) : ∀ d ∈ utf8 [c], Literal d := by
  have hback : '\\' ∉ utf8 [c] :=
    not_mem_utf8 (by decide) fun h => hc.2.2 (List.mem_singleton.1 h).symm
  have hquote : '"' ∉ utf8 [c] :=
    not_mem_utf8 (by decide) fun h => hc.2.1 (List.mem_singleton.1 h).symm
  intro d hd
  exact ⟨fun h => hback (h ▸ hd), fun h => hquote (h ▸ hd)⟩

/-- What stands between the quotes of a string leaves the scan in the string. -/
theorem Inside.scan_chars {s : Scan} (hs : Inside s) {t : List Char} {units : List UInt16}
    (ht : Chars t units) (i : ℕ) : scan s i (utf8 t) = s := by
  induction ht generalizing i with
  | nil => rfl
  | @unescaped c t units hc _ ih =>
    rw [← List.singleton_append, utf8_append, scan_append, hs.scan_literal i (literal_utf8 hc), ih]
  | @escape c d t units hc _ ih =>
    have hascii : ∀ p ∈ escapes, p.1.toNat < 0x80 := by decide
    rw [utf8_cons_of_lt (by decide), utf8_cons_of_lt (hascii _ hc), hs.scan_escape, ih]
  | @unit a b c d h i j k t units ha hb hc hd _ ih =>
    have hdigits : ∀ x ∈ [a, b, c, d], Literal x := by
      simp only [List.forall_mem_cons, List.not_mem_nil, false_imp_iff, implies_true, and_true]
      exact ⟨literal_of_hex? ha, literal_of_hex? hb, literal_of_hex? hc, literal_of_hex? hd⟩
    rw [utf8_cons_of_lt (by decide), utf8_cons_of_lt (by decide), hs.scan_escape,
      utf8_cons_of_lt (ascii_of_hex? ha), utf8_cons_of_lt (ascii_of_hex? hb),
      utf8_cons_of_lt (ascii_of_hex? hc), utf8_cons_of_lt (ascii_of_hex? hd)]
    have hrest (n : ℕ) : scan s n ([a, b, c, d] ++ utf8 t) = s := by
      rw [scan_append, hs.scan_literal n hdigits, ih]
    exact hrest _

theorem Outside.scan_string {s : Scan} (hs : Outside s) (i : ℕ) {t : List Char}
    {units : List UInt16} (ht : IsString t units) : scan s i (utf8 t) = s := by
  cases ht with
  | @quoted t units ht =>
    have hopen : s.step i '"' = { s with in_string := true } := by
      unfold Scan.step
      rw [if_neg (by simp [hs.in_string]), if_pos rfl]
    have hinside : Inside { s with in_string := true } := ⟨rfl, hs.escaped⟩
    have hclose (j : ℕ) : Scan.step { s with in_string := true } j '"' = s := by
      unfold Scan.step
      rw [if_pos rfl, if_neg (by simp [hs.escaped]), if_neg (by decide), if_pos rfl,
        ← hs.in_string]
    rw [utf8_cons_of_lt (by decide), utf8_append, utf8_of_lt (by decide), scan, hopen,
      scan_append, hinside.scan_chars ht, scan, hclose, scan]

/-! ## Phrases -/

/-- The scan is inside of an object, and not in a string. -/
structure Nested (s : Scan) : Prop extends Outside s where
  depth : 0 < s.depth

theorem Nested.step_open {s : Scan} (hs : Nested s) (i : ℕ) :
    s.step i '{' = { s with depth := s.depth + 1 } := by
  have hdepth := hs.depth
  unfold Scan.step
  rw [if_neg (by simp [hs.in_string]), if_neg (by decide), if_pos rfl, if_neg (by omega)]

theorem Nested.step_close {s : Scan} (hs : Nested s) (i : ℕ) :
    Scan.step { s with depth := s.depth + 1 } i '}' = s := by
  have hdepth := hs.depth
  unfold Scan.step
  rw [if_neg (by simp [hs.in_string]), if_neg (by decide), if_neg (by decide),
    if_pos ⟨rfl, Nat.succ_pos _⟩, if_neg (by simp only; omega)]
  rfl

theorem Nested.deeper {s : Scan} (hs : Nested s) : Nested { s with depth := s.depth + 1 } :=
  ⟨⟨hs.in_string, hs.escaped⟩, Nat.succ_pos _⟩

/-- What is in the brackets of an array leaves the scan as it was, so the array does. -/
theorem Nested.scan_array {s : Scan} (hs : Nested s) (i : ℕ) {t : List Char}
    (ht : ∀ i, scan s i (utf8 t) = s) : scan s i (utf8 ('[' :: (t ++ [']']))) = s := by
  rw [utf8_cons_of_lt (by decide), utf8_append, utf8_of_lt (by decide), scan,
    hs.step_inert i (by decide), scan_append, ht, scan, hs.step_inert _ (by decide), scan]

/-- An inner object does not reach the depth of zero. -/
theorem Nested.scan_object {s : Scan} (hs : Nested s) (i : ℕ) {t : List Char}
    (ht : ∀ s i, Nested s → scan s i (utf8 t) = s) : scan s i (utf8 ('{' :: (t ++ ['}']))) = s := by
  rw [utf8_cons_of_lt (by decide), utf8_append, utf8_of_lt (by decide), scan, hs.step_open,
    scan_append, ht _ _ hs.deeper, scan, hs.step_close, scan]

theorem Nested.scan_comma {s : Scan} (hs : Nested s) (i : ℕ) {t ts : List Char}
    (ht : ∀ i, scan s i (utf8 t) = s) (hts : ∀ i, scan s i (utf8 ts) = s) :
    scan s i (utf8 (t ++ ',' :: ts)) = s := by
  rw [utf8_append, utf8_cons_of_lt (by decide), scan_append, ht, scan,
    hs.step_inert _ (by decide), hts]

/-- Inside of an object, a phrase leaves the scan as it was. -/
theorem scan_derives {t : List Char} {p : Phrase} (ht : Derives t p) :
    ∀ (s : Scan) (i : ℕ), Nested s → scan s i (utf8 t) = s := by
  induction ht with
  | null | true | false =>
    intro s i hs
    exact hs.scan_utf8 i (inert_of_all (by decide))
  | number ht =>
    intro s i hs
    exact hs.scan_utf8 i (inert_of_isNumber ht)
  | string ht =>
    intro s i hs
    exact hs.scan_string i ht
  | no_elements ht =>
    intro s i hs
    exact hs.scan_array i fun j => hs.scan_utf8 j (inert_of_ws ht)
  | array _ ih =>
    intro s i hs
    exact hs.scan_array i fun j => ih s j hs
  | no_members ht =>
    intro s i hs
    exact hs.scan_object i fun r j hr => hr.scan_utf8 j (inert_of_ws ht)
  | object _ ih =>
    intro s i hs
    exact hs.scan_object i ih
  | element ha _ hb ih =>
    intro s i hs
    rw [utf8_append, utf8_append, scan_append, scan_append, hs.scan_utf8 i (inert_of_ws ha),
      ih _ _ hs, hs.scan_utf8 _ (inert_of_ws hb)]
  | last _ ih | last_member _ ih => exact ih
  | more _ _ ih ihs | more_members _ _ ih ihs =>
    intro s i hs
    exact hs.scan_comma i (fun j => ih s j hs) fun j => ihs s j hs
  | member ha hk hb _ ih =>
    intro s i hs
    rw [utf8_append, utf8_append, utf8_append, utf8_cons_of_lt (by decide), scan_append,
      scan_append, scan_append, hs.scan_utf8 i (inert_of_ws ha), hs.scan_string _ hk,
      hs.scan_utf8 _ (inert_of_ws hb), scan, hs.step_inert _ (by decide), ih _ _ hs]

/-! ## Objects at the top -/

/-- The text is a JSON object, in UTF-8. -/
def IsObject (o : List Char) : Prop := ∃ t ms, Derives t (.value (.object ms)) ∧ o = utf8 t

/-- The text is made of objects, these in order, and of other bytes between them that are no
quotes and no braces. -/
inductive IsOutput : List Char → List (List Char) → Prop
  | nil : IsOutput [] []
  | filler {c : Char} {text : List Char} {objects : List (List Char)} (hc : Inert c)
    (htext : IsOutput text objects) : IsOutput (c :: text) objects
  | object {o text : List Char} {objects : List (List Char)} (ho : IsObject o)
    (htext : IsOutput text objects) : IsOutput (o ++ text) (o :: objects)

theorem IsOutput.filler_append {a text : List Char} {objects : List (List Char)}
    (ha : ∀ c ∈ a, Inert c) (h : IsOutput text objects) : IsOutput (a ++ text) objects := by
  induction a with
  | nil => exact h
  | cons c a ih =>
    obtain ⟨hc, ha⟩ := List.forall_mem_cons.1 ha
    exact .filler hc (ih ha)

/-- The scan is outside of all objects. -/
structure Top (s : Scan) : Prop extends Outside s where
  depth : s.depth = 0

/-- An object at the top is taken from its first byte to its last. -/
theorem Top.scan_object {s : Scan} (hs : Top s) {o : List Char} (ho : IsObject o) (i : ℕ) :
    0 < o.length ∧ scan s i o = { s with
      object_start := some i, last_start := some i, last_end := some (i + o.length - 1) } := by
  -- What is between the braces is scanned at the depth of one.
  have hbraces {t : List Char} (ht : ∀ s i, Nested s → scan s i (utf8 t) = s) :
      0 < (utf8 ('{' :: (t ++ ['}']))).length ∧ scan s i (utf8 ('{' :: (t ++ ['}']))) = { s with
        object_start := some i, last_start := some i,
        last_end := some (i + (utf8 ('{' :: (t ++ ['}']))).length - 1) } := by
    have hopen : s.step i '{' = { s with object_start := some i, depth := 1 } := by
      unfold Scan.step
      rw [if_neg (by simp [hs.in_string]), if_neg (by decide), if_pos rfl, if_pos hs.depth,
        hs.depth]
    have hnested : Nested { s with object_start := some i, depth := 1 } :=
      ⟨⟨hs.in_string, hs.escaped⟩, Nat.one_pos⟩
    have hclose (j : ℕ) : Scan.step { s with object_start := some i, depth := 1 } j '}' =
        { s with object_start := some i, last_start := some i, last_end := some j } := by
      unfold Scan.step
      rw [if_neg (by simp [hs.in_string]), if_neg (by decide), if_neg (by decide),
        if_pos ⟨rfl, Nat.one_pos⟩, if_pos ⟨rfl, Option.some_ne_none i⟩, hs.depth]
      rfl
    rw [utf8_cons_of_lt (by decide), utf8_append, utf8_of_lt (by decide), scan, hopen,
      scan_append, ht _ _ hnested, scan, hclose, scan, List.length_cons, List.length_append,
      List.length_singleton]
    refine ⟨Nat.succ_pos _, ?_⟩
    congr 2
    omega
  obtain ⟨t, ms, ht, rfl⟩ := ho
  cases ht with
  | no_members ht => exact hbraces fun r j hr => hr.scan_utf8 j (inert_of_ws ht)
  | object ht => exact hbraces (scan_derives ht)

/-- The text `o` stands in `text` where the scan, which began in position `i`, found an object. -/
def Found (s : Scan) (i : ℕ) (text o : List Char) : Prop :=
  ∃ before after, text = before ++ o ++ after ∧ 0 < o.length ∧
    s.last_start = some (i + before.length) ∧
    s.last_end = some (i + before.length + o.length - 1)

theorem Found.append {s : Scan} {i : ℕ} {a text o : List Char}
    (h : Found s (i + a.length) text o) : Found s i (a ++ text) o := by
  obtain ⟨before, after, rfl, hpos, hstart, hend⟩ := h
  refine ⟨a ++ before, after, by simp only [List.append_assoc], hpos, ?_, ?_⟩
  · rw [hstart, List.length_append, Nat.add_assoc]
  · rw [hend, List.length_append, Nat.add_assoc i]

/-- After an output the scan has found the last object of it, or what it had found before. -/
theorem Top.scan_output {s : Scan} (hs : Top s) {text : List Char} {objects : List (List Char)}
    (htext : IsOutput text objects) (i : ℕ) :
    (objects = [] → (scan s i text).last_start = s.last_start ∧
      (scan s i text).last_end = s.last_end) ∧
    ∀ o ∈ objects.getLast?, Found (scan s i text) i text o := by
  induction htext generalizing s i with
  | nil => exact ⟨fun _ => ⟨rfl, rfl⟩, fun o ho => absurd ho (by simp)⟩
  | @filler c text objects hc _ ih =>
    rw [scan, hs.step_inert i hc]
    obtain ⟨hnone, hlast⟩ := ih hs (i + 1)
    exact ⟨hnone, fun o ho => Found.append (a := [c]) (hlast o ho)⟩
  | @object first text objects hfirst _ ih =>
    obtain ⟨hpos, hscan⟩ := hs.scan_object hfirst i
    have htop : Top (scan s i first) := by
      rw [hscan]
      exact ⟨⟨hs.in_string, hs.escaped⟩, hs.depth⟩
    obtain ⟨hnone, hlast⟩ := ih htop (i + first.length)
    rw [scan_append]
    refine ⟨fun h => absurd h (List.cons_ne_nil _ _), fun o ho => ?_⟩
    cases hobjects : objects with
    | nil =>
      -- No object follows, so this one stays found.
      obtain ⟨hstart, hend⟩ := hnone hobjects
      rw [hobjects, List.getLast?_singleton, Option.mem_some] at ho
      obtain rfl := ho
      rw [hscan] at hstart hend
      exact ⟨[], text, rfl, hpos, by rw [hscan]; exact hstart, by rw [hscan]; exact hend⟩
    | cons next rest =>
      rw [hobjects, List.getLast?_cons_cons, ← hobjects] at ho
      exact Found.append (hlast o ho)

/-- In an output with objects, `final_json_document` finds the last one. -/
theorem final_json_document_spec {text : List Char} {objects : List (List Char)}
    (htext : IsOutput text objects) (hne : objects ≠ []) :
    final_json_document text = objects.getLast hne := by
  have htop : Top {} := ⟨⟨rfl, rfl⟩, rfl⟩
  obtain ⟨before, after, heq, hpos, hstart, hend⟩ :=
    (htop.scan_output htext 0).2 _ (List.getLast?_eq_some_getLast hne)
  unfold final_json_document
  rw [hstart, hend]
  simp only [Nat.zero_add]
  have hsize : before.length + (objects.getLast hne).length - 1 - before.length + 1 =
      (objects.getLast hne).length := by omega
  rw [if_neg (by omega), hsize]
  conv_lhs => rw [heq]
  rw [List.append_assoc, List.drop_left, List.take_left]

/-- Two objects, the second with a brace and a quote in a string. -/
theorem final_json_document_sample :
    final_json_document "fio \x7b\x7d done\n\x7b\"a\":\"\\\"\x7b\"\x7d\n".toList =
      "\x7b\"a\":\"\\\"\x7b\"\x7d".toList := by
  have hstring : Chars "\\\"\x7b".toList [34, 123] :=
    .escape (d := '"') (by decide) (.unescaped (by unfold Unescaped; decide) .nil)
  have hkey : IsString "\"a\"".toList [97] :=
    .quoted (.unescaped (by unfold Unescaped; decide) .nil)
  have hmember : Derives "\"a\":\"\\\"\x7b\"".toList (.member [97] (.string [34, 123])) :=
    .member ws_nil hkey ws_nil (Derives.bare (.string (.quoted hstring)))
  have hlast : IsObject "\x7b\"a\":\"\\\"\x7b\"\x7d".toList :=
    ⟨_, _, .object (.last_member hmember), (utf8_of_all (by decide)).symm⟩
  have hfirst : IsObject "\x7b\x7d".toList :=
    ⟨_, _, .no_members (t := []) ws_nil, (utf8_of_all (by decide)).symm⟩
  have houtput : IsOutput ("fio ".toList ++ ("\x7b\x7d".toList ++ (" done\n".toList ++
      ("\x7b\"a\":\"\\\"\x7b\"\x7d".toList ++ ("\n".toList ++ []))))) _ :=
    .filler_append (inert_of_all (by decide)) (.object hfirst
      (.filler_append (inert_of_all (by decide)) (.object hlast
        (.filler_append (inert_of_all (by decide)) .nil))))
  exact final_json_document_spec houtput (List.cons_ne_nil _ _)

end FactoryTest.Performance

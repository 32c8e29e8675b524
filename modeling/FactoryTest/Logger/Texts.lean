import FactoryTest.Logger.Model

/-!
# Lines and names

A line that is cut twice is cut once (`truncate_line_twice`), and one that is cut to more room
than the marker takes is whole or ends with the marker (`isRecord_truncate`). The names that are
tried for a segment are all different, so one of them is free (`find_segment_spec`).
-/

namespace FactoryTest.Logger

/-! ## Cutting lines -/

/-- What a segment has of a line: all of it, or its beginning and the marker. -/
def IsRecord (line record : Text) : Prop :=
  record = line ∨ ∃ n < line.length, record = line.take n ++ marker

theorem truncate_line_of_le {line : Text} {n : ℕ} (h : line.length ≤ n) :
    truncate_line line n = line := if_pos h

theorem truncate_line_of_lt {line : Text} {n : ℕ} (hmarker : marker.length < n)
    (h : n < line.length) : truncate_line line n = line.take (n - marker.length) ++ marker := by
  rw [truncate_line, if_neg (not_le.2 h), if_neg (not_le.2 hmarker)]

theorem length_truncate_line (line : Text) (n : ℕ) : (truncate_line line n).length ≤ n := by
  unfold truncate_line
  split_ifs with hshort hmarker
  · exact hshort
  · exact List.length_take_le _ _
  · rw [List.length_append, List.length_take]
    omega

theorem truncate_line_ne_nil {line : Text} {n : ℕ} (hline : line ≠ []) (hn : 0 < n) :
    truncate_line line n ≠ [] := by
  have hlength := List.length_pos_iff.2 hline
  unfold truncate_line
  split_ifs with hshort hmarker
  · exact hline
  · rw [← List.length_pos_iff, List.length_take]
    omega
  · exact List.append_ne_nil_of_right_ne_nil _ (by decide)

/-- Cutting to a smaller size leaves nothing of the first cut. -/
theorem truncate_line_twice {line : Text} {m n : ℕ} (hle : n ≤ m) (hmarker : marker.length < n) :
    truncate_line (truncate_line line m) n = truncate_line line n := by
  by_cases hline : line.length ≤ m
  · rw [truncate_line_of_le hline]
  · rw [not_le] at hline
    have hfirst := truncate_line_of_lt (hmarker.trans_le hle) hline
    have hlength : (truncate_line line m).length = m := by
      rw [hfirst, List.length_append, List.length_take]
      omega
    obtain rfl | hlt := hle.eq_or_lt
    · exact truncate_line_of_le hlength.le
    · rw [truncate_line_of_lt hmarker (hlt.trans_eq hlength.symm),
        truncate_line_of_lt hmarker (hlt.trans hline),
        hfirst, List.take_append_of_le_length, List.take_take, Nat.min_eq_left]
      · omega
      · rw [List.length_take]
        omega

theorem isRecord_truncate {line : Text} {n : ℕ} (hmarker : marker.length < n) :
    IsRecord line (truncate_line line n) := by
  by_cases hline : line.length ≤ n
  · exact .inl (truncate_line_of_le hline)
  · exact .inr ⟨n - marker.length, by omega, truncate_line_of_lt hmarker (not_le.1 hline)⟩

/-! ## Numbers in names -/

/-- The number that digits stand for. -/
def digits_value (text : Text) : ℕ :=
  text.foldl (fun value digit => 10 * value + (digit.toNat - 48)) 0

theorem digits_value_decimal (n : ℕ) : digits_value (decimal n) = n := by
  have hbyte : ∀ c ∈ Nat.toDigits 10 n, (UInt8.ofNat c.toNat).toNat = c.toNat := by
    intro c hc
    have hdigit := Nat.isDigit_of_mem_toDigits (by decide) (by decide) hc
    have hc : c.toNat < 256 := by
      have hle : c.toNat ≤ '9'.toNat := by
        simp only [Char.isDigit, Bool.and_eq_true, decide_eq_true_eq] at hdigit
        exact hdigit.2
      exact hle.trans_lt (by decide)
    exact Nat.mod_eq_of_lt hc
  have hfold (cs : List Char) (value : ℕ) (hcs : ∀ c ∈ cs, (UInt8.ofNat c.toNat).toNat = c.toNat) :
      (cs.map fun c => UInt8.ofNat c.toNat).foldl
        (fun value digit => 10 * value + (digit.toNat - 48)) value =
        Nat.ofDigitChars 10 cs value := by
    induction cs generalizing value with
    | nil => rw [List.map_nil, List.foldl_nil, Nat.ofDigitChars_nil]
    | cons c cs ih =>
      rw [List.forall_mem_cons] at hcs
      rw [List.map_cons, List.foldl_cons, hcs.1, ih _ hcs.2, Nat.ofDigitChars_cons]
      rfl
  rw [digits_value, decimal, hfold _ _ hbyte, Nat.ofDigitChars_ten_toDigits]

theorem decimal_injective : Function.Injective decimal :=
  fun m n h => by rw [← digits_value_decimal m, h, digits_value_decimal]

theorem decimal3_injective : Function.Injective decimal3 := by
  have hvalue (n : ℕ) : digits_value (decimal3 n) = n := by
    have hzeros (k : ℕ) : (List.replicate k (48 : UInt8)).foldl
        (fun value digit => 10 * value + (digit.toNat - 48)) 0 = 0 := by
      induction k with
      | zero => rfl
      | succ k ih => exact ih
    rw [digits_value, decimal3, List.foldl_append, hzeros]
    exact digits_value_decimal n
  exact fun m n h => by rw [← hvalue m, h, hvalue]

theorem segment_name_injective_segment (run_name : Text) :
    Function.Injective (segment_name run_name) := by
  intro m n h
  unfold segment_name at h
  exact decimal3_injective (List.append_cancel_left (List.append_cancel_right h))

theorem segment_name_injective_run (segment : ℕ) :
    Function.Injective (segment_name · segment) := by
  intro s t h
  unfold segment_name at h
  exact List.append_cancel_right (List.append_cancel_right (List.append_cancel_right h))

/-- A run with the prefix of the log files has log files. -/
theorem is_log_name_segment {run_name : Text} (h : K_LOG_FILE_PREFIX <+: run_name) (segment : ℕ) :
    is_log_name (segment_name run_name segment) = true := by
  have hprefix : K_LOG_FILE_PREFIX <+: segment_name run_name segment := by
    unfold segment_name
    rw [List.append_assoc, List.append_assoc]
    exact h.trans (List.prefix_append _ _)
  have hsuffix : K_LOG_FILE_SUFFIX <:+ segment_name run_name segment := List.suffix_append _ _
  have hlength : K_LOG_FILE_PREFIX.length + K_LOG_FILE_SUFFIX.length ≤
      (segment_name run_name segment).length := by
    have hrun := h.length_le
    unfold segment_name
    simp only [List.length_append]
    omega
  simp [is_log_name, has_prefix_and_suffix, hprefix, hsuffix, hlength]

/-! ## A free name -/

section FindSegment

variable {a : Answers} {directory : Directory Text UInt8} {base run_name : Text}

/-- Names that are all taken are no more than the entries of the directory. -/
theorem taken_le_entries {names : ℕ → Text} (hnames : Function.Injective names) {tries : ℕ}
    (h : ∀ i < tries, directory.find? (names i) ≠ none) : tries ≤ directory.entries.length := by
  have hsubset : (List.range tries).map names ⊆ directory.entries.map Prod.fst := by
    intro name hname
    obtain ⟨i, hi, rfl⟩ := List.mem_map.1 hname
    by_contra hfree
    exact h i (List.mem_range.1 hi) (Directory.find?_eq_none.2 hfree)
  have hle := (List.subperm_of_subset (List.nodup_range.map hnames) hsubset).length_le
  simpa using hle

theorem find_segment_later {tries collision segment : ℕ}
    (h : find_segment a directory base false tries run_name collision segment = .stuck) :
    ∀ i < tries, directory.find? (segment_name run_name (segment + i)) ≠ none := by
  induction tries generalizing segment with
  | zero => exact fun i hi => absurd hi (Nat.not_lt_zero i)
  | succ tries ih =>
    unfold find_segment at h
    simp only [Bool.false_eq_true, if_false] at h
    split_ifs at h with hfree hopens
    intro i hi
    cases i with
    | zero => simpa using hfree
    | succ i =>
      rw [Nat.add_comm i 1, ← Nat.add_assoc]
      exact ih h i (Nat.lt_of_succ_lt_succ hi)

/-- The names of the run that are tried after a collision. -/
def collision_name (base : Text) (collision_index : ℕ) : Text :=
  if collision_index = 0 then base else base ++ ascii "-c" ++ decimal collision_index

theorem collision_name_injective : Function.Injective (collision_name base) := by
  intro m n h
  have hne (k : ℕ) : base ++ ascii "-c" ++ decimal k ≠ base := by
    intro heq
    have hlength := congrArg List.length heq
    simp only [List.length_append] at hlength
    have hc : (ascii "-c").length = 2 := by decide
    omega
  unfold collision_name at h
  split_ifs at h with hm hn hn
  · rw [hm, hn]
  · exact absurd h.symm (hne n)
  · exact absurd h (hne m)
  · exact decimal_injective (List.append_cancel_left h)

theorem find_segment_first {tries collision segment : ℕ}
    (h : find_segment a directory base true tries (collision_name base collision) collision
      segment = .stuck) :
    ∀ i < tries,
      directory.find? (segment_name (collision_name base (collision + i)) segment) ≠ none := by
  induction tries generalizing collision with
  | zero => exact fun i hi => absurd hi (Nat.not_lt_zero i)
  | succ tries ih =>
    unfold find_segment at h
    simp only [if_true] at h
    split_ifs at h with hfree hopens
    intro i hi
    cases i with
    | zero => simpa using hfree
    | succ i =>
      rw [Nat.add_comm i 1, ← Nat.add_assoc]
      refine ih ?_ i (Nat.lt_of_succ_lt_succ hi)
      rw [collision_name, if_neg (Nat.succ_ne_zero collision)]
      exact h

/-- What is found is free, and belongs to the run. -/
theorem find_segment_opened (hopens : ∀ name, a.opens name = true)
    {first : Bool} {tries collision segment : ℕ} (hbase : K_LOG_FILE_PREFIX <+: base)
    (hrun : K_LOG_FILE_PREFIX <+: run_name)
    (h : find_segment a directory base first tries run_name collision segment ≠ .stuck) :
    ∃ run_name' segment',
      find_segment a directory base first tries run_name collision segment =
        .opened run_name' segment' ∧
      directory.find? (segment_name run_name' segment') = none ∧
      K_LOG_FILE_PREFIX <+: run_name' := by
  induction tries generalizing run_name collision segment with
  | zero => exact absurd rfl h
  | succ tries ih =>
    unfold find_segment at h ⊢
    dsimp only at h ⊢
    rw [hopens, if_pos rfl] at h ⊢
    split_ifs at h ⊢ with hfree hfirst
    · exact ⟨_, _, rfl, Option.isNone_iff_eq_none.1 hfree, hrun⟩
    · refine ih ?_ h
      rw [List.append_assoc]
      exact hbase.trans (List.prefix_append _ _)
    · exact ih hrun h

/-- A free name is always found. -/
theorem find_segment_spec (hopens : ∀ name, a.opens name = true)
    (hrun : K_LOG_FILE_PREFIX <+: run_name) (segment : ℕ) :
    ∃ run_name' segment',
      find_segment a directory run_name (segment = 0) (directory.entries.length + 1) run_name 0
        segment = .opened run_name' segment' ∧
      directory.find? (segment_name run_name' segment') = none ∧
      K_LOG_FILE_PREFIX <+: run_name' := by
  refine find_segment_opened hopens hrun hrun fun hstuck => ?_
  by_cases hfirst : segment = 0
  · rw [decide_eq_true hfirst] at hstuck
    have hle :=
      taken_le_entries ((segment_name_injective_run segment).comp collision_name_injective)
      (fun i hi =>
        Nat.zero_add i ▸ @find_segment_first a directory run_name _ 0 segment hstuck i hi)
    omega
  · rw [decide_eq_false hfirst] at hstuck
    have hle := taken_le_entries
      ((segment_name_injective_segment run_name).comp (add_right_injective segment))
      (find_segment_later hstuck)
    omega

end FindSegment

end FactoryTest.Logger

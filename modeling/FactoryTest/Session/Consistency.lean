import FactoryTest.Session.Views

/-!
# The linked fields of a session

A session keeps several facts twice: that a test was attempted and how often, that it is
completed and when, which test is current and what state the session is in.

**The property** (`Represents`). The fields agree in every world of a run
(`SessionManager.Consistent`), and what is completed or abandoned no operation changes any more
(`Settled`).

**Where it fails.** `start_new` checks the ids of its plan, and `load_latest_recoverable` does
not. A session file holds the ids up to their first NUL, so a file that the program has written
can hold one id twice, and a plan that repeats the id recovers it (`repeated_id_recovered`). The
count of a test also runs over, at its last value.

**Where it holds** (`represents_iff`). Exactly if no session is recovered under a plan with an
empty or a repeated id, and no attempt is begun once the count of the test is at its last value.
The proof carries the invariant `Sound`: every session file was written by a consistent session.
-/

namespace FactoryTest.Session

/-! ## What agrees with what -/

/-- The linked fields of a record agree. -/
structure TestRecord.Consistent (t : TestRecord) : Prop where
  attempted : t.attempted = true ↔ 1 ≤ t.attempt_count
  /-- It is a `std::size_t`. -/
  attempt_count : t.attempt_count < 2 ^ 64
  attempt_finished_at : t.attempt_finished_at ≠ "" → t.attempted = true ∧ t.completed = true
  completed_at : t.completed_at ≠ "" → t.completed = true
  details : t.details ≠ [] → t.completed = true
  evidence : t.evidence.entries ≠ [] → t.attempted = true
  entries : ∀ entry ∈ t.evidence.entries, valid_evidence entry = true

/-- The counts of a summary agree. -/
structure SessionSummary.Consistent (s : SessionSummary) : Prop where
  completed : s.passed + s.failed = s.completed
  total : s.completed ≤ s.total
  missing_evidence : s.missing_evidence ≤ s.completed

/-- The ids of a plan are distinct and not empty. -/
def DistinctIds (ids : List String) : Prop := ids.Nodup ∧ "" ∉ ids

/-- The linked fields of a session agree. -/
structure SessionManager.Consistent (m : SessionManager) : Prop where
  ids : DistinctIds (m.tests.map (·.id))
  tests : ∀ t ∈ m.tests, t.Consistent
  current_test : m.current_test_id = "" ∨ m.current_test_id ∈ m.tests.map (·.id)
  no_current_test : m.state = .COMPLETED ∨ m.state = .ABANDONED → m.current_test_id = ""
  completed : m.state = .COMPLETED →
    (∀ t ∈ m.tests, t.completed = true) ∧ m.completed_at ≠ ""
  summary : (summary m.state m.tests).Consistent

/-- An operation leaves a completed or abandoned session and the files as they are. -/
def Settled (cJSON : CJsonLibrary) (w : World) : Prop :=
  w.manager.state = .COMPLETED ∨ w.manager.state = .ABANDONED →
    ∀ op, w.manager.Same (operate cJSON w op).1.manager ∧ (operate cJSON w op).1.disk = w.disk

/-- The fields of the session agree, and what is completed or abandoned stays. -/
def Represents (cJSON : CJsonLibrary) (w : World) : Prop :=
  w.manager.Consistent ∧ Settled cJSON w

/-- A session is recovered under a plan whose ids are not distinct or not all there, or an
attempt is begun and written that the count of the test cannot hold. -/
def Overlooks (cJSON : CJsonLibrary) (directory : String) (w : World) : ProgramStep → Prop
  | .operation (.begin_test test_id a) => a.write = .written ∧
      ∃ test ∈ active_test w.manager test_id, test.completed = false ∧
        test.attempt_count = 2 ^ 64 - 1
  | .load_latest_recoverable plan listing => ¬ DistinctIds (plan.map (·.id)) ∧
      ∃ filename ∈ latest_session listing, (load_text cJSON (path_join directory filename)
        (read_text_file w.disk (path_join directory filename)) plan).isSome
  | _ => False

instance (ids : List String) : Decidable (DistinctIds ids) := by
  unfold DistinctIds
  infer_instance

instance (cJSON : CJsonLibrary) (directory : String) (w : World) (e : ProgramStep) :
    Decidable (Overlooks cJSON directory w e) := by
  induction e using ProgramStep.casesOn with
  | operation op =>
    induction op using Operation.casesOn with
    | begin_test =>
      show Decidable (_ ∧ _)
      infer_instance
    | _ => exact instDecidableFalse
  | load_latest_recoverable =>
    show Decidable (_ ∧ _)
    infer_instance
  | _ => exact instDecidableFalse

/-! ## Summaries -/

theorem consistent_summary (state : SessionState) (tests : List TestRecord) :
    (summary state tests).Consistent where
  completed := by
    show tests.countP _ + tests.countP _ = tests.countP _
    induction tests with
    | nil => rfl
    | cons t tests ih =>
      simp only [List.countP_cons]
      rw [← ih]
      cases t.completed <;> cases t.result <;> simp <;> omega
  total := List.countP_le_length
  missing_evidence := by
    refine List.countP_mono_left fun t _ h => ?_
    exact (Bool.and_eq_true_iff.1 h).1

/-! ## Changes -/

section

variable {t : TestRecord}

theorem TestRecord.Consistent.begin_attempt (h : t.Consistent) (now : String)
    (hcount : t.attempt_count ≠ 2 ^ 64 - 1) :
    (begin_attempt now t).Consistent := by
  have hlt := h.attempt_count
  have hnext : (t.attempt_count + 1) % 2 ^ 64 = t.attempt_count + 1 :=
    Nat.mod_eq_of_lt (by omega)
  refine ⟨?_, Nat.mod_lt _ (by decide), fun hne => absurd rfl hne, h.completed_at, h.details,
    fun _ => rfl, fun entry hentry => absurd hentry List.not_mem_nil⟩
  simp only [Session.begin_attempt, hnext]
  simp

/-- The count of a test runs over. -/
theorem not_consistent_begin_attempt {now : String} (hcount : t.attempt_count = 2 ^ 64 - 1) :
    ¬ (begin_attempt now t).Consistent := by
  intro h
  have hattempted := h.attempted.1 rfl
  simp only [begin_attempt, hcount] at hattempted
  exact absurd hattempted (by decide)

theorem TestRecord.Consistent.add_evidence (h : t.Consistent) (now : String)
    {evidence : TestEvidence} (hvalid : evidence.entries.all valid_evidence = true) :
    (add_evidence now evidence t).Consistent := by
  have hentries := @valid_add_evidence t now _ h.entries hvalid
  unfold Session.add_evidence at *
  by_cases hattempted : t.attempted = true
  · simp only [if_pos hattempted] at hentries ⊢
    exact ⟨h.attempted, h.attempt_count, h.attempt_finished_at, h.completed_at, h.details,
      fun _ => hattempted, hentries⟩
  · simp only [if_neg hattempted] at hentries ⊢
    refine ⟨by simp, by simp, fun hne => ?_, h.completed_at, h.details, fun _ => rfl, hentries⟩
    exact absurd (h.attempt_finished_at hne).1 hattempted

theorem TestRecord.Consistent.mark_completed (h : t.Consistent) (result : TestResult)
    (details : List NamedTestResult) (now : String) :
    (mark_completed result details now t).Consistent := by
  refine ⟨h.attempted, h.attempt_count, fun hne => ⟨?_, rfl⟩, fun _ => rfl, fun _ => rfl,
    h.evidence, h.entries⟩
  show t.attempted = true
  by_contra hattempted
  simp only [Session.mark_completed, if_neg hattempted] at hne
  exact hattempted (h.attempt_finished_at hne).1

end

section

variable {m m' : SessionManager}

theorem SessionManager.Consistent.same (h : m.Consistent) (hsame : m.Same m') :
    m'.Consistent := by
  rw [hsame]
  exact ⟨h.ids, h.tests, h.current_test, h.no_current_test, h.completed, h.summary⟩

theorem consistent_empty : ({} : SessionManager).Consistent where
  ids := ⟨List.nodup_nil, List.not_mem_nil⟩
  tests := fun t ht => absurd ht List.not_mem_nil
  current_test := .inl rfl
  no_current_test := fun _ => rfl
  completed := fun h => by cases h
  summary := consistent_summary _ _

/-- A change of one record of a session in progress. -/
theorem SessionManager.Consistent.with_test (h : m.Consistent) {test_id : String}
    {f : TestRecord → TestRecord} (hf : ∀ t, (f t).id = t.id)
    (hchanged : ∀ t, find_test m.tests test_id = some t → (f t).Consistent)
    (hactive : m.active = true) (now : TimePoint) : (m.with_test test_id f now).Consistent := by
  have hprogress : m.state = .IN_PROGRESS := of_decide_eq_true hactive
  have hids : (modify_test test_id f m.tests).map (·.id) = m.tests.map (·.id) :=
    map_modify_test hf
  refine ⟨?_, ?_, ?_, h.no_current_test, fun hstate => ?_, consistent_summary _ _⟩
  · show DistinctIds ((modify_test test_id f m.tests).map (·.id))
    rw [hids]
    exact h.ids
  · intro t ht
    rcases mem_modify_test ht with ht | ⟨d, hd, rfl⟩
    · exact h.tests t ht
    · exact hchanged d hd
  · show m.current_test_id = "" ∨ m.current_test_id ∈ (modify_test test_id f m.tests).map (·.id)
    rw [hids]
    exact h.current_test
  · rw [show m.state = .COMPLETED from hstate] at hprogress
    cases hprogress

theorem isSome_find_test {tests : List TestRecord} {test_id : String} :
    (find_test tests test_id).isSome ↔ test_id ∈ tests.map (·.id) := by
  simp [find_test]

/-- A planned test becomes the current one of a session in progress. -/
theorem SessionManager.Consistent.set_current_test (h : m.Consistent) {test_id : String}
    (hfind : (find_test m.tests test_id).isSome) (hactive : m.active = true)
    (updated_at : String) :
    ({ m with current_test_id := test_id, updated_at := updated_at } :
      SessionManager).Consistent := by
  have hprogress : m.state = .IN_PROGRESS := of_decide_eq_true hactive
  refine ⟨h.ids, h.tests, .inr ?_, fun hstate => ?_, h.completed, h.summary⟩
  · obtain ⟨t, ht⟩ := Option.isSome_iff_exists.1 hfind
    exact List.mem_map.2 ⟨t, mem_of_find_test ht, find_test_id ht⟩
  · rcases hstate with hstate | hstate <;> cases hprogress.symm.trans hstate

theorem SessionManager.Consistent.abandoned (h : m.Consistent) (now : TimePoint) :
    (m.abandoned now).Consistent :=
  ⟨h.ids, h.tests, .inl rfl, fun _ => rfl, fun hstate => (by cases hstate), consistent_summary _ _⟩

theorem SessionManager.Consistent.finalized (h : m.Consistent) (hfinished : m.finished)
    (now : TimePoint) : (m.finalized now).Consistent := by
  refine ⟨h.ids, h.tests, .inl rfl, fun _ => rfl, fun _ => ⟨fun t ht => ?_, ?_⟩,
    consistent_summary _ _⟩
  · have hlength : m.tests.length = m.tests.findIdx fun t => !t.completed :=
      le_antisymm hfinished.2 List.findIdx_le_length
    simpa using List.findIdx_eq_length.1 hlength.symm t ht
  · exact iso_timestamp_ne_empty now

theorem not_mem_of_valid_plan {tests : List TestDefinition} {test_ids : List String}
    (h : valid_plan tests test_ids = true) : "" ∉ tests.map (·.id) := by
  induction tests generalizing test_ids with
  | nil => exact List.not_mem_nil
  | cons test tests ih =>
    simp only [valid_plan, Bool.and_eq_true, Bool.not_eq_true', Bool.or_eq_false_iff,
      decide_eq_false_iff_not] at h
    obtain ⟨⟨⟨hid, -⟩, -⟩, hrest⟩ := h
    rw [List.map_cons, List.mem_cons, not_or]
    exact ⟨Ne.symm hid, ih hrest⟩

theorem consistent_new_session {directory : String} {tests : List TestDefinition}
    (hvalid : valid_plan tests [] = true) (metadata : SessionMetadata) (now : TimePoint) :
    (new_session directory tests metadata now).Consistent := by
  have hids : (tests.map fun test => ({ id := test.id, name := test.name } : TestRecord)).map
      (·.id) = tests.map (·.id) := by
    rw [List.map_map]
    rfl
  refine ⟨?_, fun t ht => ?_, .inl rfl, fun _ => rfl, fun hstate => (by cases hstate),
    consistent_summary _ _⟩
  · rw [show (new_session directory tests metadata now).tests.map (·.id) = _ from hids]
    exact ⟨(nodup_of_valid_plan hvalid).1, not_mem_of_valid_plan hvalid⟩
  · obtain ⟨test, -, rfl⟩ := List.mem_map.1 ht
    exact ⟨by simp, by simp, fun hne => absurd rfl hne, fun hne => absurd rfl hne,
      fun hne => absurd rfl hne, fun hne => absurd rfl hne,
      fun entry hentry => absurd hentry List.not_mem_nil⟩

end

/-! ## Reading a session back -/

theorem roundSignificand_pos {n : ℕ} (h : 1 ≤ n) : 1 ≤ Double.roundSignificand n := by
  unfold Double.roundSignificand
  split_ifs with hsmall
  · exact h
  · have hlog : Nat.log2 n - 52 ≤ Nat.log2 n := Nat.sub_le _ _
    have hunit : 2 ^ (Nat.log2 n - 52) ≤ n :=
      (Nat.pow_le_pow_right (by decide) hlog).trans (Nat.log2_self_le (by omega))
    have hquotient : 1 ≤ n / 2 ^ (Nat.log2 n - 52) := Nat.div_pos hunit (by positivity)
    have hpos : 0 < 2 ^ (Nat.log2 n - 52) := by positivity
    dsimp only
    split_ifs
    · exact Nat.mul_pos hquotient hpos
    · exact Nat.mul_pos (Nat.succ_pos _) hpos

/-- A count is rounded when it is written, but not to zero. -/
theorem size_of_double_ofNat {n : ℕ} (h : n < 2 ^ 64) :
    size_of_double (.ofNat n) < 2 ^ 64 ∧ (1 ≤ size_of_double (.ofNat n) ↔ 1 ≤ n) := by
  have hmod : n % 2 ^ 64 = n := Nat.mod_eq_of_lt h
  have hsize : size_of_double (.ofNat n) = min (Double.roundSignificand n) (2 ^ 64 - 1) := by
    rw [size_of_double, Double.ofNat, Double.truncate_finite_natCast, Int.toNat_natCast, hmod]
  rw [hsize]
  refine ⟨by omega, fun hround => ?_, fun hn => le_min (roundSignificand_pos hn) (by decide)⟩
  by_contra hn
  obtain rfl : n = 0 := by omega
  exact absurd hround (by decide)

/-- The record `r` is what `parse_test` makes of the record `t` in its file. -/
structure ReadAs (t r : TestRecord) : Prop where
  id : r.id = c_str t.id
  completed : r.completed = t.completed
  attempted : r.attempted = t.attempted
  attempt_count : r.attempt_count = size_of_double (.ofNat t.attempt_count)
  attempt_finished_at : r.attempt_finished_at = c_str t.attempt_finished_at
  completed_at : r.completed_at = c_str t.completed_at
  evidence : r.evidence.entries ≠ [] → t.evidence.entries ≠ []
  entries : ∀ entry ∈ r.evidence.entries, valid_evidence entry = true
  details : r.details ≠ [] → t.details ≠ []

theorem nonnegative_ofNat (n : ℕ) : (Double.ofNat n).nonnegative = true := by
  simp [Double.ofNat, Double.nonnegative]

theorem readAs_of_parse_test {t r : TestRecord} (h : parse_test (session_test_item t) = .ok r) :
    ReadAs t r := by
  have hentries := valid_of_parse_test h
  obtain ⟨hevidence, hdetails⟩ := findMember_evidence_members t
  unfold parse_test session_test_item at h
  cases hcompleted : t.completed
  all_goals
    simp [string_member, bool_member, number_member, hcompleted, hevidence, hdetails,
      nonnegative_ofNat] at h
    split at h
    case h_2 => cases h
    case h_1 evidence details hread hread' =>
      cases h
      refine ⟨rfl, hcompleted.symm, rfl, rfl, rfl, rfl, fun hne hnil => hne ?_, hentries,
        fun hne hnil => hne ?_⟩
      · rw [hnil] at hread
        cases hread
        rfl
      · rw [hnil] at hread'
        cases hread'
        rfl

theorem c_str_empty : c_str "" = "" := by decide

theorem ne_empty_of_c_str {s : String} (h : c_str s ≠ "") : s ≠ "" := by
  rintro rfl
  exact h c_str_empty

/-- A record that was consistent when it was written is so when it is read. -/
theorem ReadAs.consistent {t r : TestRecord} (h : ReadAs t r) (ht : t.Consistent) :
    r.Consistent := by
  obtain ⟨hlt, hcount⟩ := size_of_double_ofNat ht.attempt_count
  refine ⟨?_, h.attempt_count ▸ hlt, fun hne => ?_, fun hne => ?_, fun hne => ?_, fun hne => ?_,
    h.entries⟩
  · rw [h.attempted, h.attempt_count, hcount]
    exact ht.attempted
  · rw [h.attempt_finished_at] at hne
    rw [h.attempted, h.completed]
    exact ht.attempt_finished_at (ne_empty_of_c_str hne)
  · rw [h.completed_at] at hne
    rw [h.completed]
    exact ht.completed_at (ne_empty_of_c_str hne)
  · rw [h.completed]
    exact ht.details (h.details hne)
  · rw [h.attempted]
    exact ht.evidence (h.evidence hne)

/-- The records of a session that is read from its file and matched with a plan. -/
theorem forall₂_readAs {tests records tests' : List TestRecord} {plan : List TestDefinition}
    (hparse : parse_tests (tests.map session_test_item) = .ok records)
    (hmatch : match_plan records plan = some tests') : List.Forall₂ ReadAs tests tests' := by
  induction tests generalizing records tests' plan with
  | nil =>
    cases hparse
    cases plan with
    | nil =>
      cases hmatch
      exact .nil
    | cons => cases hmatch
  | cons t tests ih =>
    rw [List.map_cons, parse_tests] at hparse
    split at hparse
    case h_2 => cases hparse
    case h_1 record hrecord =>
      split at hparse
      case h_2 => cases hparse
      case h_1 rest hrest =>
        cases hparse
        cases plan with
        | nil => cases hmatch
        | cons expected plan =>
          rw [match_plan] at hmatch
          split_ifs at hmatch
          obtain ⟨tests', htests', rfl⟩ := Option.map_eq_some_iff.1 hmatch
          have hread := readAs_of_parse_test hrecord
          exact .cons ⟨hread.id, hread.completed, hread.attempted, hread.attempt_count,
            hread.attempt_finished_at, hread.completed_at, hread.evidence, hread.entries,
            hread.details⟩ (ih hrest htests')

theorem exists_left_of_forall₂ {α β : Type*} {R : α → β → Prop} {l : List α} {l' : List β}
    (h : List.Forall₂ R l l') {b : β} (hb : b ∈ l') : ∃ a ∈ l, R a b := by
  induction h with
  | nil => cases hb
  | cons hab _ ih =>
    rcases List.mem_cons.1 hb with rfl | hb
    · exact ⟨_, List.mem_cons_self, hab⟩
    · obtain ⟨a, ha, hr⟩ := ih hb
      exact ⟨a, List.mem_cons_of_mem _ ha, hr⟩

/-- What is read from the document of a session: its records, its current test, and its state. -/
theorem parse_session_document_tests {m : SessionManager} {loaded : LoadedSession}
    (h : parse_session_root m.session_document = .ok loaded) :
    parse_tests (m.tests.map session_test_item) = .ok loaded.tests ∧
      loaded.current_test_id = c_str m.current_test_id ∧ loaded.state = m.state := by
  have hstate : c_str (session_state_text m.state) = session_state_text m.state :=
    c_str_eq (by cases m.state <;> decide)
  have hschema : CJson.valueint (.ofNat K_SESSION_SCHEMA_VERSION) = K_SESSION_SCHEMA_VERSION := by
    decide +kernel
  unfold parse_session_root SessionManager.session_document at h
  simp [string_member, number_member, hschema, hstate] at h
  split at h
  case h_2 => cases h
  case h_1 records hrecords =>
    cases h
    exact ⟨hrecords, rfl, rfl⟩

theorem SessionManager.ext_ids {tests : List TestRecord} {plan : List TestDefinition}
    (h : tests.map TestRecord.definition = plan) : tests.map (·.id) = plan.map (·.id) := by
  rw [← h, List.map_map]
  rfl

/-- What is recovered from the file of a consistent session is consistent, if the plan has
distinct ids. -/
theorem consistent_of_load_text {cJSON : CJsonLibrary} (hcJSON : cJSON.Lossless)
    {m m' : SessionManager} {text : String} {plan : List TestDefinition} (hm : m.Named)
    (hconsistent : m.Consistent) (htext : session_text cJSON m = some text)
    (hload : load_text cJSON m.session_path text plan = some m')
    (hplan : DistinctIds (plan.map (·.id))) : m'.Consistent := by
  obtain ⟨output, hprint, hparse⟩ := hcJSON _ (printable_session_document hm.evidence)
  obtain rfl : output ++ "\n" = text := by
    rw [session_text, print_json, hprint] at htext
    exact Option.some.inj htext
  obtain ⟨hstate, hdefinitions⟩ := load_text_plan hload
  have hids : m'.tests.map (·.id) = plan.map (·.id) := SessionManager.ext_ids hdefinitions
  unfold load_text at hload
  rw [parse_session_document, hparse] at hload
  split_ifs at hload
  dsimp only at hload
  split at hload
  case h_1 => cases hload
  case h_2 loaded hloaded =>
    obtain ⟨htests, hcurrent, -⟩ := parse_session_document_tests hloaded
    by_cases hprogress : loaded.state = .IN_PROGRESS
    swap
    · rw [if_pos hprogress] at hload
      cases hload
    rw [if_neg (not_not.2 hprogress)] at hload
    split at hload
    case h_1 => cases hload
    case h_2 tests hmatch =>
      have hread := forall₂_readAs htests hmatch
      cases hload
      refine ⟨by rw [hids]; exact hplan, fun t ht => ?_, ?_, fun hsettled => ?_,
        fun hcompleted => ?_, consistent_summary _ _⟩
      · obtain ⟨d, hd, hr⟩ := exists_left_of_forall₂ hread ht
        exact hr.consistent (hconsistent.tests d hd)
      · dsimp only
        rw [hcurrent]
        rcases hconsistent.current_test with hnone | hmem
        · exact .inl (by rw [hnone, c_str_empty])
        · obtain ⟨t, ht, hid⟩ := List.mem_map.1 hmem
          obtain ⟨r, hr, hread⟩ := exists_left_of_forall₂ hread.flip ht
          exact .inr (List.mem_map.2 ⟨r, hr, by rw [hread.id, hid]⟩)
      · rcases hsettled with hsettled | hsettled <;> cases hstate.symm.trans hsettled
      · cases hstate.symm.trans hcompleted

/-! ## Runs -/

/-- The session is consistent, and every session file was written by one that is. -/
structure Sound (cJSON : CJsonLibrary) (w : World) : Prop where
  proper : Proper cJSON w
  manager : w.manager.Consistent
  written : ∀ path text, w.disk path = some text → has_suffix path K_SESSION_SUFFIX = true →
    ∃ m : SessionManager, m.Named ∧ m.session_path = path ∧ session_text cJSON m = some text ∧
      m.Consistent

section

variable {cJSON : CJsonLibrary} {directory : String} {w : World} {r : World × Bool}
  {m : SessionManager} {write : WriteAnswer}

theorem Sound.unchanged (h : Sound cJSON w) (hr : Unchanged w r) : Sound cJSON r.1 where
  proper := hr.moves.preserves (fun _ _ => Proper.move) h.proper
  manager := h.manager.same hr.2.1
  written := by
    rw [hr.2.2]
    exact h.written

theorem Sound.keep (h : Sound cJSON w) (hm : m.Named) (hconsistent : m.Consistent)
    (htext : (session_text cJSON m).isSome) : Sound cJSON (stored cJSON w.disk m) where
  proper := h.proper.store hm htext
  manager := hconsistent.same .of_eq
  written := by
    intro path text hpath hsuffix
    by_cases heq : path = m.session_path
    · subst heq
      exact ⟨m, hm, rfl, (stored_disk_self cJSON w.disk m).symm.trans hpath, hconsistent⟩
    · exact h.written path text ((stored_disk_of_ne cJSON heq w.disk).symm.trans hpath) hsuffix

theorem Sound.store (h : Sound cJSON w) (hchange : Change w.manager m) (hm : m.Consistent)
    (hr : Stored cJSON w m write r) : Sound cJSON r.1 := by
  rw [hr.2]
  exact h.keep ((h.proper.named hchange.state_ne_none.1).change hchange) hm hr.1.2.2

theorem Sound.reset (h : Sound cJSON w) : Sound cJSON (reset w) :=
  ⟨h.proper.relaunch, consistent_empty, h.written⟩

/-- The result file is not the file of a session. -/
theorem Sound.with_result (h : Sound cJSON w) (hfinished : w.manager.finished)
    (now : TimePoint) : Sound cJSON (with_result cJSON w now) where
  proper := h.proper.move (.result now hfinished)
  manager := h.manager
  written := by
    intro path text hpath hsuffix
    have hnamed : w.manager.Named := h.proper.named fun hstate => by
      simpa [SessionManager.active, hstate] using hfinished.1
    have hne : path ≠ w.manager.result_path := by
      rintro rfl
      rw [hnamed.result, not_session_of_result (has_suffix_result_path _)] at hsuffix
      cases hsuffix
    exact h.written path text ((with_result_disk_of_ne hne).symm.trans hpath) hsuffix

theorem Sound.finalize (h : Sound cJSON w) {now : TimePoint} {write_result : WriteAnswer} :
    Sound cJSON (finalize cJSON w now write_result write).1 := by
  rcases @finalize_spec cJSON w now write write_result with
    ⟨-, hr⟩ | ⟨hr, -⟩ | ⟨hfinished, -, ⟨-, hr⟩ | hr⟩
  · rw [hr]
    exact h
  · exact h.unchanged hr
  · exact (h.with_result hfinished now).unchanged hr
  · exact (h.with_result hfinished now).store (.finalize now hfinished)
      (h.manager.finalized hfinished now) hr

theorem Sound.operate (h : Sound cJSON w) {op : Operation}
    (hcount : ¬ Overlooks cJSON directory w (.operation op)) :
    Sound cJSON (operate cJSON w op).1 := by
  cases op with
  | set_current_test test_id a =>
    rcases @set_current_test_spec cJSON w test_id a with hr | hr | ⟨hactive, hfind, hr⟩
    · rw [Session.operate, hr]
      exact h
    · exact h.unchanged hr
    · exact h.store (.set_current_test test_id a.now hactive hfind)
        (h.manager.set_current_test hfind hactive _) hr
  | begin_test test_id a =>
    rcases @begin_test_spec cJSON w test_id a with hr | ⟨test, hactive, hfind, hcompleted, hr⟩
    · exact h.unchanged hr
    · have hlast : test.attempt_count ≠ 2 ^ 64 - 1 := fun hlast =>
        hcount ⟨hr.1.1, test, by rw [active_test, if_pos hactive, hfind]; rfl, hcompleted, hlast⟩
      refine h.store (.begin_test test_id a.now test hactive hfind hcompleted) ?_ hr
      have hm : (w.manager.with_test test_id (begin_attempt (iso_timestamp a.now))
          a.now).Consistent := by
        refine h.manager.with_test begin_attempt_id (fun t ht => ?_) hactive a.now
        obtain rfl : test = t := Option.some.inj (hfind.symm.trans ht)
        exact (h.manager.tests test (mem_of_find_test hfind)).begin_attempt _ hlast
      refine hm.set_current_test (isSome_find_test.2 ?_) hactive (iso_timestamp a.now)
      show test_id ∈ (modify_test test_id (begin_attempt _) w.manager.tests).map (·.id)
      rw [map_modify_test begin_attempt_id]
      exact isSome_find_test.1 (by rw [hfind]; rfl)
  | record_evidence test_id evidence a =>
    rcases @record_evidence_spec cJSON w test_id a evidence with
      hr | ⟨test, hactive, hfind, hcompleted, hvalid, hr⟩
    · exact h.unchanged hr
    · refine h.store
        (.record_evidence test_id evidence a.now _ test hactive hfind hcompleted hvalid) ?_ hr
      refine h.manager.with_test (add_evidence_id _ _) (fun t ht => ?_) hactive _
      exact (h.manager.tests t (mem_of_find_test ht)).add_evidence _ hvalid
  | complete_test test_id result details a =>
    rcases @complete_test_spec cJSON w test_id a result details with
      ⟨hr, -⟩ | ⟨test, m, htest, rfl, hpersists, ⟨-, hr⟩ | ⟨-, hr⟩⟩
    · exact h.unchanged hr
    all_goals
      obtain ⟨hactive, hfind⟩ := active_test_eq_some htest
      have hstored : Sound cJSON (stored cJSON w.disk
          (w.manager.with_verdict test_id result details a.now)) := by
        refine h.store (.complete_test test_id result details a.now test hactive hfind) ?_
          (r := (_, true)) ⟨hpersists, rfl⟩
        refine h.manager.with_test mark_completed_id (fun t ht => ?_) hactive a.now
        exact (h.manager.tests t (mem_of_find_test ht)).mark_completed _ _ _
      rw [Session.operate, hr]
    · exact hstored
    · exact hstored.finalize
  | finalize a => exact h.finalize
  | abandon a =>
    rcases @abandon_spec cJSON w a with ⟨-, hr⟩ | ⟨hstate, hr | hr⟩
    · rw [Session.operate, hr]
      exact h
    · exact h.unchanged hr
    · exact h.store (.abandon a.now hstate) (h.manager.abandoned a.now) hr

theorem Sound.start (hdirectory : NulFree directory) (h : Sound cJSON w)
    (tests : List TestDefinition) (metadata : SessionMetadata) (a : Answers) :
    Sound cJSON (start_new cJSON directory w tests metadata a).1 := by
  rcases @start_new_spec cJSON w a directory tests metadata with
    hr | ⟨disk, now, write, hdisk, hr⟩
  · exact h.unchanged hr
  · have hleft : Sound cJSON ⟨{}, disk⟩ := by
      rcases hdisk with rfl | ⟨hstate, hpersists, rfl⟩
      · exact h.reset
      · exact (h.store (.abandon a.now hstate) (h.manager.abandoned a.now)
          (r := (_, true)) ⟨hpersists, rfl⟩).reset
    rcases hr with ⟨message, hr⟩ | ⟨-, hvalid, hpersists, hr⟩
    · rw [hr]
      exact ⟨⟨fun hstate => absurd rfl hstate, .inl rfl, hleft.proper.written⟩,
        consistent_empty.same rfl, hleft.written⟩
    · rw [hr]
      exact hleft.keep (named_new_session hdirectory tests metadata now)
        (consistent_new_session hvalid metadata now) hpersists.2.2

theorem Sound.load (hcJSON : cJSON.Lossless) (h : Sound cJSON w) {plan : List TestDefinition}
    {listing : Listing}
    (hplan : ¬ Overlooks cJSON directory w (.load_latest_recoverable plan listing)) :
    Sound cJSON (load_latest_recoverable cJSON directory w plan listing).1 := by
  refine ⟨h.proper.load hcJSON plan listing, ?_, ?_⟩ <;>
    rcases @load_latest_recoverable_spec cJSON w directory plan listing with
      hr | ⟨filename, m', hfilename, hload, hr⟩ <;> rw [hr]
  · exact consistent_empty
  · have hids : DistinctIds (plan.map (·.id)) := by
      by_contra hids
      exact hplan ⟨hids, filename, hfilename, by rw [hload]; rfl⟩
    have hsuffix := has_suffix_path_join directory (latest_session_session hfilename)
    generalize path_join directory filename = path at hload hsuffix
    cases hdisk : w.disk path with
    | none =>
      rw [read_text_file, hdisk] at hload
      cases hload
    | some text =>
      obtain ⟨m, hm, rfl, htext, hconsistent⟩ := h.written path text hdisk hsuffix
      rw [read_text_file, hdisk] at hload
      exact consistent_of_load_text hcJSON hm hconsistent htext hload hids
  · exact h.written
  · exact h.written

/-- What is completed or abandoned stays as it is. -/
theorem settled (cJSON : CJsonLibrary) (w : World) : Settled cJSON w := by
  intro hstate op
  have hnot : ¬ w.manager.active = true := fun hactive => by
    have hprogress : w.manager.state = .IN_PROGRESS := of_decide_eq_true hactive
    rcases hstate with hstate | hstate <;> cases hprogress.symm.trans hstate
  have hfinalize (now : TimePoint) (write_result write : WriteAnswer) :
      w.manager.Same (finalize cJSON w now write_result write).1.manager ∧
        (finalize cJSON w now write_result write).1.disk = w.disk := by
    rcases @finalize_spec cJSON w now write write_result with ⟨-, hr⟩ | ⟨hr, -⟩ | ⟨hfinished, -⟩
    · rw [hr]
      exact ⟨rfl, rfl⟩
    · exact hr.2
    · exact absurd hfinished.1 hnot
  cases op with
  | set_current_test test_id a =>
    rcases @set_current_test_spec cJSON w test_id a with hr | hr | ⟨hactive, -⟩
    · rw [operate, hr]
      exact ⟨rfl, rfl⟩
    · exact hr.2
    · exact absurd hactive hnot
  | begin_test test_id a =>
    rcases @begin_test_spec cJSON w test_id a with hr | ⟨-, hactive, -⟩
    · exact hr.2
    · exact absurd hactive hnot
  | record_evidence test_id evidence a =>
    rcases @record_evidence_spec cJSON w test_id a evidence with hr | ⟨-, hactive, -⟩
    · exact hr.2
    · exact absurd hactive hnot
  | complete_test test_id result details a =>
    rcases @complete_test_spec cJSON w test_id a result details with ⟨hr, -⟩ | ⟨test, -, htest, -⟩
    · exact hr.2
    · exact absurd (active_test_eq_some htest).1 hnot
  | finalize a => exact hfinalize a.now a.write_result a.write
  | abandon a =>
    rcases @abandon_spec cJSON w a with ⟨-, hr⟩ | ⟨hprogress, -⟩
    · rw [operate, hr]
      exact ⟨rfl, rfl⟩
    · exact absurd (decide_eq_true hprogress) hnot

theorem persists_of_named (hcJSON : cJSON.Lossless) (hm : m.Named) :
    Persists cJSON m .written := by
  refine ⟨rfl, fun hpath => ?_, ?_⟩
  · have hsuffix := hm.session
    rw [hpath] at hsuffix
    exact absurd hsuffix (by decide)
  · obtain ⟨output, hprint, -⟩ := hcJSON _ (printable_session_document hm.evidence)
    rw [session_text, print_json, if_pos rfl, hprint]
    rfl

/-- `begin_test` goes through for a test that is available, if it can be written. -/
theorem begin_test_stored {test_id : String} {a : Answers} {test : TestRecord}
    (htest : active_test w.manager test_id = some test) (hcompleted : test.completed = false)
    (hpersists : Persists cJSON { w.manager.with_test test_id
      (begin_attempt (iso_timestamp a.now)) a.now with current_test_id := test_id } a.write) :
    begin_test cJSON w test_id a = (stored cJSON w.disk { w.manager.with_test test_id
      (begin_attempt (iso_timestamp a.now)) a.now with current_test_id := test_id }, true) := by
  unfold begin_test
  dsimp only
  rw [htest]
  dsimp only
  rw [if_neg (by rw [hcompleted]; exact Bool.false_ne_true)]
  exact persist_or_restore_true (iso_timestamp_ne_empty a.now) hpersists

/-- The changed record is among the records. -/
theorem mem_modify_test_self {tests : List TestRecord} {test_id : String} {t : TestRecord}
    {f : TestRecord → TestRecord} (h : find_test tests test_id = some t) :
    f t ∈ modify_test test_id f tests := by
  induction tests with
  | nil => cases h
  | cons d tests ih =>
    rw [modify_test_cons]
    split_ifs with hd
    · obtain rfl : d = t := by simpa [find_test, hd] using h
      exact List.mem_cons_self
    · exact List.mem_cons_of_mem _ (ih (by simpa [find_test, hd] using h))

/-- An overlooked step leaves a session that is not consistent. -/
theorem Sound.not_consistent (hcJSON : cJSON.Lossless) (h : Sound cJSON w) {e : ProgramStep}
    (he : Overlooks cJSON directory w e) :
    ¬ ((program cJSON directory).step w e).1.manager.Consistent := by
  intro hconsistent
  cases e with
  | start_new | relaunch => exact he
  | load_latest_recoverable plan listing =>
    obtain ⟨hids, filename, hfilename, hload⟩ := he
    obtain ⟨m, hload⟩ := Option.isSome_iff_exists.1 hload
    have hr : load_latest_recoverable cJSON directory w plan listing = (⟨m, w.disk⟩, true) := by
      unfold load_latest_recoverable
      rw [hfilename]
      dsimp only [Session.reset]
      rw [hload]
    refine hids ?_
    rw [← SessionManager.ext_ids (load_text_plan hload).2]
    have hm : m.Consistent := by simpa only [program, hr] using hconsistent
    exact hm.ids
  | operation op =>
    cases op with
    | begin_test test_id a =>
      obtain ⟨hwrite, test, htest, hcompleted, hcount⟩ := he
      obtain ⟨hactive, hfind⟩ := active_test_eq_some htest
      have hchange := Change.begin_test test_id a.now test hactive hfind hcompleted
      have hpersists := persists_of_named hcJSON
        ((h.proper.named hchange.state_ne_none.1).change hchange)
      rw [← hwrite] at hpersists
      simp only [program, Session.operate, begin_test_stored htest hcompleted hpersists]
        at hconsistent
      exact not_consistent_begin_attempt hcount
        (hconsistent.tests _ (mem_modify_test_self hfind))
    | set_current_test | record_evidence | complete_test | finalize | abandon => exact he

theorem Sound.next (hcJSON : cJSON.Lossless) (hdirectory : NulFree directory)
    {c : Config World Bool} (h : Sound cJSON c.state) {e : ProgramStep}
    (he : ¬ Overlooks cJSON directory c.state e) :
    Sound cJSON ((program cJSON directory).next c e).state := by
  cases e with
  | operation op => exact h.operate he
  | start_new tests metadata a => exact h.start hdirectory tests metadata a
  | load_latest_recoverable plan listing => exact h.load hcJSON he
  | relaunch => exact h.reset

/-- In every world of a run the fields of the session agree, and what is completed or abandoned
stays, exactly if no step overlooks the ids of a plan or the last value of a count. -/
theorem represents_iff (cJSON : CJsonLibrary) (hcJSON : cJSON.Lossless) (directory : String)
    (hdirectory : NulFree directory) (steps : List ProgramStep) :
    (∀ before after, steps = before ++ after →
      Represents cJSON ((program cJSON directory).run ⟨{}, []⟩ before).state) ↔
    (program cJSON directory).Along (fun c e => ¬ Overlooks cJSON directory c.state e) ⟨{}, []⟩
      steps := by
  have hstart : Represents cJSON ({} : World) := ⟨consistent_empty, settled cJSON {}⟩
  have hsound : Sound cJSON ({} : World) :=
    ⟨⟨fun hstate => absurd rfl hstate, .inl rfl, fun path text hpath => by cases hpath⟩,
      consistent_empty, fun path text hpath => by cases hpath⟩
  have hiff (c : Config World Bool) (e : ProgramStep) (hc : Sound cJSON c.state) :
      Represents cJSON ((program cJSON directory).next c e).state ↔
        ¬ Overlooks cJSON directory c.state e := by
    constructor
    · exact fun h he => hc.not_consistent hcJSON he h.1
    · exact fun he => ⟨(hc.next hcJSON hdirectory he).manager, settled cJSON _⟩
  rw [Machine.everywhere_iff_along (P := fun c : Config World Bool => Represents cJSON c.state)
    hstart]
  exact Machine.along_iff (I := fun c : Config World Bool => Sound cJSON c.state)
    (fun c e hc h => hc.next hcJSON hdirectory ((hiff c e hc).1 h)) hiff hsound steps

end

/-- The only test of a session is tried and completed. -/
def triedSteps : List ProgramStep :=
  sampleSteps ++
    [.operation (.begin_test "input" { now := sampleLater }),
      .operation (.complete_test "input" .PASS [] { now := sampleLater })]

theorem represents_tried :
    Represents JsonText.jsonText
      ((program JsonText.jsonText "/sessions").run ⟨{}, []⟩ triedSteps).state :=
  (represents_iff JsonText.jsonText JsonText.lossless_jsonText "/sessions" (by decide)
    triedSteps).2 (by decide +kernel) triedSteps [] (List.append_nil triedSteps).symm

/-- The session that is recovered from a file has the records that its document is read as. -/
theorem tests_of_document {cJSON : CJsonLibrary} (hcJSON : cJSON.Lossless) {directory : String}
    {m : SessionManager} (hm : m.Named) (disk : Disk) {loaded : LoadedSession}
    (hloaded : parse_session_root m.session_document = .ok loaded)
    (hstate : loaded.state = .IN_PROGRESS) {plan : List TestDefinition} {tests : List TestRecord}
    (hmatch : match_plan loaded.tests plan = some tests) {listing : Listing} {filename : String}
    (hlatest : latest_session listing = some filename)
    (hpath : path_join directory filename = m.session_path) :
    (load_latest_recoverable cJSON directory ⟨{}, (stored cJSON disk m).disk⟩ plan
      listing).1.manager.tests = tests := by
  obtain ⟨output, hprint, hparse⟩ := hcJSON _ (printable_session_document hm.evidence)
  have htext : session_text cJSON m = some (output ++ "\n") := by
    rw [session_text, print_json, hprint]
    rfl
  have hread : read_text_file (stored cJSON disk m).disk m.session_path = output ++ "\n" := by
    rw [read_text_file, stored_disk_self, htext]
    rfl
  unfold load_latest_recoverable
  rw [hlatest]
  dsimp only [reset]
  rw [hpath, hread, load_text, if_neg (by simp), parse_session_document, hparse]
  dsimp only
  rw [hloaded]
  dsimp only
  rw [if_neg (not_not.2 hstate), hmatch]

/-- Two ids that differ behind a NUL are one id in the file. -/
def nulPlan : List TestDefinition := [⟨"key\x00a", "Key A"⟩, ⟨"key\x00b", "Key B"⟩]

/-- A plan that has the id twice is matched with that. -/
def repeatedPlan : List TestDefinition := [⟨"key", "Key A"⟩, ⟨"key", "Key B"⟩]

def repeatedListing : Listing :=
  ⟨true, [⟨"factorytest-20261118-093000-000.session.json", some true, some 1⟩]⟩

def repeatedSteps : List ProgramStep :=
  [.start_new nulPlan {} { now := sampleNow }, .relaunch,
    .load_latest_recoverable repeatedPlan repeatedListing]

/-- A session is started, and the next launch recovers one. -/
theorem run_recover {cJSON : CJsonLibrary} {directory : String} {c : Config World Bool}
    {tests plan : List TestDefinition} {metadata : SessionMetadata} {a : Answers}
    {listing : Listing} :
    ((program cJSON directory).run c [.start_new tests metadata a, .relaunch,
      .load_latest_recoverable plan listing]).state =
      (load_latest_recoverable cJSON directory
        (reset (start_new cJSON directory c.state tests metadata a).1) plan listing).1 := rfl

theorem repeated_id_recovered :
    ¬ ∀ (cJSON : CJsonLibrary) (directory : String) (steps : List ProgramStep),
      cJSON.Lossless → NulFree directory → ∀ before after, steps = before ++ after →
        Represents cJSON ((program cJSON directory).run ⟨{}, []⟩ before).state := by
  intro hclaim
  have hlossless := JsonText.lossless_jsonText
  have hnamed : (new_session "/sessions" nulPlan {} sampleNow).Named :=
    named_new_session (by decide) nulPlan {} sampleNow
  have hpersist := @persist_true JsonText.jsonText
    ⟨new_session "/sessions" nulPlan {} sampleNow, fun _ => none⟩ sampleNow .written
    (iso_timestamp_ne_empty sampleNow) (persists_of_named hlossless hnamed)
  have hstart : (start_new JsonText.jsonText "/sessions" {} nulPlan {} { now := sampleNow }).1 =
      stored JsonText.jsonText (fun _ => none) (new_session "/sessions" nulPlan {} sampleNow) := by
    have hvalid : valid_plan nulPlan [] = true := by decide
    have hidle : (({ last_error := "" } : SessionManager).state = .IN_PROGRESS) = False := by
      decide
    unfold start_new
    simp only [hvalid, hidle, if_false]
    rw [hpersist]
    rfl
  have hstate : (parse_session_root
      (new_session "/sessions" nulPlan {} sampleNow).session_document).toOption.map (·.state) =
      some .IN_PROGRESS := by decide +kernel
  have hids : ((parse_session_root
      (new_session "/sessions" nulPlan {} sampleNow).session_document).toOption.bind
      (match_plan ·.tests repeatedPlan)).map (·.map (·.id)) = some ["key", "key"] := by
    decide +kernel
  cases hloaded : parse_session_root
      (new_session "/sessions" nulPlan {} sampleNow).session_document with
  | error error =>
    rw [hloaded] at hstate
    cases hstate
  | ok loaded =>
    rw [hloaded] at hstate hids
    obtain ⟨tests, hmatch, htests⟩ := Option.map_eq_some_iff.1 hids
    have hlatest : latest_session repeatedListing =
        some "factorytest-20261118-093000-000.session.json" := by decide
    have hpath : path_join "/sessions" "factorytest-20261118-093000-000.session.json" =
        (new_session "/sessions" nulPlan {} sampleNow).session_path := by decide +kernel
    have hrecovered := tests_of_document hlossless hnamed (fun _ => none) hloaded
      (Option.some.inj hstate) hmatch hlatest hpath
    have hconsistent := (hclaim JsonText.jsonText "/sessions" repeatedSteps hlossless (by decide)
      repeatedSteps [] (List.append_nil _).symm).1.ids
    rw [repeatedSteps, run_recover, hstart, reset, hrecovered, htests] at hconsistent
    exact absurd hconsistent (by decide)

end FactoryTest.Session

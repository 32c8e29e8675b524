import FactoryTest.Session.Consistency

/-!
# Verdicts in the order of the plan

As long as every verdict goes to the first test without one, or to a test before it, the tests
with a verdict are the first of their session (`InOrder`). The other operations keep that, and
so do writing the session and reading it back (`Ordered`).
-/

namespace FactoryTest.Session

/-! ## The tests with a verdict -/

/-- The tests with a verdict are the first ones. -/
def InOrder (tests : List TestRecord) : Prop :=
  ∃ n, ∀ (i : ℕ) (t : TestRecord), tests[i]? = some t → (t.completed = true ↔ i < n)

section

variable {tests tests' : List TestRecord} {test_id : String} {f : TestRecord → TestRecord}

theorem next_incomplete_index_eq {n : ℕ} (hn : n ≤ tests.length)
    (h : ∀ (i : ℕ) (t : TestRecord), tests[i]? = some t → (t.completed = true ↔ i < n)) :
    next_incomplete_index tests = n := by
  have hcompleted (i : ℕ) (hi : i < tests.length) : tests[i].completed = true ↔ i < n :=
    h i _ (List.getElem?_eq_getElem hi)
  unfold next_incomplete_index
  rcases hn.lt_or_eq with hlt | rfl
  · refine (List.findIdx_eq hlt).2 ⟨?_, fun i hi => ?_⟩
    · simpa using (hcompleted n hlt).not.2 (lt_irrefl n)
    · simpa using (hcompleted i (hi.trans hlt)).2 hi
  · refine List.findIdx_eq_length.2 fun t ht => ?_
    obtain ⟨i, hi, rfl⟩ := List.getElem_of_mem ht
    simpa using (hcompleted i hi).2 hi

theorem next_incomplete_index_le : next_incomplete_index tests ≤ tests.length :=
  List.findIdx_le_length

/-- In order, a test has a verdict iff it stands before the first one without. -/
theorem InOrder.completed_iff (h : InOrder tests) {i : ℕ} {t : TestRecord}
    (ht : tests[i]? = some t) : t.completed = true ↔ i < next_incomplete_index tests := by
  obtain ⟨n, hn⟩ := h
  have hmin : next_incomplete_index tests = min n tests.length := by
    refine next_incomplete_index_eq (min_le_right _ _) fun i t ht => ?_
    have hi := (List.getElem?_eq_some_iff.1 ht).1
    rw [hn i t ht, lt_min_iff, and_iff_left hi]
  have hi := (List.getElem?_eq_some_iff.1 ht).1
  rw [hn i t ht, hmin, lt_min_iff, and_iff_left hi]

/-- Both depend on which tests have a verdict, and on nothing else. -/
theorem InOrder.congr (h : InOrder tests)
    (hmap : tests'.map (·.completed) = tests.map (·.completed)) : InOrder tests' := by
  obtain ⟨n, hn⟩ := h
  refine ⟨n, fun i t ht => ?_⟩
  have hflag : (tests.map (·.completed))[i]? = some t.completed := by
    rw [← hmap, List.getElem?_map, ht]
    rfl
  rw [List.getElem?_map] at hflag
  obtain ⟨d, hd, hcompleted⟩ := Option.map_eq_some_iff.1 hflag
  rw [← hcompleted]
  exact hn i d hd

theorem next_incomplete_index_congr (hmap : tests'.map (·.completed) = tests.map (·.completed)) :
    next_incomplete_index tests' = next_incomplete_index tests := by
  have hflags (tests : List TestRecord) :
      next_incomplete_index tests = (tests.map (·.completed)).findIdx (!·) := by
    rw [List.findIdx_map]
    rfl
  rw [hflags, hflags, hmap]

/-- With distinct ids, the record that `find_test` finds is the one at its place. -/
theorem modify_test_eq_modify (hids : (tests.map (·.id)).Nodup) {i : ℕ} {t : TestRecord}
    (ht : tests[i]? = some t) : modify_test t.id f tests = tests.modify i f := by
  induction tests generalizing i with
  | nil => cases ht
  | cons d tests ih =>
    obtain ⟨hfresh, hids⟩ := List.nodup_cons.1 hids
    cases i with
    | zero =>
      cases ht
      rw [modify_test_cons, if_pos rfl]
      rfl
    | succ i =>
      have htail : tests[i]? = some t := ht
      have hne : d.id ≠ t.id := fun heq =>
        hfresh (List.mem_map.2 ⟨t, List.mem_of_getElem? htail, heq.symm⟩)
      rw [modify_test_cons, if_neg hne, ih hids htail]
      rfl

/-- With distinct ids, a record is found by its id. -/
theorem find_test_of_mem (hids : (tests.map (·.id)).Nodup) {t : TestRecord} (ht : t ∈ tests) :
    find_test tests t.id = some t := by
  have hsome := isSome_find_test.2 (List.mem_map_of_mem (f := (·.id)) ht)
  obtain ⟨d, hd⟩ := Option.isSome_iff_exists.1 hsome
  rwa [List.inj_on_of_nodup_map hids (mem_of_find_test hd) ht (find_test_id hd)] at hd

/-- A verdict on the first test without one, or on one before it, keeps the order. -/
theorem InOrder.modify_mark_completed (h : InOrder tests) (hids : (tests.map (·.id)).Nodup) {i : ℕ}
    {t : TestRecord} (ht : tests[i]? = some t) (hi : i ≤ next_incomplete_index tests)
    (result : TestResult) (details : List NamedTestResult) (now : String) :
    InOrder (modify_test t.id (mark_completed result details now) tests) ∧
      next_incomplete_index (modify_test t.id (mark_completed result details now) tests) =
        max (next_incomplete_index tests) (i + 1) := by
  rw [modify_test_eq_modify hids ht]
  have hcompleted : ∀ j d, (tests.modify i (mark_completed result details now))[j]? = some d →
      (d.completed = true ↔ j < max (next_incomplete_index tests) (i + 1)) := by
    intro j d hd
    rw [List.getElem?_modify] at hd
    obtain ⟨e, he, rfl⟩ := Option.map_eq_some_iff.1 hd
    by_cases hij : i = j
    · subst hij
      simp [mark_completed]
    · rw [if_neg hij, h.completed_iff he]
      omega
  refine ⟨⟨_, hcompleted⟩, next_incomplete_index_eq ?_ hcompleted⟩
  have hlength := (List.getElem?_eq_some_iff.1 ht).1
  rw [List.length_modify]
  exact max_le next_incomplete_index_le hlength

end

/-! ## Sessions -/

/-- While the session is in progress, its verdicts are in order. -/
def SessionManager.InOrder (m : SessionManager) : Prop :=
  m.state = .IN_PROGRESS → Session.InOrder m.tests

/-- The session is one of the plan with its verdicts in order, and every session file was
written by a session with its verdicts in order. -/
structure Ordered (cJSON : CJsonLibrary) (plan : List TestDefinition) (w : World) : Prop where
  proper : Proper cJSON w
  plan : w.manager.state ≠ .NONE → w.manager.tests.map TestRecord.definition = plan
  in_order : w.manager.InOrder
  written : ∀ path text, w.disk path = some text → has_suffix path K_SESSION_SUFFIX = true →
    ∃ m : SessionManager, m.Named ∧ m.session_path = path ∧ session_text cJSON m = some text ∧
      m.InOrder

theorem map_completed_begin {test_id now : String} {tests : List TestRecord} :
    (modify_test test_id (begin_attempt now) tests).map (·.completed) =
      tests.map (·.completed) := map_modify_test fun _ => rfl

theorem map_completed_add {test_id now : String} {evidence : TestEvidence}
    {tests : List TestRecord} :
    (modify_test test_id (add_evidence now evidence) tests).map (·.completed) =
      tests.map (·.completed) := map_modify_test fun _ => result_add_evidence.2

theorem inOrder_new_session {directory : String} {plan : List TestDefinition}
    {metadata : SessionMetadata} {now : TimePoint} :
    (new_session directory plan metadata now).InOrder := by
  intro _
  refine ⟨0, fun i t ht => ?_⟩
  have hmem := List.mem_of_getElem? ht
  obtain ⟨test, -, rfl⟩ := List.mem_map.1 hmem
  simp

theorem map_completed_readAs {tests tests' : List TestRecord}
    (h : List.Forall₂ ReadAs tests tests') :
    tests'.map (·.completed) = tests.map (·.completed) := by
  induction h with
  | nil => rfl
  | cons hfirst _ ih => rw [List.map_cons, List.map_cons, ih, hfirst.completed]

/-- What is read from the file of a session has the verdicts that were written. -/
theorem completed_of_load_text {cJSON : CJsonLibrary} (hcJSON : cJSON.Lossless)
    {m m' : SessionManager} {text : String} {plan : List TestDefinition} (hm : m.Named)
    (htext : session_text cJSON m = some text)
    (hload : load_text cJSON m.session_path text plan = some m') :
    m.state = .IN_PROGRESS ∧ m'.tests.map (·.completed) = m.tests.map (·.completed) := by
  obtain ⟨output, hprint, hparse⟩ := hcJSON _ (printable_session_document hm.evidence)
  obtain rfl : output ++ "\n" = text := by
    rw [session_text, print_json, hprint] at htext
    exact Option.some.inj htext
  unfold load_text at hload
  rw [parse_session_document, hparse] at hload
  split_ifs at hload
  dsimp only at hload
  split at hload
  case h_1 => cases hload
  case h_2 loaded hloaded =>
    obtain ⟨htests, -, hstate⟩ := parse_session_document_tests hloaded
    by_cases hprogress : loaded.state = .IN_PROGRESS
    swap
    · rw [if_pos hprogress] at hload
      cases hload
    rw [if_neg (not_not.2 hprogress)] at hload
    split at hload
    case h_1 => cases hload
    case h_2 tests hmatch =>
      have hread := forall₂_readAs htests hmatch
      cases hload
      exact ⟨hstate ▸ hprogress, map_completed_readAs hread⟩

/-- The file of a session with its verdicts in order holds them in order. -/
theorem Ordered.in_order_of_load {cJSON : CJsonLibrary} (hcJSON : cJSON.Lossless)
    {plan plan' : List TestDefinition} {w : World} (h : Ordered cJSON plan w) {path : String}
    (hsuffix : has_suffix path K_SESSION_SUFFIX = true) {m' : SessionManager}
    (hload : load_text cJSON path (read_text_file w.disk path) plan' = some m') :
    Session.InOrder m'.tests := by
  cases hdisk : w.disk path with
  | none =>
    rw [read_text_file, hdisk] at hload
    cases hload
  | some text =>
    obtain ⟨m, hm, rfl, htext, hin⟩ := h.written path text hdisk hsuffix
    rw [read_text_file, hdisk] at hload
    obtain ⟨hstate, hcompleted⟩ := completed_of_load_text hcJSON hm htext hload
    exact (hin hstate).congr hcompleted

section

variable {cJSON : CJsonLibrary} {plan : List TestDefinition} {directory : String} {w : World}
  {r : World × Bool} {m : SessionManager} {write : WriteAnswer} {test_id : String} {a : Answers}

theorem Ordered.unchanged (h : Ordered cJSON plan w) (hr : Unchanged w r) :
    Ordered cJSON plan r.1 := by
  have htests := hr.2.1.tests
  have hstate := hr.2.1.state
  refine ⟨hr.moves.preserves (fun _ _ => Proper.move) h.proper, ?_, ?_, ?_⟩
  · rw [hstate, htests]
    exact h.plan
  · unfold SessionManager.InOrder
    rw [hstate, htests]
    exact h.in_order
  · rw [hr.2.2]
    exact h.written

/-- A session of the plan with its verdicts in order is written. -/
theorem Ordered.keep (h : Ordered cJSON plan w) (hm : m.Named)
    (hplan : m.tests.map TestRecord.definition = plan) (hin : m.InOrder)
    (htext : (session_text cJSON m).isSome) : Ordered cJSON plan (stored cJSON w.disk m) where
  proper := h.proper.store hm htext
  plan := fun _ => hplan
  in_order := hin
  written := by
    intro path text hpath hsuffix
    by_cases heq : path = m.session_path
    · subst heq
      exact ⟨m, hm, rfl, (stored_disk_self cJSON w.disk m).symm.trans hpath, hin⟩
    · exact h.written path text ((stored_disk_of_ne cJSON heq w.disk).symm.trans hpath) hsuffix

theorem Ordered.change (h : Ordered cJSON plan w) (hchange : Change w.manager m)
    (hin : m.InOrder) (htext : (session_text cJSON m).isSome) :
    Ordered cJSON plan (stored cJSON w.disk m) := by
  have hstate := hchange.state_ne_none.1
  exact h.keep ((h.proper.named hstate).change hchange) (hchange.plan.trans (h.plan hstate)) hin
    htext

theorem Ordered.store (h : Ordered cJSON plan w) (hchange : Change w.manager m) (hin : m.InOrder)
    (hr : Stored cJSON w m write r) : Ordered cJSON plan r.1 := by
  rw [hr.2]
  exact h.change hchange hin hr.1.2.2

theorem Ordered.reset (h : Ordered cJSON plan w) : Ordered cJSON plan (reset w) :=
  ⟨h.proper.relaunch, fun hstate => absurd rfl hstate, fun hstate => (by cases hstate), h.written⟩

theorem Ordered.with_result (h : Ordered cJSON plan w) (hfinished : w.manager.finished)
    (now : TimePoint) : Ordered cJSON plan (with_result cJSON w now) where
  proper := h.proper.move (.result now hfinished)
  plan := h.plan
  in_order := h.in_order
  written := by
    intro path text hpath hsuffix
    have hnamed : w.manager.Named := h.proper.named fun hstate => by
      simpa [SessionManager.active, hstate] using hfinished.1
    have hne : path ≠ w.manager.result_path := by
      rintro rfl
      rw [hnamed.result, not_session_of_result (has_suffix_result_path _)] at hsuffix
      cases hsuffix
    exact h.written path text ((with_result_disk_of_ne hne).symm.trans hpath) hsuffix

/-- A change of the session fails to be written only if the file cannot be replaced. -/
theorem Ordered.persists (hcJSON : cJSON.Lossless) (h : Ordered cJSON plan w)
    (hchange : Change w.manager m) (hwrite : write = .written) : Persists cJSON m write := by
  subst hwrite
  exact persists_of_named hcJSON ((h.proper.named hchange.state_ne_none.1).change hchange)

/-! ## Operations -/

theorem Ordered.set_current_test (h : Ordered cJSON plan w) :
    Ordered cJSON plan (set_current_test cJSON w test_id a).1 ∧
      (set_current_test cJSON w test_id a).1.manager.state = w.manager.state ∧
      (set_current_test cJSON w test_id a).1.manager.tests = w.manager.tests := by
  rcases @set_current_test_spec cJSON w test_id a with hr | hr | ⟨hactive, hfind, hr⟩
  · rw [hr]
    exact ⟨h, rfl, rfl⟩
  · exact ⟨h.unchanged hr, hr.2.1.state, hr.2.1.tests⟩
  · refine ⟨h.store (.set_current_test test_id a.now hactive hfind) h.in_order hr, ?_⟩
    rw [hr.2]
    exact ⟨rfl, rfl⟩

/-- What an operation leaves that changes at most the record of a test. -/
structure Changes (w : World) (test_id : String) (f : TestRecord → TestRecord) (r : World × Bool) :
    Prop where
  active : r.2 = true → w.manager.state = .IN_PROGRESS
  state : r.1.manager.state = w.manager.state
  tests : r.1.manager.tests =
    if r.2 then modify_test test_id f w.manager.tests else w.manager.tests

theorem Unchanged.changes (hr : Unchanged w r) {f : TestRecord → TestRecord} :
    Changes w test_id f r := by
  refine ⟨fun htrue => (by cases hr.1.symm.trans htrue), hr.2.1.state, ?_⟩
  rw [hr.1]
  exact hr.2.1.tests

theorem Ordered.begin_test (h : Ordered cJSON plan w) :
    Ordered cJSON plan (begin_test cJSON w test_id a).1 ∧
      Changes w test_id (begin_attempt (iso_timestamp a.now)) (begin_test cJSON w test_id a) := by
  rcases @begin_test_spec cJSON w test_id a with hr | ⟨test, hactive, hfind, hcompleted, hr⟩
  · exact ⟨h.unchanged hr, hr.changes⟩
  · have hchange := Change.begin_test test_id a.now test hactive hfind hcompleted
    refine ⟨h.store hchange (fun hstate => ?_) hr, ?_⟩
    · exact (h.in_order hstate).congr map_completed_begin
    · rw [hr.2]
      exact ⟨fun _ => of_decide_eq_true hactive, rfl, rfl⟩

theorem Ordered.record_evidence (h : Ordered cJSON plan w) {evidence : TestEvidence} :
    Ordered cJSON plan (record_evidence cJSON w test_id evidence a).1 ∧
      Changes w test_id (add_evidence (iso_timestamp a.now) evidence)
        (record_evidence cJSON w test_id evidence a) := by
  rcases @record_evidence_spec cJSON w test_id a evidence with
    hr | ⟨test, hactive, hfind, hcompleted, hvalid, hr⟩
  · exact ⟨h.unchanged hr, hr.changes⟩
  · have hchange := Change.record_evidence test_id evidence a.now
      (if test.attempted then a.now else a.now_next) test hactive hfind hcompleted hvalid
    refine ⟨h.store hchange (fun hstate => ?_) hr, ?_⟩
    · exact (h.in_order hstate).congr map_completed_add
    · rw [hr.2]
      exact ⟨fun _ => of_decide_eq_true hactive, rfl, rfl⟩

theorem Ordered.finalize (h : Ordered cJSON plan w) {now : TimePoint}
    {write_result : WriteAnswer} :
    Ordered cJSON plan (finalize cJSON w now write_result write).1 ∧
      (finalize cJSON w now write_result write).1.manager.tests = w.manager.tests ∧
      (finalize cJSON w now write_result write).1.manager.state =
        if (finalize cJSON w now write_result write).2 then .COMPLETED else w.manager.state := by
  rcases @finalize_spec cJSON w now write write_result with
    ⟨hstate, hr⟩ | ⟨hr, -⟩ | ⟨hfinished, -, ⟨-, hr⟩ | hr⟩
  · rw [hr]
    exact ⟨h, rfl, hstate⟩
  · refine ⟨h.unchanged hr, hr.2.1.tests, ?_⟩
    rw [hr.1]
    exact hr.2.1.state
  · refine ⟨(h.with_result hfinished now).unchanged hr, hr.2.1.tests, ?_⟩
    rw [hr.1]
    exact hr.2.1.state
  · refine ⟨(h.with_result hfinished now).store (.finalize now hfinished)
      (fun hstate => by cases hstate) hr, ?_⟩
    rw [hr.2]
    exact ⟨rfl, rfl⟩

/-- There are no verdicts outside a session that is in progress. -/
theorem unchanged_complete_test (hstate : w.manager.state ≠ .IN_PROGRESS) {result : TestResult}
    {details : List NamedTestResult} :
    Unchanged w (complete_test cJSON w test_id result details a) := by
  rcases @complete_test_spec cJSON w test_id a result details with
    ⟨hr, -⟩ | ⟨test, m, htest, -, -, -⟩
  · exact hr
  · exact absurd (of_decide_eq_true (active_test_eq_some htest).1) hstate

/-- A verdict on the first test without one, or on one before it: it is not stored; or it is,
and the session goes on, is completed, or could not be completed. -/
theorem Ordered.complete_test (hcJSON : cJSON.Lossless) (h : Ordered cJSON plan w)
    (hplan : (plan.map (·.id)).Nodup) {result : TestResult} {details : List NamedTestResult}
    {i : ℕ} {t : TestRecord} (ht : w.manager.tests[i]? = some t)
    (hi : i ≤ next_incomplete_index w.manager.tests) :
    Ordered cJSON plan (complete_test cJSON w t.id result details a).1 ∧
      (Unchanged w (complete_test cJSON w t.id result details a) ∧
          ¬ (w.manager.state = .IN_PROGRESS ∧ a.write = .written) ∨
        w.manager.state = .IN_PROGRESS ∧ a.write = .written ∧
        (complete_test cJSON w t.id result details a).1.manager.tests =
          modify_test t.id (mark_completed result details (iso_timestamp a.now))
            w.manager.tests ∧
        next_incomplete_index (complete_test cJSON w t.id result details a).1.manager.tests =
          max (next_incomplete_index w.manager.tests) (i + 1) ∧
        ((complete_test cJSON w t.id result details a).2 = true ∧
            (complete_test cJSON w t.id result details a).1.manager.state = .IN_PROGRESS ∧
            max (next_incomplete_index w.manager.tests) (i + 1) < w.manager.tests.length ∨
          (complete_test cJSON w t.id result details a).1.manager.state =
              (if (complete_test cJSON w t.id result details a).2 then .COMPLETED
                else .IN_PROGRESS) ∧
            max (next_incomplete_index w.manager.tests) (i + 1) = w.manager.tests.length)) := by
  have hids (hstate : w.manager.state = .IN_PROGRESS) : (w.manager.tests.map (·.id)).Nodup := by
    have hdefinitions := h.plan (by rw [hstate]; exact SessionState.noConfusion)
    rw [SessionManager.ext_ids hdefinitions]
    exact hplan
  rcases @complete_test_spec cJSON w t.id a result details with
    ⟨hr, hnot⟩ | ⟨test, m, htest, rfl, hpersists, hr⟩
  · refine ⟨h.unchanged hr, .inl ⟨hr, fun ⟨hstate, hwrite⟩ => ?_⟩⟩
    have hfind := find_test_of_mem (hids hstate) (List.mem_of_getElem? ht)
    have hactive : w.manager.active = true := decide_eq_true hstate
    have hchange := Change.complete_test t.id result details a.now t hactive hfind
    exact hnot t ((if_pos hactive).trans hfind) (h.persists hcJSON hchange hwrite)
  obtain ⟨hactive, hfind⟩ := active_test_eq_some htest
  have hstate : w.manager.state = .IN_PROGRESS := of_decide_eq_true hactive
  replace hids := hids hstate
  obtain ⟨hin, hnext⟩ :=
    (h.in_order hstate).modify_mark_completed hids ht hi result details (iso_timestamp a.now)
  have hlength : (modify_test t.id (mark_completed result details (iso_timestamp a.now))
      w.manager.tests).length = w.manager.tests.length := by
    rw [modify_test_eq_modify hids ht, List.length_modify]
  have hstored := h.change (.complete_test t.id result details a.now test hactive hfind)
    (fun _ => hin) hpersists.2.2
  have hfinished : (w.manager.with_verdict t.id result details a.now).finished ↔
      w.manager.tests.length ≤ max (next_incomplete_index w.manager.tests) (i + 1) := by
    unfold SessionManager.finished
    show w.manager.active = true ∧ List.length (modify_test t.id _ w.manager.tests) ≤
      next_incomplete_index (modify_test t.id _ w.manager.tests) ↔ _
    rw [hnext, hlength, and_iff_right hactive]
  rcases hr with ⟨hnot, hr⟩ | ⟨hyes, hr⟩
  · rw [hfinished, not_le] at hnot
    rw [hr]
    exact ⟨hstored, .inr ⟨hstate, hpersists.1, rfl, hnext, .inl ⟨rfl, hstate, hnot⟩⟩⟩
  · have hlast : max (next_incomplete_index w.manager.tests) (i + 1) = w.manager.tests.length :=
      le_antisymm (max_le next_incomplete_index_le (List.getElem?_eq_some_iff.1 ht).1)
        (hfinished.1 hyes)
    obtain ⟨hordered, htests, hstate'⟩ :=
      @Ordered.finalize _ _ _ a.write_next hstored a.now_next a.write_result
    rw [hr]
    refine ⟨hordered, .inr ⟨hstate, hpersists.1, htests, (congrArg _ htests).trans hnext,
      .inr ⟨?_, hlast⟩⟩⟩
    rw [hstate']
    exact congrArg _ hstate

theorem Ordered.start_new (hdirectory : NulFree directory) (h : Ordered cJSON plan w)
    (metadata : SessionMetadata) (a : Answers) :
    Ordered cJSON plan (start_new cJSON directory w plan metadata a).1 ∧
      ((start_new cJSON directory w plan metadata a).2 = true →
        (start_new cJSON directory w plan metadata a).1.manager.state = .IN_PROGRESS ∧
        next_incomplete_index (start_new cJSON directory w plan metadata a).1.manager.tests = 0) ∧
      ((start_new cJSON directory w plan metadata a).2 = false →
        Unchanged w (start_new cJSON directory w plan metadata a) ∨
        (start_new cJSON directory w plan metadata a).1.manager.state = .NONE) := by
  rcases @start_new_spec cJSON w a directory plan metadata with
    hr | ⟨disk, now, write, hdisk, hr⟩
  · refine ⟨h.unchanged hr, fun htrue => ?_, fun _ => .inl hr⟩
    cases hr.1.symm.trans htrue
  have hleft : Ordered cJSON plan ⟨{}, disk⟩ := by
    rcases hdisk with rfl | ⟨hstate, hpersists, rfl⟩
    · exact h.reset
    · exact (h.change (.abandon a.now hstate) (fun hstate => by cases hstate)
        hpersists.2.2).reset
  rcases hr with ⟨message, hr⟩ | ⟨hne, hvalid, hpersists, hr⟩
  · rw [hr]
    refine ⟨⟨⟨fun hstate => absurd rfl hstate, .inl rfl, hleft.proper.written⟩,
      fun hstate => absurd rfl hstate, fun hstate => (by cases hstate), hleft.written⟩,
      fun htrue => (by cases htrue), fun _ => .inr rfl⟩
  · rw [hr]
    refine ⟨hleft.keep (named_new_session hdirectory plan metadata now)
      (@inPlan_new_session directory plan metadata now).plan inOrder_new_session hpersists.2.2,
      fun _ => ⟨rfl, ?_⟩, fun hfalse => by cases hfalse⟩
    refine next_incomplete_index_eq (Nat.zero_le _) fun i t ht => ?_
    obtain ⟨test, -, rfl⟩ := List.mem_map.1 (List.mem_of_getElem? ht)
    simp

theorem Ordered.load (hcJSON : cJSON.Lossless) (h : Ordered cJSON plan w) {listing : Listing} :
    Ordered cJSON plan (load_latest_recoverable cJSON directory w plan listing).1 ∧
      (load_latest_recoverable cJSON directory w plan listing).1.manager.state =
        (if (load_latest_recoverable cJSON directory w plan listing).2 then .IN_PROGRESS
          else .NONE) := by
  have hproper : Proper cJSON (load_latest_recoverable cJSON directory w plan listing).1 :=
    h.proper.load hcJSON plan listing
  rcases @load_latest_recoverable_spec cJSON w directory plan listing with
    hr | ⟨filename, m', hfilename, hload, hr⟩
  · rw [hr]
    exact ⟨h.reset, rfl⟩
  · obtain ⟨hstate, hplan⟩ := load_text_plan hload
    rw [hr] at hproper ⊢
    refine ⟨⟨hproper, fun _ => hplan, fun _ => ?_, h.written⟩, hstate⟩
    exact h.in_order_of_load hcJSON
      (has_suffix_path_join directory (latest_session_session hfilename)) hload

/-! ## Operations that go through -/

theorem set_current_test_written (hcJSON : cJSON.Lossless) (h : Ordered cJSON plan w)
    (hactive : w.manager.active = true) (hfind : (find_test w.manager.tests test_id).isSome)
    (hwrite : a.write = .written) : (set_current_test cJSON w test_id a).2 = true := by
  have hpersists := h.persists hcJSON (.set_current_test test_id a.now hactive hfind) hwrite
  unfold set_current_test
  dsimp only
  rw [if_neg (by simp [hactive, Option.isSome_iff_ne_none.1 hfind])]
  split_ifs
  · rfl
  · rw [persist_or_restore_true (iso_timestamp_ne_empty a.now) hpersists]

theorem begin_test_iff (hcJSON : cJSON.Lossless) (h : Ordered cJSON plan w) :
    (begin_test cJSON w test_id a).2 = true ↔
      ∃ t, active_test w.manager test_id = some t ∧ t.completed = false ∧ a.write = .written := by
  constructor
  · intro hok
    rcases @begin_test_spec cJSON w test_id a with hr | ⟨t, hactive, hfind, hcompleted, hr⟩
    · cases hr.1.symm.trans hok
    · exact ⟨t, (if_pos hactive).trans hfind, hcompleted, hr.1.1⟩
  · rintro ⟨t, ht, hcompleted, hwrite⟩
    obtain ⟨hactive, hfind⟩ := active_test_eq_some ht
    have hchange := Change.begin_test test_id a.now t hactive hfind hcompleted
    rw [begin_test_stored ht hcompleted (h.persists hcJSON hchange hwrite)]

/-- Evidence that a record takes. -/
def Takes (evidence : TestEvidence) (t : TestRecord) : Prop :=
  t.completed = false ∧ evidence.entries ≠ [] ∧ evidence.entries.all valid_evidence = true

theorem record_evidence_iff (hcJSON : cJSON.Lossless) (h : Ordered cJSON plan w)
    {evidence : TestEvidence} :
    (record_evidence cJSON w test_id evidence a).2 = true ↔
      ∃ t, active_test w.manager test_id = some t ∧ Takes evidence t ∧ a.write = .written := by
  constructor
  · intro hok
    rcases @record_evidence_spec cJSON w test_id a evidence with
      hr | ⟨t, hactive, hfind, hcompleted, hvalid, hr⟩
    · cases hr.1.symm.trans hok
    · have ht : active_test w.manager test_id = some t := (if_pos hactive).trans hfind
      refine ⟨t, ht, ⟨hcompleted, fun hnil => ?_, hvalid⟩, hr.1.1⟩
      unfold record_evidence at hok
      simp [ht, hnil] at hok
  · rintro ⟨t, ht, ⟨hcompleted, hne, hvalid⟩, hwrite⟩
    obtain ⟨hactive, hfind⟩ := active_test_eq_some ht
    have hpersists := h.persists hcJSON (.record_evidence test_id evidence a.now
      (if t.attempted then a.now else a.now_next) t hactive hfind hcompleted hvalid) hwrite
    unfold record_evidence
    simp only [ht, hcompleted, hvalid, List.isEmpty_eq_false_iff.2 hne, Bool.or_false,
      Bool.not_true, Bool.false_eq_true, if_false]
    exact congrArg Prod.snd (persist_or_restore_true (iso_timestamp_ne_empty _) hpersists)

theorem finalize_written (hcJSON : cJSON.Lossless) (h : Ordered cJSON plan w) {now : TimePoint}
    {write_result : WriteAnswer} (hfinished : w.manager.finished)
    (hresult : WritesResult cJSON (w.manager.finalized now) write_result)
    (hwrite : write = .written) : (finalize cJSON w now write_result write).2 = true := by
  rcases @finalize_spec cJSON w now write write_result with
    ⟨-, hr⟩ | ⟨-, hnot⟩ | ⟨-, -, ⟨hnot, -⟩ | hr⟩
  · rw [hr]
  · exact absurd ⟨hfinished, hresult⟩ hnot
  · exact absurd (h.persists hcJSON (.finalize now hfinished) hwrite) hnot
  · rw [hr.2]

theorem abandon_written (hcJSON : cJSON.Lossless) (h : Ordered cJSON plan w)
    (hstate : w.manager.state = .IN_PROGRESS) (hwrite : a.write = .written) :
    abandon cJSON w a = (stored cJSON w.disk (w.manager.abandoned a.now), true) := by
  unfold abandon
  dsimp only
  rw [if_neg (not_not.2 hstate)]
  exact persist_or_restore_true (iso_timestamp_ne_empty a.now)
    (h.persists hcJSON (.abandon a.now hstate) hwrite)

theorem start_new_written (hcJSON : cJSON.Lossless) (hdirectory : NulFree directory)
    (h : Ordered cJSON plan w) (hne : plan ≠ []) (hvalid : valid_plan plan [] = true)
    (metadata : SessionMetadata) (hwrite : a.write = .written)
    (hnext : a.write_next = .written) : (start_new cJSON directory w plan metadata a).2 = true := by
  have hpersist (disk : Disk) (now : TimePoint) : persist cJSON
      ⟨new_session directory plan metadata now, disk⟩ now .written =
        (stored cJSON disk (new_session directory plan metadata now), true) :=
    persist_true (iso_timestamp_ne_empty now)
      (persists_of_named hcJSON (named_new_session hdirectory plan metadata now))
  unfold start_new
  dsimp only
  rw [if_neg (by simpa using hne), if_neg (by simp [hvalid])]
  by_cases hstate : w.manager.state = .IN_PROGRESS
  · have hclear : Ordered cJSON plan { w with manager := { w.manager with last_error := "" } } :=
      @Ordered.unchanged cJSON plan w ({ w with manager := { w.manager with last_error := "" } },
        false) h ⟨rfl, rfl, rfl⟩
    simp only [if_pos hstate, abandon_written hcJSON hclear hstate hwrite, hnext]
    rw [stored, hpersist]
  · simp only [if_neg hstate, hwrite, hpersist]

end

end FactoryTest.Session

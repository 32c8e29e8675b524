import FactoryTest.Session.Atomicity

/-!
# Three views of a verdict

What a session says of the device is shown from `summary`, saved by `build_result_json` and sent
by `build_upload_result_json`, and each makes its own way through the records.

**Theorem (`views_agree`).** In every completed session that the manager can reach, whatever
files are on the disk, all of them say that the device passed, or none does (`ViewsAgree`). Both
documents have the tests of the plan, each under its id, and a session that is not completed
has nothing to upload.

On any list of records the three agree (`passed_iff`). That a completed session has the
documents at all is an invariant (`Inv`): `finalize` completes a session only after it has
written its result.
-/

namespace FactoryTest.Session

/-! ## Reading the documents -/

/-- The members of an object that is a member of another one. -/
def members_at (object : CJson) (key : String) : List (String × CJson) :=
  match object.GetObjectItemCaseSensitive key with
  | some (.object members) => members
  | _ => []

/-- The tests of a result document. -/
def result_entries (document : CJson) : List (String × CJson) :=
  members_at (.object (members_at document "test_details")) "tests"

/-- The tests of an upload document. -/
def upload_entries (document : CJson) : List (String × CJson) := members_at document "test_details"

/-- The views of a session say that the device passed, or none does. -/
structure ViewsAgree (m : SessionManager) : Prop where
  upload : json_string m.result_document "status" = some "PASS" ↔
    json_string m.upload_document "status" = some "PASS"
  booleans : json_string m.result_document "status" = some "PASS" ↔
    ∀ entry ∈ upload_entries m.upload_document, entry.2 = .bool true
  results : json_string m.result_document "status" = some "PASS" ↔
    ∀ entry ∈ result_entries m.result_document, json_string entry.2 "result" = some "PASS"
  summary : json_string m.result_document "status" = some "PASS" ↔
    (summary m.state m.tests).failed = 0 ∧
      (summary m.state m.tests).completed = (summary m.state m.tests).total

/-- Both documents have the tests of the plan, in its order. -/
structure HasPlan (m : SessionManager) (plan : List TestDefinition) : Prop where
  result : (result_entries m.result_document).map Prod.fst = plan.map (c_str ·.id)
  upload : (upload_entries m.upload_document).map Prod.fst = plan.map (c_str ·.id)

section Documents

variable {m : SessionManager}

theorem result_entries_eq : result_entries m.result_document = m.tests.map result_test_member := rfl

theorem upload_entries_eq : upload_entries m.upload_document = m.tests.map upload_test_member := rfl

/-- The counters of `summary` say that every record has passed. -/
theorem passed_iff {state : SessionState} {tests : List TestRecord} :
    (summary state tests).completed = (summary state tests).total ∧
        (summary state tests).failed = 0 ↔
      ∀ t ∈ tests, t.completed = true ∧ t.result = .PASS := by
  simp only [summary, List.countP_eq_length, List.countP_eq_zero]
  constructor
  · rintro ⟨hcompleted, hfailed⟩ t ht
    refine ⟨hcompleted t ht, ?_⟩
    by_contra hresult
    exact hfailed t ht (by simp [hcompleted t ht, hresult])
  · intro hpassed
    refine ⟨fun t ht => (hpassed t ht).1, fun t ht => ?_⟩
    simp [hpassed t ht]

theorem status_iff {passed : Prop} [Decidable passed] :
    some (c_str (if passed then "PASS" else "FAIL")) = some "PASS" ↔ passed := by
  by_cases h : passed
  · simp only [h, iff_true]
    decide
  · simp only [h, iff_false]
    decide

theorem result_status_iff : json_string m.result_document "status" = some "PASS" ↔
    ∀ t ∈ m.tests, t.completed = true ∧ t.result = .PASS :=
  status_iff.trans passed_iff

theorem upload_status_iff : json_string m.upload_document "status" = some "PASS" ↔
    ∀ t ∈ m.tests, t.completed = true ∧ t.result = .PASS :=
  status_iff.trans passed_iff

/-- A record is shown as passed in the result document. -/
theorem result_entry_iff {t : TestRecord} :
    json_string (result_test_member t).2 "result" = some "PASS" ↔
      t.completed = true ∧ t.result = .PASS := by
  have hmember : json_string (result_test_member t).2 "result" =
      some (c_str (if t.completed then test_result_text t.result else "FAIL")) := rfl
  rw [hmember]
  cases t.completed <;> cases t.result <;> decide

/-- A record is sent as passed. -/
theorem upload_entry_iff {t : TestRecord} :
    (upload_test_member t).2 = .bool true ↔ t.completed = true ∧ t.result = .PASS := by
  simp [upload_test_member]

/-- The views agree on any records. -/
theorem viewsAgree : ViewsAgree m where
  upload := result_status_iff.trans upload_status_iff.symm
  booleans := by
    rw [result_status_iff, upload_entries_eq, List.forall_mem_map]
    exact forall₂_congr fun _ _ => upload_entry_iff.symm
  results := by
    rw [result_status_iff, result_entries_eq, List.forall_mem_map]
    exact forall₂_congr fun _ _ => result_entry_iff.symm
  summary := by
    rw [result_status_iff, and_comm]
    exact passed_iff.symm

theorem hasPlan : HasPlan m (m.tests.map TestRecord.definition) where
  result := by
    rw [result_entries_eq, List.map_map, List.map_map]
    rfl
  upload := by
    rw [upload_entries_eq, List.map_map, List.map_map]
    rfl

end Documents

/-! ## Completed sessions -/

/-- The session has what its documents need, and a verdict for every test. -/
structure SessionManager.HasResult (m : SessionManager) : Prop where
  session_id : m.session_id ≠ ""
  tests : m.tests ≠ []
  completed : ∀ t ∈ m.tests, t.completed = true

/-- If the session is completed, it has a result. -/
def SessionManager.Sealed (m : SessionManager) : Prop := m.state = .COMPLETED → m.HasResult

section Operations

variable {cJSON : CJsonLibrary} {w : World} {r : World × Bool} {m m' : SessionManager}

theorem SessionManager.Sealed.same (h : m.Sealed) (hsame : m.Same m') : m'.Sealed := by
  rw [hsame]
  intro hstate
  obtain ⟨hid, htests, hcompleted⟩ := h hstate
  exact ⟨hid, htests, hcompleted⟩

theorem sealed_of_active (h : m.active = true) (hsame : m'.state = m.state) : m'.Sealed := by
  intro hstate
  rw [SessionManager.active, ← hsame, hstate] at h
  cases h

theorem Unchanged.sealed (hr : Unchanged w r) (h : w.manager.Sealed) : r.1.manager.Sealed :=
  h.same hr.2.1

theorem Stored.sealed {write : WriteAnswer} (hr : Stored cJSON w m write r) (hm : m.Sealed) :
    r.1.manager.Sealed := by
  rw [hr.2]
  exact hm.same .of_eq

/-- A session is completed only after its result was written. -/
theorem hasResult_finalized {now : TimePoint} {write : WriteAnswer} (h : m.finished)
    (hwrites : WritesResult cJSON (m.finalized now) write) : (m.finalized now).HasResult := by
  have hbuilt := hwrites.2
  unfold SessionManager.build_result_json at hbuilt
  split at hbuilt
  · cases hbuilt
  case isFalse hnot =>
    rw [not_or] at hnot
    refine ⟨hnot.1, by simpa using hnot.2, fun t ht => ?_⟩
    have hlength : m.tests.length = m.tests.findIdx fun t => !t.completed :=
      le_antisymm h.2 List.findIdx_le_length
    simpa using List.findIdx_eq_length.1 hlength.symm t ht

theorem sealed_finalize {now : TimePoint} {write_result write : WriteAnswer}
    (h : w.manager.Sealed) : (finalize cJSON w now write_result write).1.manager.Sealed := by
  rcases @finalize_spec cJSON w now write write_result with
    ⟨-, hr⟩ | ⟨hr, -⟩ | ⟨hfinished, hwrites, ⟨-, hr⟩ | hr⟩
  · rw [hr]
    exact h
  · exact hr.sealed h
  · exact hr.sealed (w := with_result cJSON w now) h
  · exact hr.sealed fun _ => hasResult_finalized hfinished hwrites

theorem sealed_operate (h : w.manager.Sealed) (op : Operation) :
    (operate cJSON w op).1.manager.Sealed := by
  cases op with
  | set_current_test test_id a =>
    rcases @set_current_test_spec cJSON w test_id a with hr | hr | ⟨hactive, -, hr⟩
    · rw [operate, hr]
      exact h
    · exact hr.sealed h
    · exact hr.sealed (sealed_of_active hactive rfl)
  | begin_test test_id a =>
    rcases @begin_test_spec cJSON w test_id a with hr | ⟨_, hactive, -, -, hr⟩
    · exact hr.sealed h
    · exact hr.sealed (sealed_of_active hactive rfl)
  | record_evidence test_id evidence a =>
    rcases @record_evidence_spec cJSON w test_id a evidence with hr | ⟨_, hactive, -, -, -, hr⟩
    · exact hr.sealed h
    · exact hr.sealed (sealed_of_active hactive rfl)
  | complete_test test_id result details a =>
    rcases @complete_test_spec cJSON w test_id a result details with
      ⟨hr, -⟩ | ⟨test, m, htest, rfl, -, ⟨-, hr⟩ | ⟨-, hr⟩⟩
    · exact hr.sealed h
    all_goals
      have hm : (w.manager.with_verdict test_id result details a.now).Sealed :=
        sealed_of_active (active_test_eq_some htest).1 rfl
      rw [operate, hr]
    · exact hm.same .of_eq
    · exact sealed_finalize (hm.same .of_eq)
  | finalize a => exact sealed_finalize h
  | abandon a =>
    rcases @abandon_spec cJSON w a with ⟨-, hr⟩ | ⟨-, hr | hr⟩
    · rw [operate, hr]
      exact h
    · exact hr.sealed h
    · exact hr.sealed fun hstate => by cases hstate

end Operations

/-! ## Runs -/

/-- The program, and the plan of the session that the manager works on. -/
def planned (cJSON : CJsonLibrary) (directory : String) :
    Machine (World × List TestDefinition) ProgramStep Bool where
  step s e :=
    let r := (program cJSON directory).step s.1 e
    let plan :=
      match e with
      | .start_new tests _ _ | .load_latest_recoverable tests _ =>
        if r.2 = [true] then tests else s.2
      | .operation _ | .relaunch => s.2
    ((r.1, plan), r.2)

/-- The ids of a plan are C strings, and no two of them are equal. -/
structure PlainPlan (plan : List TestDefinition) : Prop where
  nulFree : ∀ test ∈ plan, NulFree test.id
  nodup : (plan.map (·.id)).Nodup

/-- What the callers promise of a plan. Whether the ids differ `start_new` tests itself. -/
def ProgramStep.Promised : ProgramStep → Prop
  | .start_new tests _ _ => ∀ test ∈ tests, NulFree test.id
  | .load_latest_recoverable tests _ => PlainPlan tests
  | .operation _ | .relaunch => True

/-- The records are those of the plan, and a completed session has a result. -/
structure Reached (s : World × List TestDefinition) : Prop where
  plan : s.1.manager.state ≠ .NONE → s.1.manager.tests.map TestRecord.definition = s.2
  sealed : s.1.manager.Sealed

section Runs

variable {cJSON : CJsonLibrary} {directory : String}

/-- A session that is recovered has the records of the plan. -/
theorem match_plan_definitions {records tests : List TestRecord} {plan : List TestDefinition}
    (h : match_plan records plan = some tests) : tests.map TestRecord.definition = plan := by
  induction records generalizing plan tests with
  | nil =>
    cases plan with
    | nil =>
      cases h
      rfl
    | cons => cases h
  | cons record records ih =>
    cases plan with
    | nil => cases h
    | cons expected plan =>
      rw [match_plan] at h
      split_ifs at h with hid
      obtain ⟨rest, hrest, rfl⟩ := Option.map_eq_some_iff.1 h
      rw [List.map_cons, ih hrest, TestRecord.definition, hid]

theorem load_text_plan {path text : String} {plan : List TestDefinition} {m : SessionManager}
    (h : load_text cJSON path text plan = some m) :
    m.state = .IN_PROGRESS ∧ m.tests.map TestRecord.definition = plan := by
  unfold load_text at h
  split at h
  · cases h
  split at h
  · cases h
  split at h
  · cases h
  case isFalse hstate =>
    split at h
    · cases h
    case h_2 tests htests =>
      obtain rfl := Option.some.inj h
      exact ⟨not_not.1 hstate, match_plan_definitions htests⟩

/-- A session keeps the records of its plan. -/
theorem plan_operate {w : World} {plan : List TestDefinition}
    (h : w.manager.state ≠ .NONE → w.manager.tests.map TestRecord.definition = plan)
    (op : Operation) (hstate : (operate cJSON w op).1.manager.state ≠ .NONE) :
    (operate cJSON w op).1.manager.tests.map TestRecord.definition = plan := by
  refine Moves.preserves (I := fun w => w.manager.state ≠ .NONE →
    w.manager.tests.map TestRecord.definition = plan) ?_ (moves_operate op) h hstate
  intro w w' hw hmove
  cases hmove with
  | fail => exact hw
  | store m hchange => exact fun _ => hchange.plan.trans (hw hchange.state_ne_none.1)
  | result => exact hw

variable {c : Config (World × List TestDefinition) Bool}

theorem Reached.next (h : Reached c.state) (e : ProgramStep) :
    Reached ((planned cJSON directory).next c e).state := by
  cases e with
  | operation op => exact ⟨plan_operate h.plan op, sealed_operate h.sealed op⟩
  | start_new tests metadata a =>
    simp only [Machine.next, planned, program, List.cons.injEq, and_true]
    rcases @start_new_spec cJSON c.state.1 a directory tests metadata with
      hr | ⟨disk, now, write, -, ⟨message, hr⟩ | ⟨-, -, -, hr⟩⟩
    · rw [if_neg (Bool.not_eq_true _ ▸ hr.1)]
      refine ⟨?_, hr.sealed h.sealed⟩
      dsimp only
      rw [hr.2.1]
      exact h.plan
    · rw [hr]
      exact ⟨fun hstate => absurd rfl hstate, fun hstate => by cases hstate⟩
    · rw [hr, if_pos rfl]
      exact ⟨fun _ => (@inPlan_new_session directory tests metadata now).plan,
        fun hstate => by cases hstate⟩
  | load_latest_recoverable tests listing =>
    simp only [Machine.next, planned, program, List.cons.injEq, and_true]
    rcases @load_latest_recoverable_spec cJSON c.state.1 directory tests listing with
      hr | ⟨filename, m, -, hload, hr⟩
    · rw [hr]
      exact ⟨fun hstate => absurd rfl hstate, fun hstate => by cases hstate⟩
    · obtain ⟨hstate, hplan⟩ := load_text_plan hload
      rw [hr, if_pos rfl]
      refine ⟨fun _ => hplan, fun hcompleted => ?_⟩
      rw [show m.state = .COMPLETED from hcompleted] at hstate
      cases hstate
  | relaunch => exact ⟨fun hstate => absurd rfl hstate, fun hstate => by cases hstate⟩

theorem nodup_of_valid_plan {tests : List TestDefinition} {test_ids : List String}
    (h : valid_plan tests test_ids = true) :
    (tests.map (·.id)).Nodup ∧ ∀ test ∈ tests, test.id ∉ test_ids := by
  induction tests generalizing test_ids with
  | nil => exact ⟨List.nodup_nil, fun test htest => absurd htest List.not_mem_nil⟩
  | cons test tests ih =>
    simp only [valid_plan, Bool.and_eq_true, Bool.not_eq_true', Bool.or_eq_false_iff,
      List.contains_eq_mem, decide_eq_false_iff_not] at h
    obtain ⟨⟨-, hfresh⟩, hrest⟩ := h
    obtain ⟨hnodup, hseen⟩ := ih hrest
    refine ⟨List.nodup_cons.2 ⟨fun hmem => ?_, hnodup⟩, List.forall_mem_cons.2 ⟨hfresh, ?_⟩⟩
    · obtain ⟨other, hother, hid⟩ := List.mem_map.1 hmem
      exact hseen other hother (hid ▸ List.mem_cons_self)
    · exact fun other hother hmem => hseen other hother (List.mem_cons_of_mem _ hmem)

theorem reached_run {disk : Disk} (steps : List ProgramStep) :
    Reached ((planned cJSON directory).run ⟨(⟨{}, disk⟩, []), []⟩ steps).state := by
  refine Machine.run_invariant (I := fun c => Reached c.state) (fun c e h => h.next e) ?_ steps
  exact ⟨fun hstate => absurd rfl hstate, fun hstate => by cases hstate⟩

/-- The plan of a session is one that was promised. -/
theorem plainPlan_next (h : PlainPlan c.state.2) {e : ProgramStep} (he : e.Promised) :
    PlainPlan ((planned cJSON directory).next c e).state.2 := by
  cases e with
  | operation | relaunch => exact h
  | start_new tests metadata a =>
    simp only [Machine.next, planned, program, List.cons.injEq, and_true]
    split
    case isFalse => exact h
    case isTrue hok =>
      rcases @start_new_spec cJSON c.state.1 a directory tests metadata with
        hr | ⟨disk, now, write, -, ⟨message, hr⟩ | ⟨-, hvalid, -, -⟩⟩
      · exact absurd (hr.1.symm.trans hok) Bool.false_ne_true
      · rw [hr] at hok
        cases hok
      · exact ⟨he, (nodup_of_valid_plan hvalid).1⟩
  | load_latest_recoverable tests listing =>
    simp only [Machine.next, planned]
    split
    · exact he
    · exact h

end Runs

/-- What the documents of a completed session are and say. -/
structure CompletedViews (cJSON : CJsonLibrary) (m : SessionManager) (plan : List TestDefinition) :
    Prop where
  result_text (formatted : Bool) :
    m.build_result_json cJSON formatted = print_json cJSON m.result_document formatted
  upload_text (formatted : Bool) :
    m.build_upload_result_json cJSON formatted = print_json cJSON m.upload_document formatted
  agree : ViewsAgree m
  plan : HasPlan m plan
  completed : (summary m.state m.tests).completed = (summary m.state m.tests).total

theorem Reached.views {cJSON : CJsonLibrary} {s : World × List TestDefinition} (h : Reached s)
    (hstate : s.1.manager.state = .COMPLETED) : CompletedViews cJSON s.1.manager s.2 := by
  obtain ⟨hid, htests, hcompleted⟩ := h.sealed hstate
  have hplan := h.plan (by rw [hstate]; decide)
  refine ⟨fun formatted => ?_, fun formatted => ?_, viewsAgree, hplan ▸ hasPlan,
    List.countP_eq_length.2 hcompleted⟩
  · rw [SessionManager.build_result_json, if_neg (by simp [hid, htests])]
  · rw [SessionManager.build_upload_result_json, if_neg (by simp [hid, htests, hstate])]

/-- Both documents have one entry for every test of the plan, under its id. -/
structure OneEntryEach (m : SessionManager) (plan : List TestDefinition) : Prop where
  result : ∀ test ∈ plan, ((result_entries m.result_document).map Prod.fst).count test.id = 1
  upload : ∀ test ∈ plan, ((upload_entries m.upload_document).map Prod.fst).count test.id = 1

theorem HasPlan.oneEntryEach {m : SessionManager} {plan : List TestDefinition} (h : HasPlan m plan)
    (hplan : PlainPlan plan) : OneEntryEach m plan := by
  have hkeys : plan.map (c_str ·.id) = plan.map (·.id) :=
    List.map_congr_left fun test htest => c_str_eq (hplan.nulFree test htest)
  have hone (test : TestDefinition) (htest : test ∈ plan) : (plan.map (·.id)).count test.id = 1 :=
    List.count_eq_one_of_mem hplan.nodup (List.mem_map_of_mem htest)
  exact ⟨by rw [h.result, hkeys]; exact hone, by rw [h.upload, hkeys]; exact hone⟩

/-- In every completed session that the manager reaches, from any files on the disk, the three
views of the verdict agree and show the tests of the plan; no other session is uploaded. -/
theorem views_agree (cJSON : CJsonLibrary) (directory : String) (disk : Disk)
    (steps : List ProgramStep) :
    let s := ((planned cJSON directory).run ⟨(⟨{}, disk⟩, []), []⟩ steps).state
    (s.1.manager.state = .COMPLETED → CompletedViews cJSON s.1.manager s.2 ∧
      ((∀ e ∈ steps, e.Promised) → OneEntryEach s.1.manager s.2)) ∧
    (s.1.manager.state ≠ .COMPLETED →
      ∀ formatted, s.1.manager.build_upload_result_json cJSON formatted = none) := by
  intro s
  have hreached : Reached s := reached_run steps
  refine ⟨fun hstate => ?_, fun hstate formatted => ?_⟩
  · have hviews : CompletedViews cJSON s.1.manager s.2 := hreached.views hstate
    refine ⟨hviews, fun hpromised => hviews.plan.oneEntryEach ?_⟩
    refine Machine.invariant (G := fun _ e => e.Promised)
      (I := fun c : Config (World × List TestDefinition) Bool => PlainPlan c.state.2)
      (fun c e h he => plainPlan_next h he) ?_ (Machine.along_of_forall hpromised)
    exact ⟨fun test htest => absurd htest List.not_mem_nil, List.nodup_nil⟩
  · rw [SessionManager.build_upload_result_json, if_pos (.inr (.inr hstate))]

/-- A session with one test that failed is completed, and its views agree. -/
theorem views_agree_failed :
    let steps :=
      sampleSteps ++ [.operation (.complete_test "input" .FAIL [] { now := sampleLater })]
    let s := ((planned JsonText.jsonText "/sessions").run ⟨({}, []), []⟩ steps).state
    CompletedViews JsonText.jsonText s.1.manager s.2 ∧ OneEntryEach s.1.manager s.2 := by
  intro steps s
  have hcompleted : s.1.manager.state = .COMPLETED := by decide +kernel
  have hpromised : ∀ e ∈ steps, e.Promised := by
    simp [steps, sampleSteps, ProgramStep.Promised]
    decide
  obtain ⟨hviews, hentries⟩ := (views_agree JsonText.jsonText "/sessions" _ steps).1 hcompleted
  exact ⟨hviews, hentries hpromised⟩

end FactoryTest.Session

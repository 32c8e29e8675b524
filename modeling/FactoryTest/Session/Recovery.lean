import FactoryTest.Session.Selection
import FactoryTest.Session.RoundTrip

/-!
# Recovering a session

A session that was started, worked on and written is recovered as it was (`recovers`): the
operations keep what reading it back needs (`InPlan`), so only the strings, which must be free
of NUL, and the counts are left to ask of it (`SessionManager.Plain`).
-/

namespace FactoryTest.Session

/-! ## What the operations keep -/

/-- The test of the plan that a record stands for. -/
def TestRecord.definition (t : TestRecord) : TestDefinition := ⟨t.id, t.name⟩

/-- The session is one of the plan, has its file in the directory, and is such as the operations
make it. -/
structure InPlan (directory : String) (plan : List TestDefinition) (m : SessionManager) :
    Prop where
  plan : m.tests.map TestRecord.definition = plan
  session_path : m.session_path = path_join directory (m.session_id ++ K_SESSION_SUFFIX)
  result_path : m.result_path ≠ ""
  made : m.Made

theorem valid_add_evidence {t : TestRecord} {now : String} {evidence : TestEvidence}
    (h : ∀ entry ∈ t.evidence.entries, valid_evidence entry = true)
    (hvalid : evidence.entries.all valid_evidence = true) :
    ∀ entry ∈ (add_evidence now evidence t).evidence.entries, valid_evidence entry = true := by
  unfold add_evidence
  intro entry hentry
  rcases OrderedMap.mem_foldl_assign hentry with hentry | hentry
  · exact List.all_eq_true.1 hvalid entry hentry
  · refine h entry ?_
    split at hentry <;> exact hentry

theorem result_add_evidence {t : TestRecord} {now : String} {evidence : TestEvidence} :
    (add_evidence now evidence t).result = t.result ∧
      (add_evidence now evidence t).completed = t.completed := by
  unfold add_evidence
  split <;> exact ⟨rfl, rfl⟩

theorem SessionManager.ValidEvidence.change {m m' : SessionManager} (h : m.ValidEvidence)
    (hchange : Change m m') : m'.ValidEvidence :=
  hchange.forall_tests (fun _ _ _ _ hentry => absurd hentry List.not_mem_nil)
    (fun _ _ hvalid _ ht => valid_add_evidence ht hvalid) (fun _ _ _ _ ht => ht) h

theorem SessionManager.Made.change {m m' : SessionManager} (h : m.Made) (hchange : Change m m') :
    m'.Made := by
  refine ⟨hchange.updated_at_ne_empty, hchange.forall_tests ?_ ?_ ?_ h.tests⟩
  · exact fun now t ht => ⟨ht.result, fun entry hentry => absurd hentry List.not_mem_nil⟩
  · intro now evidence hvalid t ht
    refine ⟨?_, valid_add_evidence ht.evidence hvalid⟩
    rw [result_add_evidence.1, result_add_evidence.2]
    exact ht.result
  · exact fun _ _ _ t ht =>
      ⟨fun hcompleted => absurd hcompleted Bool.false_ne_true.symm, ht.evidence⟩

theorem Change.plan {m m' : SessionManager} (hchange : Change m m') :
    m'.tests.map TestRecord.definition = m.tests.map TestRecord.definition := by
  cases hchange with
  | set_current_test | finalize | abandon => rfl
  | begin_test | complete_test => exact map_modify_test fun _ => rfl
  | record_evidence =>
    refine map_modify_test fun t => ?_
    unfold add_evidence
    split <;> rfl

section

variable {directory : String} {plan : List TestDefinition}

theorem InPlan.clear {m : SessionManager} (h : InPlan directory plan m) (message : String) :
    InPlan directory plan { m with last_error := message } :=
  ⟨h.plan, h.session_path, h.result_path, h.made.updated_at, h.made.tests⟩

theorem InPlan.move {cJSON : CJsonLibrary} {w w' : World} (h : InPlan directory plan w.manager)
    (hmove : Move cJSON w w') : InPlan directory plan w'.manager := by
  cases hmove with
  | fail message => exact h.clear message
  | store m hchange =>
    obtain ⟨hid, hsession, hresult⟩ := hchange.paths
    have hm : InPlan directory plan m :=
      ⟨hchange.plan.trans h.plan, by rw [hsession, hid, h.session_path], hresult ▸ h.result_path,
        h.made.change hchange⟩
    exact hm.clear ""
  | result => exact h

theorem InPlan.run {cJSON : CJsonLibrary} {c : Config World Bool}
    (h : InPlan directory plan c.state.manager) (ops : List Operation) :
    InPlan directory plan ((session cJSON).run c ops).state.manager :=
  Machine.run_invariant (I := fun c : Config World Bool => InPlan directory plan c.state.manager)
    (fun _ op hc => (moves_operate op).preserves
      (I := fun w => InPlan directory plan w.manager) (fun _ _ => InPlan.move) hc) h ops

theorem inPlan_new_session (metadata : SessionMetadata) (now : TimePoint) :
    InPlan directory plan (new_session directory plan metadata now) where
  plan := by
    rw [new_session, List.map_map]
    exact List.map_id plan
  session_path := rfl
  result_path := result_path_ne_empty _
  made := by
    refine ⟨iso_timestamp_ne_empty now, fun t ht => ?_⟩
    obtain ⟨test, -, rfl⟩ := List.mem_map.1 ht
    exact ⟨fun _ => rfl, fun entry hentry => absurd hentry List.not_mem_nil⟩

end

/-! ## Reading the file back -/

theorem match_plan_self {tests : List TestRecord} {plan : List TestDefinition}
    (h : tests.map TestRecord.definition = plan) : match_plan tests plan = some tests := by
  subst h
  induction tests with
  | nil => rfl
  | cons t tests ih =>
    rw [List.map_cons, match_plan, ih]
    exact if_pos rfl

/-- The text that `persist` writes for a session is read back as that session. -/
theorem load_text_session_text {cJSON : CJsonLibrary} (hcJSON : cJSON.Lossless)
    {directory : String} {plan : List TestDefinition} {m : SessionManager}
    (hplan : InPlan directory plan m) (hplain : m.Plain) (hstate : m.state = .IN_PROGRESS) :
    ∃ text, session_text cJSON m = some text ∧
      load_text cJSON m.session_path text plan = some { m with last_error := "" } := by
  obtain ⟨output, hprint, hparse⟩ :=
    hcJSON _ (printable_session_document hplan.made.validEvidence)
  refine ⟨output ++ "\n", ?_, ?_⟩
  · rw [session_text, print_json, hprint]
    rfl
  · have hdocument : parse_session_document cJSON (output ++ "\n") = .ok m.loaded := by
      rw [parse_session_document, hparse]
      exact parse_session_root_document hplain hplan.made
    have htests : match_plan m.loaded.tests plan = some m.tests := match_plan_self hplan.plan
    have hloaded : m.loaded.state = .IN_PROGRESS := hstate
    have hpath : m.loaded.result_path ≠ "" := hplan.result_path
    rw [load_text, if_neg (by simp), hdocument]
    dsimp only
    rw [if_neg (not_not.2 hloaded), htests]
    dsimp only
    rw [if_neg hpath]
    rfl

/-- A session that was started with a plan, worked on and written is recovered under the same
plan, with the same manager and so with the same file when it is written again. -/
theorem recovers (cJSON : CJsonLibrary) (hcJSON : cJSON.Lossless) (directory : String)
    (plan : List TestDefinition) (metadata : SessionMetadata) (a : Answers) (w₀ w w' w'' : World)
    (hstart : (start_new cJSON directory w₀ plan metadata a).2 = true) (ops : List Operation)
    (hw : w = ((session cJSON).run
      ⟨(start_new cJSON directory w₀ plan metadata a).1, []⟩ ops).state)
    (hstate : w.manager.state = .IN_PROGRESS) (hplain : w.manager.Plain) (now now' : TimePoint)
    (write : WriteAnswer) (hpersist : persist cJSON w now write = (w', true))
    (listing : Listing) (write_time : ℤ)
    (hlatest : listing.Latest (w.manager.session_id ++ K_SESSION_SUFFIX) write_time)
    (hdisk : w''.disk = w'.disk) :
    w'.manager = { w.manager with last_error := "" } ∧
      load_latest_recoverable cJSON directory w'' plan listing = (w', true) ∧
      persist cJSON w' now' .written = (w', true) := by
  have hplan : InPlan directory plan w.manager := by
    rw [hw]
    refine InPlan.run ?_ ops
    rcases @start_new_spec cJSON w₀ a directory plan metadata with
      h | ⟨disk, start, -, -, ⟨message, h⟩ | ⟨-, -, -, h⟩⟩
    · exact absurd (h.1.symm.trans hstart) Bool.false_ne_true
    · rw [h] at hstart
      cases hstart
    · rw [h]
      exact (inPlan_new_session metadata start).clear ""
  have hupdated := hplan.made.updated_at
  have hpersists : Persists cJSON w.manager write := by
    by_contra hnot
    obtain ⟨message, h⟩ := persist_false now hupdated hnot
    rw [h] at hpersist
    cases hpersist
  obtain rfl : w' = stored cJSON w.disk w.manager :=
    (Prod.mk.inj (hpersist.symm.trans (persist_true hupdated hpersists))).1
  obtain ⟨text, htext, hload⟩ := load_text_session_text hcJSON hplan hplain hstate
  refine ⟨rfl, ?_, ?_⟩
  · have hread : read_text_file (reset w'').disk w.manager.session_path = text := by
      rw [read_text_file, reset, hdisk, stored_disk_self, htext]
      rfl
    unfold load_latest_recoverable
    rw [latest_session_eq hlatest]
    dsimp only
    rw [← hplan.session_path, hread, hload, reset, hdisk]
    rfl
  · have hagain : Persists cJSON (stored cJSON w.disk w.manager).manager .written :=
      ⟨rfl, hpersists.2⟩
    have hsame : stored cJSON (stored cJSON w.disk w.manager).disk
        (stored cJSON w.disk w.manager).manager = stored cJSON w.disk w.manager := by
      unfold stored
      exact congrArg _ (Function.update_idem _ _ _)
    rw [persist_true (w := stored cJSON w.disk w.manager) hupdated hagain, hsame]

/-! ## A session of two tests is recovered -/

/-- The first test is tried, measured and completed. -/
def sampleWork : List Operation :=
  [.begin_test "input" { now := sampleNow },
    .record_evidence "input"
      (((OrderedMap.empty.emplace "keys" (.number (.ofNat 46))).emplace "layout"
        (.string "\"us\"")).emplace "complete" (.boolean true)) { now := sampleNow },
    .complete_test "input" .FAIL [⟨"Fn", .FAIL⟩, ⟨"Space", .PASS⟩] { now := sampleLater }]

def sampleWorked : World := ((session JsonText.jsonText).run ⟨sampleStart, []⟩ sampleWork).state

def sampleWritten : World := (persist JsonText.jsonText sampleWorked sampleLater .written).1

/-- The directory with the file of the session, and an older one. -/
def sampleListing : Listing where
  is_directory := true
  entries :=
    [⟨"factorytest-20261117-080000-000.session.json", some true, some 1⟩,
      ⟨sampleWorked.manager.session_id ++ K_SESSION_SUFFIX, some true, some 2⟩]

theorem recovers_sample :
    load_latest_recoverable JsonText.jsonText "/sessions" ⟨{}, sampleWritten.disk⟩ samplePlan
      sampleListing = (sampleWritten, true) := by
  have hwritten : persist JsonText.jsonText sampleWorked sampleLater .written =
      (sampleWritten, true) := Prod.ext rfl (by decide +kernel)
  have hlatest : sampleListing.Latest (sampleWorked.manager.session_id ++ K_SESSION_SUFFIX) 2 := by
    refine ⟨rfl, has_suffix_append _ _, .tail _ (.head _), by decide +kernel, ?_⟩
    intro entry hentry _ _ time htime
    rcases hentry with _ | ⟨_, _ | ⟨_, hentry⟩⟩
    · cases htime
      exact .inl (by decide)
    · cases htime
      exact .inr ⟨rfl, le_refl _⟩
    · cases hentry
  exact (recovers JsonText.jsonText JsonText.lossless_jsonText "/sessions" samplePlan {}
    { now := sampleNow } {} sampleWorked sampleWritten ⟨{}, sampleWritten.disk⟩
    (by decide +kernel) sampleWork rfl (by decide +kernel) (by decide +kernel) sampleLater
    sampleLater .written hwritten sampleListing 2 hlatest rfl).2.1

end FactoryTest.Session

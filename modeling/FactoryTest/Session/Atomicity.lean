import FactoryTest.Session.Recovery

/-!
# Operations that fail

An operation is *atomic* if, where it returns false, the session is as before but for
`last_error`, and the session file still describes it (`Atomic`). In every world that the
program can reach the operations are atomic except `complete_test`: once it has written the
last verdict it goes on to `finalize`, and if that fails, the verdict stays though the call
returns false (`LeavesVerdict`, `atomic_iff`).

**Reachable worlds.** The program starts on an empty disk, starts and recovers sessions, works
on them, and is started again at any time (`program`). Every session file is then one that
`persist` wrote (`Proper`), so the result file of a session is never the file of a session.
-/

namespace FactoryTest.Session

/-! ## The program -/

/-- What the program does with its session manager. -/
inductive ProgramStep
  | operation (op : Operation)
  | start_new (tests : List TestDefinition) (metadata : SessionMetadata) (a : Answers)
  | load_latest_recoverable (expected_tests : List TestDefinition) (listing : Listing)
  | relaunch

/-- The program, with the directory of its sessions. -/
def program (cJSON : CJsonLibrary) (directory : String) : Machine World ProgramStep Bool where
  step w
    | .operation op => ((operate cJSON w op).1, [(operate cJSON w op).2])
    | .start_new tests metadata a =>
      ((start_new cJSON directory w tests metadata a).1,
        [(start_new cJSON directory w tests metadata a).2])
    | .load_latest_recoverable expected_tests listing =>
      ((load_latest_recoverable cJSON directory w expected_tests listing).1,
        [(load_latest_recoverable cJSON directory w expected_tests listing).2])
    | .relaunch => (reset w, [])

/-! ## What a session file says -/

/-- The session file describes the session: `persist` writes it for the session, or
`load_latest_recoverable` reads the session from it. -/
def Describes (cJSON : CJsonLibrary) (disk : Disk) (m : SessionManager) : Prop :=
  m.state = .NONE ∨ ∃ text, disk m.session_path = some text ∧
    (session_text cJSON m = some text ∨
      ∃ plan, load_text cJSON m.session_path text plan = some { m with last_error := "" })

/-- Where the call returns false, the session and what its file says are as before. -/
def Atomic (cJSON : CJsonLibrary) (w : World) (r : World × Bool) : Prop :=
  r.2 = false → w.manager.Same r.1.manager ∧ Describes cJSON r.1.disk w.manager

/-- The files of the session are named as `start_new` names them, and its evidence can be
printed. -/
structure SessionManager.Named (m : SessionManager) : Prop where
  session : has_suffix m.session_path K_SESSION_SUFFIX = true
  result : m.result_path = result_path_for_session m.session_path
  nulFree : NulFree m.session_path
  evidence : m.ValidEvidence

/-- A world whose files the program has written. -/
structure Proper (cJSON : CJsonLibrary) (w : World) : Prop where
  named : w.manager.state ≠ .NONE → w.manager.Named
  describes : Describes cJSON w.disk w.manager
  written : ∀ path text, w.disk path = some text → has_suffix path K_SESSION_SUFFIX = true →
    ∃ m : SessionManager, m.Named ∧ m.session_path = path ∧ session_text cJSON m = some text

section

variable {cJSON : CJsonLibrary} {directory : String} {w w' : World} {m : SessionManager}

theorem Describes.same {disk : Disk} {m' : SessionManager} (h : Describes cJSON disk m)
    (hsame : m.Same m') : Describes cJSON disk m' := by
  rw [hsame]
  exact h

theorem SessionManager.Named.change {m m' : SessionManager} (h : m.Named)
    (hchange : Change m m') : m'.Named := by
  obtain ⟨-, hsession, hresult⟩ := hchange.paths
  exact ⟨hsession ▸ h.session, by rw [hsession, hresult, h.result], hsession ▸ h.nulFree,
    h.evidence.change hchange⟩

theorem SessionManager.Named.result_path_ne (h : m.Named) : m.result_path ≠ m.session_path := by
  rw [h.result]
  exact Session.result_path_ne h.session

/-- Only a session in progress is changed. -/
theorem Change.state_ne_none {m m' : SessionManager} (hchange : Change m m') :
    m.state ≠ .NONE ∧ m'.state ≠ .NONE := by
  have hprogress (hactive : m.active = true) : m.state = .IN_PROGRESS := of_decide_eq_true hactive
  cases hchange with
  | set_current_test _ _ hactive | begin_test _ _ _ hactive | record_evidence _ _ _ _ _ hactive
    | complete_test _ _ _ _ _ hactive =>
    have hstate : m.state ≠ .NONE := by
      rw [hprogress hactive]
      decide
    exact ⟨hstate, hstate⟩
  | finalize _ hfinished => exact ⟨by rw [hprogress hfinished.1]; decide, SessionState.noConfusion⟩
  | abandon _ hstate => exact ⟨by rw [hstate]; decide, SessionState.noConfusion⟩

/-- Writing a session keeps the files proper. -/
theorem Proper.store (h : Proper cJSON w) (hm : m.Named) (htext : (session_text cJSON m).isSome) :
    Proper cJSON (stored cJSON w.disk m) where
  named := fun _ => ⟨hm.session, hm.result, hm.nulFree, hm.evidence⟩
  describes := by
    obtain ⟨text, htext⟩ := Option.isSome_iff_exists.1 htext
    exact .inr ⟨text, (stored_disk_self cJSON w.disk m).trans htext, .inl htext⟩
  written := by
    intro path text hpath hsuffix
    by_cases heq : path = m.session_path
    · subst heq
      exact ⟨m, hm, rfl, (stored_disk_self cJSON w.disk m).symm.trans hpath⟩
    · exact h.written path text ((stored_disk_of_ne cJSON heq w.disk).symm.trans hpath) hsuffix

/-- Writing a result file does not touch what the session file says. -/
theorem Describes.result {now : TimePoint} (h : Describes cJSON w.disk w.manager)
    (hnamed : w.manager.Named) : Describes cJSON (with_result cJSON w now).disk w.manager := by
  refine h.imp_right fun ⟨text, hdisk, hsays⟩ => ⟨text, ?_, hsays⟩
  exact (with_result_disk_of_ne hnamed.result_path_ne.symm).trans hdisk

theorem Proper.move (h : Proper cJSON w) (hmove : Move cJSON w w') : Proper cJSON w' := by
  cases hmove with
  | fail message =>
    refine ⟨fun hstate => ?_, h.describes, h.written⟩
    obtain ⟨hsession, hresult, hnulFree, hevidence⟩ := h.named hstate
    exact ⟨hsession, hresult, hnulFree, hevidence⟩
  | store m hchange htext =>
    exact h.store ((h.named hchange.state_ne_none.1).change hchange) htext
  | result now hfinished =>
    have hnamed : w.manager.Named := h.named fun hstate => by
      simpa [SessionManager.active, hstate] using hfinished.1
    refine ⟨h.named, h.describes.result hnamed, fun path text hpath hsuffix => ?_⟩
    have hne : path ≠ w.manager.result_path := by
      rintro rfl
      rw [hnamed.result, not_session_of_result (has_suffix_result_path _)] at hsuffix
      cases hsuffix
    exact h.written path text ((with_result_disk_of_ne hne).symm.trans hpath) hsuffix

theorem Proper.relaunch (h : Proper cJSON w) : Proper cJSON (reset w) :=
  ⟨fun hstate => absurd rfl hstate, .inl rfl, h.written⟩

theorem mem_of_match_plan {records tests : List TestRecord} {plan : List TestDefinition}
    (h : match_plan records plan = some tests) :
    ∀ t ∈ tests, ∃ record ∈ records, ∃ name, t = { record with name := name } := by
  induction records generalizing plan tests with
  | nil =>
    cases plan with
    | nil =>
      cases h
      exact fun t ht => absurd ht List.not_mem_nil
    | cons => cases h
  | cons record records ih =>
    cases plan with
    | nil => cases h
    | cons expected plan =>
      rw [match_plan] at h
      split_ifs at h
      obtain ⟨rest, hrest, rfl⟩ := Option.map_eq_some_iff.1 h
      refine List.forall_mem_cons.2 ⟨⟨record, List.mem_cons_self, _, rfl⟩, fun t ht => ?_⟩
      obtain ⟨d, hd, hname⟩ := ih hrest t ht
      exact ⟨d, List.mem_cons_of_mem _ hd, hname⟩

/-- What is read from the file of a session names its files as that session did. -/
theorem named_of_load_text (hcJSON : cJSON.Lossless) {text : String} {m' : SessionManager}
    {plan : List TestDefinition} (hm : m.Named) (htext : session_text cJSON m = some text)
    (hload : load_text cJSON m.session_path text plan = some m') :
    m'.Named ∧ m'.session_path = m.session_path ∧ m'.last_error = "" := by
  obtain ⟨output, hprint, hparse⟩ := hcJSON _ (printable_session_document hm.evidence)
  obtain rfl : output ++ "\n" = text := by
    rw [session_text, print_json, hprint] at htext
    exact Option.some.inj htext
  unfold load_text at hload
  rw [parse_session_document, hparse] at hload
  split_ifs at hload
  dsimp only at hload
  split at hload
  · cases hload
  case h_2 loaded hloaded =>
    obtain ⟨hpath, hevidence⟩ := parse_session_root_ok hloaded
    have hresult : loaded.result_path = result_path_for_session m.session_path := by
      rw [hpath, ← hm.result]
      simpa [SessionManager.session_document, string_member, number_member] using
        c_str_eq (hm.result ▸ nulFree_result_path hm.nulFree)
    by_cases hstate : loaded.state = .IN_PROGRESS
    swap
    · rw [if_pos hstate] at hload
      cases hload
    rw [if_neg (not_not.2 hstate)] at hload
    split at hload
    · cases hload
    case h_2 tests htests =>
      cases hload
      refine ⟨⟨hm.session, ?_, hm.nulFree, fun t ht => ?_⟩, rfl, rfl⟩
      · dsimp only
        rw [hresult, ite_self]
      · obtain ⟨record, hrecord, name, rfl⟩ := mem_of_match_plan htests t ht
        exact hevidence record hrecord

theorem Proper.load (hcJSON : cJSON.Lossless) (h : Proper cJSON w)
    (plan : List TestDefinition) (listing : Listing) :
    Proper cJSON (load_latest_recoverable cJSON directory w plan listing).1 := by
  rcases @load_latest_recoverable_spec cJSON w directory plan listing with
    hr | ⟨filename, m', hfilename, hload, hr⟩
  · rw [hr]
    exact h.relaunch
  · rw [hr]
    have hsuffix := has_suffix_path_join directory (latest_session_session hfilename)
    generalize path_join directory filename = path at hload hsuffix
    cases hdisk : w.disk path with
    | none =>
      rw [read_text_file, hdisk] at hload
      cases hload
    | some text =>
      obtain ⟨m, hm, rfl, htext⟩ := h.written path text hdisk hsuffix
      have hread : read_text_file w.disk m.session_path = text := by
        rw [read_text_file, hdisk]
        rfl
      rw [hread] at hload
      obtain ⟨hnamed, hpath, herror⟩ := named_of_load_text hcJSON hm htext hload
      refine ⟨fun _ => hnamed, .inr ⟨text, ?_, .inr ⟨plan, ?_⟩⟩, h.written⟩
      · rw [hpath]
        exact hdisk
      · have hsays : load_text cJSON m'.session_path text plan = some m' := by
          rw [hpath]
          exact hload
        exact hsays.trans (congrArg some (by rw [← herror]))

theorem named_new_session (hdirectory : NulFree directory) (tests : List TestDefinition)
    (metadata : SessionMetadata) (now : TimePoint) :
    (new_session directory tests metadata now).Named where
  session := has_suffix_path_join _ (has_suffix_append _ _)
  result := rfl
  nulFree := nulFree_path_join hdirectory (nulFree_append
    (nulFree_append (by decide) (nulFree_session_timestamp now)) (by decide))
  evidence := (@inPlan_new_session directory tests metadata now).made.validEvidence

theorem Proper.start (hdirectory : NulFree directory) (h : Proper cJSON w)
    (tests : List TestDefinition) (metadata : SessionMetadata) (a : Answers) :
    Proper cJSON (start_new cJSON directory w tests metadata a).1 := by
  rcases @start_new_spec cJSON w a directory tests metadata with
    hr | ⟨disk, now, write, hdisk, hr⟩
  · exact hr.moves.preserves (fun _ _ => Proper.move) h
  · have hleft : Proper cJSON ⟨{}, disk⟩ := by
      rcases hdisk with rfl | ⟨hstate, hpersists, rfl⟩
      · exact h.relaunch
      · have hchange := Change.abandon (m := w.manager) a.now hstate
        exact (h.store ((h.named hchange.state_ne_none.1).change hchange) hpersists.2.2).relaunch
    rcases hr with ⟨message, hr⟩ | ⟨-, -, hpersists, hr⟩
    · rw [hr]
      exact ⟨fun hstate => absurd rfl hstate, .inl rfl, hleft.written⟩
    · rw [hr]
      exact hleft.store (named_new_session hdirectory tests metadata now) hpersists.2.2

/-- Every world that the program reaches is proper. -/
theorem proper_run (hcJSON : cJSON.Lossless) (hdirectory : NulFree directory)
    (steps : List ProgramStep) :
    Proper cJSON ((program cJSON directory).run ⟨{}, []⟩ steps).state := by
  refine Machine.run_invariant (I := fun c : Config World Bool => Proper cJSON c.state) ?_ ?_ steps
  · intro c step hc
    cases step with
    | operation op => exact (moves_operate op).preserves (fun _ _ => Proper.move) hc
    | start_new tests metadata a => exact hc.start hdirectory tests metadata a
    | load_latest_recoverable tests listing => exact hc.load hcJSON tests listing
    | relaunch => exact hc.relaunch
  · exact ⟨fun hstate => absurd rfl hstate, .inl rfl, fun path text hpath => by cases hpath⟩

end

/-! ## Atomicity -/

/-- The call writes the last verdict that was missing, or one more in a session that has them
all, and then fails to complete the session. -/
def LeavesVerdict (cJSON : CJsonLibrary) (w : World) : Operation → Prop
  | .complete_test test_id result details a =>
    match active_test w.manager test_id with
    | some test =>
      let m := w.manager.with_verdict test_id result details a.now
      Persists cJSON m a.write ∧ m.tests.length ≤ next_incomplete_index m.tests ∧
        ¬ (WritesResult cJSON (m.finalized a.now_next) a.write_result ∧
          Persists cJSON (m.finalized a.now_next) a.write_next) ∧
        (mark_completed result details (iso_timestamp a.now) test ≠ test ∨
          w.manager.updated_at ≠ iso_timestamp a.now)
    | none => False
  | _ => False

instance (cJSON : CJsonLibrary) (w : World) (op : Operation) :
    Decidable (LeavesVerdict cJSON w op) := by
  unfold LeavesVerdict
  repeat' split
  all_goals infer_instance

section

variable {cJSON : CJsonLibrary} {directory : String} {w w' : World} {r : World × Bool}
  {m : SessionManager} {write : WriteAnswer}

theorem Unchanged.atomic (h : Unchanged w r) (hdescribes : Describes cJSON w.disk w.manager) :
    Atomic cJSON w r := by
  intro _
  rw [h.2.2]
  exact ⟨h.2.1, hdescribes⟩

theorem atomic_of_true (h : r.2 = true) : Atomic cJSON w r :=
  fun hfalse => absurd (hfalse.symm.trans h) Bool.false_ne_true

theorem Stored.atomic {w₀ : World} (h : Stored cJSON w₀ m write r) : Atomic cJSON w r :=
  atomic_of_true (by rw [h.2])

/-- A `finalize` that fails leaves the session as it is, and at most a result file behind. -/
theorem atomic_finalize (h : Proper cJSON w) {now : TimePoint} {write_result : WriteAnswer} :
    Atomic cJSON w (finalize cJSON w now write_result write) := by
  rcases @finalize_spec cJSON w now write write_result with
    ⟨-, hr⟩ | ⟨hr, -⟩ | ⟨hfinished, -, ⟨-, hr⟩ | hr⟩
  · exact atomic_of_true (by rw [hr])
  · exact hr.atomic h.describes
  · have hnamed : w.manager.Named := h.named fun hstate => by
      simpa [SessionManager.active, hstate] using hfinished.1
    intro _
    rw [hr.2.2]
    exact ⟨hr.2.1, h.describes.result hnamed⟩
  · exact hr.atomic

theorem modify_test_eq_self {tests : List TestRecord} {test_id : String} {t : TestRecord}
    {f : TestRecord → TestRecord} (h : find_test tests test_id = some t) :
    modify_test test_id f tests = tests ↔ f t = t := by
  induction tests with
  | nil => cases h
  | cons d tests ih =>
    rw [modify_test_cons]
    split_ifs with hd
    · obtain rfl : d = t := by simpa [find_test, hd] using h
      rw [List.cons.injEq, and_iff_left rfl]
    · rw [List.cons.injEq, and_iff_right rfl, ih (by simpa [find_test, hd] using h)]

/-- Writing a verdict changes the session, unless the verdict is written a second time within
one second. -/
theorem same_with_verdict {test_id : String} (result : TestResult)
    (details : List NamedTestResult) (now : TimePoint) {test : TestRecord}
    (h : find_test m.tests test_id = some test) :
    m.Same (m.with_verdict test_id result details now) ↔
      mark_completed result details (iso_timestamp now) test = test ∧
        m.updated_at = iso_timestamp now := by
  rw [← modify_test_eq_self h]
  constructor
  · intro hsame
    have htests := congrArg SessionManager.tests hsame
    have hupdated := congrArg SessionManager.updated_at hsame
    exact ⟨htests, hupdated.symm⟩
  · rintro ⟨htests, hupdated⟩
    unfold SessionManager.Same SessionManager.with_verdict SessionManager.with_test
    rw [htests, ← hupdated]

theorem SessionManager.Same.symm {m m' : SessionManager} (h : m.Same m') : m'.Same m := by
  unfold SessionManager.Same at *
  rw [h]

theorem SessionManager.Same.trans_symm {m m' m'' : SessionManager} (h : m.Same m'')
    (h' : m'.Same m'') : m.Same m' := h.trans h'.symm

theorem same_stored {m' : SessionManager} {disk : Disk} :
    m'.Same (stored cJSON disk m).manager ↔ m'.Same m :=
  ⟨fun h => h.trans_symm .of_eq, fun h => h.trans .of_eq⟩

/-- A call that fails on a session `m'` in a file that describes it is atomic for any other
session iff that is the same. -/
theorem atomic_iff_same {m' : SessionManager} (hfalse : r.2 = false) (hsame : m'.Same r.1.manager)
    (hdescribes : Describes cJSON r.1.disk m') : Atomic cJSON w r ↔ w.manager.Same m' := by
  constructor
  · exact fun hatomic => (hatomic hfalse).1.trans_symm hsame
  · exact fun hm _ => ⟨hm.trans hsame, hdescribes.same hm.symm⟩

theorem atomic_complete_test (h : Proper cJSON w) {test_id : String} {result : TestResult}
    {details : List NamedTestResult} {a : Answers} :
    Atomic cJSON w (complete_test cJSON w test_id result details a) ↔
      ¬ LeavesVerdict cJSON w (.complete_test test_id result details a) := by
  rcases @complete_test_spec cJSON w test_id a result details with
    ⟨hr, hnot⟩ | ⟨test, m, htest, rfl, hpersists, ⟨hnot, hr⟩ | ⟨hfinished, hr⟩⟩
  · refine iff_of_true (hr.atomic h.describes) ?_
    cases htest : active_test w.manager test_id with
    | none => simp only [LeavesVerdict, htest, not_false_eq_true]
    | some test =>
      simp only [LeavesVerdict, htest]
      exact fun hleaves => hnot test htest hleaves.1
  · refine iff_of_true (atomic_of_true (by rw [hr])) ?_
    simp only [LeavesVerdict, htest]
    exact fun hleaves => hnot ⟨(active_test_eq_some htest).1, hleaves.2.1⟩
  · obtain ⟨hactive, hfind⟩ := active_test_eq_some htest
    have hproper := h.move (.store _ (.complete_test test_id result details a.now test hactive
      hfind) hpersists.2.2)
    have hchanges := same_with_verdict result details a.now hfind
    have hleaves : LeavesVerdict cJSON w (.complete_test test_id result details a) ↔
        ¬ (WritesResult cJSON ((w.manager.with_verdict test_id result details a.now).finalized
            a.now_next) a.write_result ∧
          Persists cJSON ((w.manager.with_verdict test_id result details a.now).finalized
            a.now_next) a.write_next) ∧
        ¬ w.manager.Same (w.manager.with_verdict test_id result details a.now) := by
      simp only [LeavesVerdict, htest, hpersists, hfinished.2, true_and, hchanges, not_and_or,
        ne_eq]
    rw [hleaves, hr]
    generalize hm : w.manager.with_verdict test_id result details a.now = m at *
    rcases @finalize_spec cJSON (stored cJSON w.disk m) a.now_next a.write_next a.write_result with
      ⟨hcompleted, -⟩ | ⟨hr', hwrites⟩ | ⟨-, hwrites, ⟨hnot, hr'⟩ | hr'⟩
    · exact absurd (of_decide_eq_true hfinished.1) (by
        rw [show m.state = .COMPLETED from hcompleted]
        decide)
    · have hiff := atomic_iff_same (w := w) hr'.1 hr'.2.1 (by rw [hr'.2.2]; exact hproper.describes)
      rw [hiff, same_stored, not_and_not_right]
      exact ⟨fun h _ => h, fun h => h fun hboth => hwrites ⟨hfinished, hboth.1⟩⟩
    · have hnamed : (stored cJSON w.disk m).manager.Named :=
        hproper.named (by rw [show (stored cJSON w.disk m).manager.state = .IN_PROGRESS from
          of_decide_eq_true hfinished.1]; decide)
      have hiff := atomic_iff_same (w := w) hr'.1 hr'.2.1
        (by rw [hr'.2.2]; exact hproper.describes.result hnamed)
      rw [hiff, with_result, same_stored, not_and_not_right]
      exact ⟨fun h _ => h, fun h => h fun hboth => hnot hboth.2⟩
    · exact iff_of_true hr'.atomic fun h => h.1 ⟨hwrites, hr'.1⟩

/-- In every world that the program can reach, an operation that returns false leaves the
session and what its file says as they were, unless a verdict is left behind. -/
theorem atomic_iff (cJSON : CJsonLibrary) (hcJSON : cJSON.Lossless) (directory : String)
    (hdirectory : NulFree directory) (steps : List ProgramStep) (op : Operation) :
    let w := ((program cJSON directory).run ⟨{}, []⟩ steps).state
    Atomic cJSON w (operate cJSON w op) ↔ ¬ LeavesVerdict cJSON w op := by
  intro w
  have h : Proper cJSON w := proper_run hcJSON hdirectory steps
  cases op with
  | set_current_test test_id a =>
    refine iff_of_true ?_ id
    rcases @set_current_test_spec cJSON w test_id a with hr | hr | ⟨-, -, hr⟩
    · exact atomic_of_true (by rw [operate, hr])
    · exact hr.atomic h.describes
    · exact hr.atomic
  | begin_test test_id a =>
    refine iff_of_true ?_ id
    rcases @begin_test_spec cJSON w test_id a with hr | ⟨_, -, -, -, hr⟩
    · exact hr.atomic h.describes
    · exact hr.atomic
  | record_evidence test_id evidence a =>
    refine iff_of_true ?_ id
    rcases @record_evidence_spec cJSON w test_id a evidence with hr | ⟨_, -, -, -, -, hr⟩
    · exact hr.atomic h.describes
    · exact hr.atomic
  | complete_test test_id result details a => exact atomic_complete_test h
  | finalize a => exact iff_of_true (atomic_finalize h) id
  | abandon a =>
    refine iff_of_true ?_ id
    rcases @abandon_spec cJSON w a with ⟨-, hr⟩ | ⟨-, hr | hr⟩
    · exact atomic_of_true (by rw [operate, hr])
    · exact hr.atomic h.describes
    · exact hr.atomic

/-- A session of one test is started. -/
def sampleSteps : List ProgramStep := [.start_new [⟨"input", "Input Test"⟩] {} { now := sampleNow }]

/-- The session file cannot be replaced while the test begins, and nothing changes. -/
theorem atomic_sample :
    let w := ((program JsonText.jsonText "/sessions").run ⟨{}, []⟩ sampleSteps).state
    Atomic JsonText.jsonText w (operate JsonText.jsonText w
      (.begin_test "input" { now := sampleLater, write := .sync_error })) :=
  (atomic_iff JsonText.jsonText JsonText.lossless_jsonText "/sessions" (by decide) sampleSteps
    (.begin_test "input" { now := sampleLater, write := .sync_error })).2 (by decide +kernel)

/-- The result file cannot be replaced after the last verdict was written, and the verdict
stays. -/
def leavingCall : Operation :=
  .complete_test "input" .PASS [] { now := sampleLater, write_result := .rename_error "EROFS" }

theorem verdict_left_behind :
    ¬ ∀ (cJSON : CJsonLibrary) (directory : String) (steps : List ProgramStep) (op : Operation),
      cJSON.Lossless → NulFree directory →
        let w := ((program cJSON directory).run ⟨{}, []⟩ steps).state
        Atomic cJSON w (operate cJSON w op) := by
  intro hclaim
  have hatomic := hclaim JsonText.jsonText "/sessions" sampleSteps leavingCall
    JsonText.lossless_jsonText (by decide)
  obtain ⟨hsame, -⟩ := hatomic (by decide +kernel)
  have htests := congrArg SessionManager.tests hsame
  exact absurd htests (by decide +kernel)

end

end FactoryTest.Session

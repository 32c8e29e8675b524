import FactoryTest.Json.Text
import FactoryTest.Lib.Run
import FactoryTest.Session.Manager
import Mathlib.Logic.Relation

/-!
# What the operations of a session can do

An operation of `SessionManager` either refuses, or writes a changed session to its file and
keeps the change (`stored`), or fails to write it and takes the change back. Each operation has
one lemma that says which changes it can make (`set_current_test_spec` and its siblings); what
follows about sessions is proved from these.

`complete_test` is the exception: with the last test it goes on to `finalize`, and what that
takes back is only its own change (`complete_test_spec`).
-/

namespace FactoryTest.Session

/-! ## Timestamps -/

theorem buffer_text_ne_empty {c : Char} {text : List Char} : buffer_text (c :: text) ≠ "" := by
  intro h
  have hlist := congrArg String.toList h
  simp [buffer_text] at hlist

theorem padded_ne_nil (width n : ℕ) : padded width n ≠ [] := by
  unfold padded
  intro h
  exact absurd (List.append_eq_nil_iff.1 h).2 Nat.toDigits_ne_nil

/-- A timestamp is never empty. -/
theorem iso_timestamp_ne_empty (now : TimePoint) : iso_timestamp now ≠ "" := by
  unfold iso_timestamp
  obtain ⟨c, rest, h⟩ := List.exists_cons_of_ne_nil (padded_ne_nil 4 (now.tm_year + 1900))
  rw [h]
  exact buffer_text_ne_empty

/-! ## Writing a session -/

namespace SessionManager

/-- The managers differ at most in `last_error`. -/
def Same (m m' : SessionManager) : Prop := m' = { m with last_error := m'.last_error }

theorem Same.refl (m : SessionManager) : m.Same m := rfl

theorem Same.of_eq {m : SessionManager} {e : String} : m.Same { m with last_error := e } := rfl

theorem Same.trans {m m' m'' : SessionManager} (h : m.Same m') (h' : m'.Same m'') :
    m.Same m'' := by
  unfold Same at *
  rw [h', h]

theorem Same.tests {m m' : SessionManager} (h : m.Same m') : m'.tests = m.tests := by
  rw [h]

theorem Same.state {m m' : SessionManager} (h : m.Same m') : m'.state = m.state := by
  rw [h]

end SessionManager

section

variable (cJSON : CJsonLibrary)

/-- The text that `persist` writes for a manager. -/
def session_text (m : SessionManager) : Option String := print_json cJSON m.session_document true

/-- The world after the session `m` was written and kept. -/
def stored (disk : Disk) (m : SessionManager) : World :=
  ⟨{ m with last_error := "" }, Function.update disk m.session_path (session_text cJSON m)⟩

/-- The file of a session that was written has its text. -/
theorem stored_disk_self (disk : Disk) (m : SessionManager) :
    (stored cJSON disk m).disk m.session_path = session_text cJSON m := Function.update_self ..

theorem stored_disk_of_ne {path : String} {m : SessionManager} (h : path ≠ m.session_path)
    (disk : Disk) : (stored cJSON disk m).disk path = disk path := Function.update_of_ne h ..

variable {cJSON} {w w' : World} {now : TimePoint} {write : WriteAnswer}

/-- Writing the session goes through: there are a path and a text, and the file is replaced. -/
def Persists (cJSON : CJsonLibrary) (m : SessionManager) (write : WriteAnswer) : Prop :=
  write = .written ∧ m.session_path ≠ "" ∧ (session_text cJSON m).isSome

instance (m : SessionManager) : Decidable (Persists cJSON m write) := by
  unfold Persists
  infer_instance

theorem write_text_file_atomic_ok {disk disk' : Disk} {path text : String}
    (h : write_text_file_atomic disk path text write = .ok disk') :
    write = .written ∧ disk' = Function.update disk path (some text) := by
  cases write <;> first | exact ⟨rfl, (Except.ok.inj h).symm⟩ | cases h

theorem write_text_file_atomic_error {disk : Disk} {path text error : String}
    (h : write_text_file_atomic disk path text write = .error error) : write ≠ .written := by
  rintro rfl
  cases h

/-- `persist` on a session that has a time of its last change. -/
theorem persist_eq (hupdated : w.manager.updated_at ≠ "") :
    persist cJSON w now write =
      if w.manager.session_path = "" then
        ({ w with manager := w.manager.set_error "session path is empty" }, false)
      else
        match session_text cJSON w.manager with
        | none => ({ w with manager := w.manager.set_error "failed to format session JSON" }, false)
        | some text =>
          match write_text_file_atomic w.disk w.manager.session_path text write with
          | .error write_error =>
            ({ w with manager := w.manager.set_error (nonempty_or write_error
              "failed to format session JSON") }, false)
          | .ok disk => (⟨{ w.manager with last_error := "" }, disk⟩, true) := by
  unfold persist
  dsimp only
  rw [if_neg hupdated]
  rfl

/-- A `persist` that goes through replaces the session file. -/
theorem persist_true (hupdated : w.manager.updated_at ≠ "")
    (h : Persists cJSON w.manager write) :
    persist cJSON w now write = (stored cJSON w.disk w.manager, true) := by
  obtain ⟨rfl, hpath, htext⟩ := h
  obtain ⟨text, htext⟩ := Option.isSome_iff_exists.1 htext
  rw [persist_eq hupdated, if_neg hpath, htext, stored, htext]
  rfl

/-- A `persist` that fails leaves the disk and the session as they are. -/
theorem persist_false (now : TimePoint) (hupdated : w.manager.updated_at ≠ "")
    (h : ¬ Persists cJSON w.manager write) :
    ∃ message, persist cJSON w now write =
      ({ w with manager := w.manager.set_error message }, false) := by
  rw [persist_eq hupdated]
  split
  · exact ⟨_, rfl⟩
  case isFalse hpath =>
    split
    · exact ⟨_, rfl⟩
    case h_2 text htext =>
      split
      · exact ⟨_, rfl⟩
      case h_2 disk hdisk =>
        exact absurd ⟨(write_text_file_atomic_ok hdisk).1, hpath, by rw [htext]; rfl⟩ h

theorem persist_cases (hupdated : w.manager.updated_at ≠ "") :
    Persists cJSON w.manager write ∧
      persist cJSON w now write = (stored cJSON w.disk w.manager, true) ∨
      ∃ message, persist cJSON w now write =
        ({ w with manager := w.manager.set_error message }, false) := by
  by_cases h : Persists cJSON w.manager write
  · exact .inl ⟨h, persist_true hupdated h⟩
  · exact .inr (persist_false now hupdated h)

/-! ## The operations -/

/-- The call returned false and changed nothing but `last_error`. -/
def Unchanged (w : World) (r : World × Bool) : Prop :=
  r.2 = false ∧ w.manager.Same r.1.manager ∧ r.1.disk = w.disk

/-- The call wrote the session `m` and kept it. -/
def Stored (cJSON : CJsonLibrary) (w : World) (m : SessionManager) (write : WriteAnswer)
    (r : World × Bool) : Prop :=
  Persists cJSON m write ∧ r = (stored cJSON w.disk m, true)

/-- Writing a changed session and taking the change back if that fails. -/
theorem persist_or_restore_spec (m : SessionManager) (restore : SessionManager → SessionManager)
    (now : TimePoint) (write : WriteAnswer) (hupdated : m.updated_at ≠ "")
    (hrestore : ∀ message, w.manager.Same (restore (m.set_error message))) :
    ¬ Persists cJSON m write ∧ Unchanged w (persist_or_restore cJSON w m restore now write) ∨
      Stored cJSON w m write (persist_or_restore cJSON w m restore now write) := by
  unfold persist_or_restore
  by_cases hpersists : Persists cJSON m write
  · rw [persist_true (w := { w with manager := m }) hupdated hpersists]
    exact .inr ⟨hpersists, rfl⟩
  · obtain ⟨message, hpersist⟩ :=
      persist_false (w := { w with manager := m }) now hupdated hpersists
    rw [hpersist]
    exact .inl ⟨hpersists, rfl, hrestore message, rfl⟩

/-- A changed session that can be written is kept. -/
theorem persist_or_restore_true {m : SessionManager} {restore : SessionManager → SessionManager}
    (hupdated : m.updated_at ≠ "") (h : Persists cJSON m write) :
    persist_or_restore cJSON w m restore now write = (stored cJSON w.disk m, true) := by
  unfold persist_or_restore
  rw [persist_true (w := { w with manager := m }) hupdated h]

theorem persist_or_restore_cases (m : SessionManager)
    (restore : SessionManager → SessionManager) (now : TimePoint) (write : WriteAnswer)
    (hupdated : m.updated_at ≠ "") (hrestore : ∀ message, w.manager.Same (restore
      (m.set_error message))) :
    Unchanged w (persist_or_restore cJSON w m restore now write) ∨
      Stored cJSON w m write (persist_or_restore cJSON w m restore now write) :=
  (persist_or_restore_spec m restore now write hupdated hrestore).imp_left And.right

variable {test_id : String} {a : Answers}

/-- The session that `abandon` makes. -/
def SessionManager.abandoned (m : SessionManager) (now : TimePoint) : SessionManager :=
  { m with state := .ABANDONED, current_test_id := "", updated_at := iso_timestamp now }

theorem abandon_spec :
    w.manager.state ≠ .IN_PROGRESS ∧ abandon cJSON w a = (w, true) ∨
    w.manager.state = .IN_PROGRESS ∧
      (Unchanged w (abandon cJSON w a) ∨
        Stored cJSON w (w.manager.abandoned a.now) a.write (abandon cJSON w a)) := by
  unfold abandon
  dsimp only
  split
  case isTrue hstate => exact .inl ⟨hstate, rfl⟩
  case isFalse hstate =>
    refine .inr ⟨not_not.1 hstate,
      persist_or_restore_cases _ _ _ _ (iso_timestamp_ne_empty a.now) fun _ => rfl⟩

theorem set_current_test_spec :
    set_current_test cJSON w test_id a = (w, true) ∨
    Unchanged w (set_current_test cJSON w test_id a) ∨
    w.manager.active = true ∧ (find_test w.manager.tests test_id).isSome ∧
      Stored cJSON w { w.manager with
        current_test_id := test_id, updated_at := iso_timestamp a.now } a.write
        (set_current_test cJSON w test_id a) := by
  unfold set_current_test
  dsimp only
  split
  · exact .inr (.inl ⟨rfl, rfl, rfl⟩)
  case isFalse hrefuse =>
    split
    · exact .inl rfl
    · obtain ⟨hactive, hfind⟩ : w.manager.active = true ∧
          (find_test w.manager.tests test_id).isSome := by
        simpa [← Option.isSome_iff_ne_none] using hrefuse
      refine .inr ((persist_or_restore_cases _ _ _ _ (iso_timestamp_ne_empty a.now)
        fun message => ?_).imp_right fun h => ⟨hactive, hfind, h⟩)
      rfl

theorem active_test_eq_some {m : SessionManager} {test : TestRecord}
    (h : active_test m test_id = some test) :
    m.active = true ∧ find_test m.tests test_id = some test := by
  unfold active_test at h
  split at h
  case isTrue hactive => exact ⟨hactive, h⟩
  · cases h

/-- The session with the change `f` of the record of one test. -/
def SessionManager.with_test (m : SessionManager) (test_id : String)
    (f : TestRecord → TestRecord) (now : TimePoint) : SessionManager :=
  { m with tests := modify_test test_id f m.tests, updated_at := iso_timestamp now }

theorem begin_test_spec :
    Unchanged w (begin_test cJSON w test_id a) ∨
    ∃ test, w.manager.active = true ∧ find_test w.manager.tests test_id = some test ∧
      test.completed = false ∧
      Stored cJSON w { w.manager.with_test test_id (begin_attempt (iso_timestamp a.now)) a.now with
        current_test_id := test_id } a.write (begin_test cJSON w test_id a) := by
  unfold begin_test
  dsimp only
  split
  · exact .inl ⟨rfl, rfl, rfl⟩
  case h_2 test htest =>
    obtain ⟨hactive, hfind⟩ := active_test_eq_some htest
    split
    · exact .inl ⟨rfl, rfl, rfl⟩
    case isFalse hcompleted =>
      refine (persist_or_restore_cases _ _ _ _ (iso_timestamp_ne_empty a.now)
        fun message => ?_).imp_right fun h =>
          ⟨test, hactive, hfind, Bool.eq_false_iff.2 hcompleted, h⟩
      simp only [SessionManager.Same, SessionManager.set_error,
        modify_test_restore hfind begin_attempt_id]

/-- Changing the record of one test and taking that back if the write fails. -/
theorem with_test_or_restore_spec {test : TestRecord} {f : TestRecord → TestRecord}
    (hfind : find_test w.manager.tests test_id = some test) (hf : ∀ t, (f t).id = t.id)
    (now : TimePoint) (write : WriteAnswer) :
    ¬ Persists cJSON (w.manager.with_test test_id f now) write ∧
      Unchanged w (persist_or_restore cJSON w (w.manager.with_test test_id f now)
        (fun m' => { m' with
          tests := modify_test test_id (fun _ => test) m'.tests
          updated_at := w.manager.updated_at }) now write) ∨
    Stored cJSON w (w.manager.with_test test_id f now) write
      (persist_or_restore cJSON w (w.manager.with_test test_id f now)
        (fun m' => { m' with
          tests := modify_test test_id (fun _ => test) m'.tests
          updated_at := w.manager.updated_at }) now write) := by
  refine persist_or_restore_spec _ _ _ _ (iso_timestamp_ne_empty now) fun message => ?_
  simp only [SessionManager.Same, SessionManager.with_test, SessionManager.set_error,
    modify_test_restore hfind hf]

theorem record_evidence_spec {evidence : TestEvidence} :
    Unchanged w (record_evidence cJSON w test_id evidence a) ∨
    ∃ test, w.manager.active = true ∧ find_test w.manager.tests test_id = some test ∧
      test.completed = false ∧ evidence.entries.all valid_evidence = true ∧
      Stored cJSON w (w.manager.with_test test_id (add_evidence (iso_timestamp a.now) evidence)
        (if test.attempted then a.now else a.now_next)) a.write
        (record_evidence cJSON w test_id evidence a) := by
  unfold record_evidence
  dsimp only
  split
  · exact .inl ⟨rfl, rfl, rfl⟩
  case h_2 test htest =>
    obtain ⟨hactive, hfind⟩ := active_test_eq_some htest
    split
    · exact .inl ⟨rfl, rfl, rfl⟩
    case isFalse hrefuse =>
      have hcompleted : test.completed = false := by
        simp_all
      split
      · exact .inl ⟨rfl, rfl, rfl⟩
      case isFalse hvalid =>
        exact (with_test_or_restore_spec hfind (add_evidence_id _ _) _ _).imp And.right
          fun h => ⟨test, hactive, hfind, hcompleted, by simpa using hvalid, h⟩

/-! ## Completing a session -/

/-- The session that `finalize` makes. -/
def SessionManager.finalized (m : SessionManager) (now : TimePoint) : SessionManager :=
  { m with
    state := .COMPLETED
    completed_at := iso_timestamp now
    updated_at := iso_timestamp now
    current_test_id := "" }

/-- The world once the result file of the session is written. -/
def with_result (cJSON : CJsonLibrary) (w : World) (now : TimePoint) : World :=
  ⟨w.manager, Function.update w.disk w.manager.result_path
    ((w.manager.finalized now).build_result_json cJSON true)⟩

theorem with_result_disk_of_ne {path : String} (h : path ≠ w.manager.result_path) :
    (with_result cJSON w now).disk path = w.disk path := Function.update_of_ne h ..

/-- The session is in progress and has a verdict for every test. -/
def SessionManager.finished (m : SessionManager) : Prop :=
  m.active = true ∧ m.tests.length ≤ next_incomplete_index m.tests

/-- Writing the result file of the session goes through. -/
def WritesResult (cJSON : CJsonLibrary) (m : SessionManager) (write : WriteAnswer) : Prop :=
  write = .written ∧ (m.build_result_json cJSON true).isSome

instance (m : SessionManager) : Decidable (WritesResult cJSON m write) := by
  unfold WritesResult
  infer_instance

/-- `write_result` writes the result file or does nothing. -/
theorem write_result_spec :
    (∃ message, write_result cJSON w write =
      ({ w with manager := w.manager.set_error message }, false)) ∧
      ¬ WritesResult cJSON w.manager write ∨
    write_result cJSON w write = (⟨w.manager, Function.update w.disk w.manager.result_path
        (w.manager.build_result_json cJSON true)⟩, true) ∧
      WritesResult cJSON w.manager write := by
  unfold write_result
  dsimp only
  split
  case h_1 htext =>
    refine .inl ⟨⟨_, rfl⟩, fun h => ?_⟩
    rw [WritesResult, htext] at h
    exact absurd h.2 Bool.false_ne_true
  case h_2 text htext =>
    split
    case h_1 hdisk => exact .inl ⟨⟨_, rfl⟩, fun h => write_text_file_atomic_error hdisk h.1⟩
    case h_2 disk hdisk =>
      obtain ⟨hwritten, rfl⟩ := write_text_file_atomic_ok hdisk
      exact .inr ⟨by rw [htext], hwritten, by rw [htext]; rfl⟩

/-- `finalize` refuses, or fails before the result file is written, or fails after that, or
completes the session. -/
theorem finalize_spec {write_result_answer : WriteAnswer} :
    w.manager.state = .COMPLETED ∧
      finalize cJSON w now write_result_answer write = (w, true) ∨
    Unchanged w (finalize cJSON w now write_result_answer write) ∧
      ¬ (w.manager.finished ∧
        WritesResult cJSON (w.manager.finalized now) write_result_answer) ∨
    w.manager.finished ∧ WritesResult cJSON (w.manager.finalized now) write_result_answer ∧
      (¬ Persists cJSON (w.manager.finalized now) write ∧
        Unchanged (with_result cJSON w now) (finalize cJSON w now write_result_answer write) ∨
        Stored cJSON (with_result cJSON w now) (w.manager.finalized now) write
          (finalize cJSON w now write_result_answer write)) := by
  unfold finalize
  dsimp only
  split
  case isTrue hstate => exact .inl ⟨hstate, rfl⟩
  · split
    case isTrue hrefuse =>
      refine .inr (.inl ⟨⟨rfl, rfl, rfl⟩, ?_⟩)
      rintro ⟨hfinished, -⟩
      simp only [hfinished.1, Bool.not_true, Bool.false_or, decide_eq_true_eq] at hrefuse
      exact absurd hfinished.2 (not_le.2 hrefuse)
    case isFalse hrefuse =>
      have hfinished : w.manager.finished := by
        simpa [SessionManager.finished] using hrefuse
      rcases @write_result_spec cJSON ⟨w.manager.finalized now, w.disk⟩ write_result_answer with
        ⟨⟨message, hresult⟩, hwrites⟩ | ⟨hresult, hwrites⟩
      · simp only [SessionManager.finalized] at hresult
        rw [hresult]
        exact .inr (.inl ⟨⟨rfl, rfl, rfl⟩, fun h => hwrites h.2⟩)
      · refine .inr (.inr ⟨hfinished, hwrites, ?_⟩)
        simp only [SessionManager.finalized] at hresult
        rw [hresult]
        -- Only the disk of the world that is persisted matters, so its manager may be the old one.
        exact persist_or_restore_spec (w := with_result cJSON w now) (w.manager.finalized now)
          (fun m' => { m' with
            state := w.manager.state
            completed_at := w.manager.completed_at
            updated_at := w.manager.updated_at
            current_test_id := w.manager.current_test_id })
          now write (iso_timestamp_ne_empty now) fun _ => rfl

/-- The session that `complete_test` makes before it finalizes. -/
def SessionManager.with_verdict (m : SessionManager) (test_id : String) (result : TestResult)
    (details : List NamedTestResult) (now : TimePoint) : SessionManager :=
  m.with_test test_id (mark_completed result details (iso_timestamp now)) now

/-- `complete_test` refuses, or keeps a verdict; the last one it hands on to `finalize`. -/
theorem complete_test_spec {result : TestResult} {details : List NamedTestResult} :
    (Unchanged w (complete_test cJSON w test_id result details a) ∧
      ∀ test, active_test w.manager test_id = some test →
        ¬ Persists cJSON (w.manager.with_verdict test_id result details a.now) a.write) ∨
    ∃ test m, active_test w.manager test_id = some test ∧
      m = w.manager.with_verdict test_id result details a.now ∧ Persists cJSON m a.write ∧
      (¬ m.finished ∧
        complete_test cJSON w test_id result details a = (stored cJSON w.disk m, true) ∨
      m.finished ∧
        complete_test cJSON w test_id result details a =
          finalize cJSON (stored cJSON w.disk m) a.now_next a.write_result a.write_next) := by
  unfold complete_test
  dsimp only
  split
  case h_1 hnone =>
    refine .inl ⟨⟨rfl, rfl, rfl⟩, fun test htest => ?_⟩
    rw [hnone] at htest
    cases htest
  case h_2 test htest =>
    obtain ⟨hactive, hfind⟩ := active_test_eq_some htest
    have hid (t : TestRecord) :
        (mark_completed result details (iso_timestamp a.now) t).id = t.id := mark_completed_id t
    have hspec := @with_test_or_restore_spec cJSON w test_id test _ hfind hid a.now a.write
    split
    case h_1 w' hpersist =>
      rcases hspec with ⟨hpersists, h⟩ | ⟨-, h⟩
      · exact .inl ⟨hpersist ▸ h, fun _ _ => hpersists⟩
      · cases hpersist.symm.trans h
    case h_2 w' hpersist =>
      rcases hspec with ⟨-, h⟩ | ⟨hpersists, h⟩
      · cases (congrArg Prod.snd hpersist).symm.trans h.1
      · obtain rfl : w' = _ := congrArg Prod.fst (hpersist.symm.trans h)
        refine .inr ⟨test, _, htest, rfl, hpersists, ?_⟩
        split
        case isTrue hall => exact .inr ⟨⟨hactive, hall⟩, rfl⟩
        case isFalse hnot => exact .inl ⟨fun hfinished => hnot hfinished.2, rfl⟩

/-! ## Starting and recovering a session -/

/-- `start_new` refuses or fails to abandon the session in progress, or it writes a new session
to the disk that is left, and starts from an empty manager if that fails. -/
theorem start_new_spec {directory : String} {tests : List TestDefinition}
    {metadata : SessionMetadata} :
    Unchanged w (start_new cJSON directory w tests metadata a) ∨
    ∃ disk now write, (disk = w.disk ∨ w.manager.state = .IN_PROGRESS ∧
        Persists cJSON (w.manager.abandoned a.now) a.write ∧
        disk = (stored cJSON w.disk (w.manager.abandoned a.now)).disk) ∧
      ((∃ message, start_new cJSON directory w tests metadata a =
        (⟨{ last_error := message }, disk⟩, false)) ∨
      tests ≠ [] ∧ valid_plan tests [] = true ∧
        Persists cJSON (new_session directory tests metadata now) write ∧
        start_new cJSON directory w tests metadata a =
          (stored cJSON disk (new_session directory tests metadata now), true)) := by
  unfold start_new
  dsimp only
  split
  · exact .inl ⟨rfl, rfl, rfl⟩
  case isFalse hempty =>
    split
    · exact .inl ⟨rfl, rfl, rfl⟩
    case isFalse hvalid =>
      replace hempty : tests ≠ [] := by simpa using hempty
      replace hvalid : valid_plan tests [] = true := by simpa using hvalid
      have hnew (disk : Disk) (now : TimePoint) (write : WriteAnswer) := @persist_cases cJSON
        ⟨new_session directory tests metadata now, disk⟩ now write (iso_timestamp_ne_empty now)
      by_cases hstate : w.manager.state = .IN_PROGRESS
      · simp only [if_pos hstate]
        rcases @abandon_spec cJSON { w with manager := { w.manager with last_error := "" } } a with
          ⟨h, -⟩ | ⟨-, ⟨hfalse, hsame, hdisk⟩ | ⟨hpersists, hok⟩⟩
        · exact absurd hstate h
        · rw [← Prod.eta (abandon _ _ _), hfalse]
          exact .inl ⟨rfl, hsame, hdisk⟩
        · obtain ⟨disk, hdisk⟩ : ∃ disk, disk =
            (stored cJSON w.disk (w.manager.abandoned a.now)).disk := ⟨_, rfl⟩
          obtain ⟨m, hm⟩ : ∃ m, abandon cJSON
            { w with manager := { w.manager with last_error := "" } } a = (⟨m, disk⟩, true) := by
            subst hdisk
            exact ⟨_, hok⟩
          rw [hm]
          refine .inr ⟨disk, a.now_next, a.write_next, .inr ⟨hstate, hpersists, hdisk⟩, ?_⟩
          rcases hnew disk a.now_next a.write_next with ⟨htext, h⟩ | ⟨message, h⟩
          · exact .inr ⟨hempty, hvalid, htext, by dsimp only; rw [h]⟩
          · exact .inl ⟨message, by dsimp only; rw [h]; rfl⟩
      · simp only [if_neg hstate]
        refine .inr ⟨w.disk, a.now, a.write, .inl rfl, ?_⟩
        rcases hnew w.disk a.now a.write with ⟨htext, h⟩ | ⟨message, h⟩
        · exact .inr ⟨hempty, hvalid, htext, by rw [h]⟩
        · exact .inl ⟨message, by rw [h]; rfl⟩

/-- `load_latest_recoverable` finds nothing to recover, or takes the session that the latest
session file holds. -/
theorem load_latest_recoverable_spec {directory : String} {plan : List TestDefinition}
    {listing : Listing} :
    load_latest_recoverable cJSON directory w plan listing = (reset w, false) ∨
    ∃ filename m, latest_session listing = some filename ∧
      load_text cJSON (path_join directory filename)
        (read_text_file w.disk (path_join directory filename)) plan = some m ∧
      load_latest_recoverable cJSON directory w plan listing = (⟨m, w.disk⟩, true) := by
  unfold load_latest_recoverable
  split
  · exact .inl rfl
  case h_2 filename hfilename =>
    dsimp only
    split
    · exact .inl rfl
    case h_2 m hload => exact .inr ⟨filename, m, hfilename, hload, rfl⟩

/-! ## Runs -/

/-- A call of one of the operations of a session, with the answers that the call gets. -/
inductive Operation
  | set_current_test (test_id : String) (a : Answers)
  | begin_test (test_id : String) (a : Answers)
  | record_evidence (test_id : String) (evidence : TestEvidence) (a : Answers)
  | complete_test (test_id : String) (result : TestResult) (details : List NamedTestResult)
    (a : Answers)
  | finalize (a : Answers)
  | abandon (a : Answers)

end

/-- The world after the call, and what the call returned. -/
def operate (cJSON : CJsonLibrary) (w : World) : Operation → World × Bool
  | .set_current_test test_id a => set_current_test cJSON w test_id a
  | .begin_test test_id a => begin_test cJSON w test_id a
  | .record_evidence test_id evidence a => record_evidence cJSON w test_id evidence a
  | .complete_test test_id result details a => complete_test cJSON w test_id result details a
  | .finalize a => finalize cJSON w a.now a.write_result a.write
  | .abandon a => abandon cJSON w a

/-! ## Moves -/

/-- The changes of a session that one write of its file keeps. -/
inductive Change (m : SessionManager) : SessionManager → Prop
  | set_current_test (test_id : String) (now : TimePoint) (hactive : m.active = true)
      (hfind : (find_test m.tests test_id).isSome) :
      Change m { m with current_test_id := test_id, updated_at := iso_timestamp now }
  | begin_test (test_id : String) (now : TimePoint) (test : TestRecord)
      (hactive : m.active = true) (hfind : find_test m.tests test_id = some test)
      (hcompleted : test.completed = false) :
      Change m { m.with_test test_id (begin_attempt (iso_timestamp now)) now with
        current_test_id := test_id }
  | record_evidence (test_id : String) (evidence : TestEvidence) (now updated_now : TimePoint)
      (test : TestRecord) (hactive : m.active = true)
      (hfind : find_test m.tests test_id = some test) (hcompleted : test.completed = false)
      (hvalid : evidence.entries.all valid_evidence = true) :
      Change m (m.with_test test_id (add_evidence (iso_timestamp now) evidence) updated_now)
  | complete_test (test_id : String) (result : TestResult) (details : List NamedTestResult)
      (now : TimePoint) (test : TestRecord) (hactive : m.active = true)
      (hfind : find_test m.tests test_id = some test) :
      Change m (m.with_verdict test_id result details now)
  | finalize (now : TimePoint) (hfinished : m.finished) : Change m (m.finalized now)
  | abandon (now : TimePoint) (hstate : m.state = .IN_PROGRESS) : Change m (m.abandoned now)

/-- What every change of a record keeps, a change of the session keeps of every record. -/
theorem Change.forall_tests {m m' : SessionManager} (hchange : Change m m')
    {P : TestRecord → Prop} (hbegin : ∀ now t, P t → P (begin_attempt now t))
    (hadd : ∀ now (evidence : TestEvidence), evidence.entries.all valid_evidence = true →
      ∀ t, P t → P (add_evidence now evidence t))
    (hmark : ∀ result details now t, P t → P (mark_completed result details now t))
    (h : ∀ t ∈ m.tests, P t) : ∀ t ∈ m'.tests, P t := by
  have hmodify (test_id : String) {f : TestRecord → TestRecord} (hf : ∀ t, P t → P (f t)) :
      ∀ t ∈ modify_test test_id f m.tests, P t := by
    intro t ht
    rcases mem_modify_test ht with ht | ⟨d, hd, rfl⟩
    · exact h t ht
    · exact hf d (h d (mem_of_find_test hd))
  cases hchange with
  | set_current_test | finalize | abandon => exact h
  | begin_test test_id => exact hmodify test_id (hbegin _)
  | record_evidence test_id evidence _ _ _ _ _ _ hvalid =>
    exact hmodify test_id (hadd _ evidence hvalid)
  | complete_test test_id => exact hmodify test_id (hmark _ _ _)

/-- A change notes its time. -/
theorem Change.updated_at_ne_empty {m m' : SessionManager} (hchange : Change m m') :
    m'.updated_at ≠ "" := by
  cases hchange <;> exact iso_timestamp_ne_empty _

theorem Change.paths {m m' : SessionManager} (hchange : Change m m') :
    m'.session_id = m.session_id ∧ m'.session_path = m.session_path ∧
      m'.result_path = m.result_path := by
  cases hchange <;> exact ⟨rfl, rfl, rfl⟩

/-- One move of an operation: note an error, write a changed session and keep the change, or
write the result file. -/
inductive Move (cJSON : CJsonLibrary) (w : World) : World → Prop
  | fail (message : String) : Move cJSON w { w with manager := w.manager.set_error message }
  | store (m : SessionManager) (h : Change w.manager m) (htext : (session_text cJSON m).isSome) :
      Move cJSON w (stored cJSON w.disk m)
  | result (now : TimePoint) (hfinished : w.manager.finished) :
      Move cJSON w (with_result cJSON w now)

/-- An operation is a sequence of moves. -/
abbrev Moves (cJSON : CJsonLibrary) : World → World → Prop := Relation.ReflTransGen (Move cJSON)

section

variable {cJSON : CJsonLibrary} {w w' : World} {r : World × Bool} {m : SessionManager}
  {write : WriteAnswer}

/-- What every move preserves, an operation preserves. -/
theorem Moves.preserves {I : World → Prop} (hmove : ∀ w w', I w → Move cJSON w w' → I w')
    (h : Moves cJSON w w') (hw : I w) : I w' := by
  induction h with
  | refl => exact hw
  | tail _ hlast ih => exact hmove _ _ ih hlast

theorem Unchanged.moves (h : Unchanged w r) : Moves cJSON w r.1 := by
  obtain ⟨-, hsame, hdisk⟩ := h
  have hr : r.1 = { w with manager := w.manager.set_error r.1.manager.last_error } := by
    rw [← hdisk, SessionManager.set_error, ← hsame]
  rw [hr]
  exact .single (.fail _)

theorem Stored.moves (h : Stored cJSON w m write r) (hm : Change w.manager m) :
    Moves cJSON w r.1 := by
  rw [h.2]
  exact .single (.store m hm h.1.2.2)

theorem moves_finalize {now : TimePoint} {write_result : WriteAnswer} :
    Moves cJSON w (finalize cJSON w now write_result write).1 := by
  rcases @finalize_spec cJSON w now write write_result with
    ⟨-, h⟩ | ⟨h, -⟩ | ⟨hfinished, -, ⟨-, h⟩ | h⟩
  · rw [h]
  · exact h.moves
  · exact .head (.result now hfinished) h.moves
  · exact .head (.result now hfinished) (h.moves (.finalize now hfinished))

theorem moves_operate (op : Operation) : Moves cJSON w (operate cJSON w op).1 := by
  cases op with
  | set_current_test test_id a =>
    rcases @set_current_test_spec cJSON w test_id a with h | h | ⟨hactive, hfind, h⟩
    · rw [operate, h]
    · exact h.moves
    · exact h.moves (.set_current_test test_id a.now hactive hfind)
  | begin_test test_id a =>
    rcases @begin_test_spec cJSON w test_id a with h | ⟨test, hactive, hfind, hcompleted, h⟩
    · exact h.moves
    · exact h.moves (.begin_test test_id a.now test hactive hfind hcompleted)
  | record_evidence test_id evidence a =>
    rcases @record_evidence_spec cJSON w test_id a evidence with
      h | ⟨test, hactive, hfind, hcompleted, hvalid, h⟩
    · exact h.moves
    · exact h.moves
        (.record_evidence test_id evidence a.now _ test hactive hfind hcompleted hvalid)
  | complete_test test_id result details a =>
    rcases @complete_test_spec cJSON w test_id a result details with
      ⟨h, -⟩ | ⟨test, m, htest, rfl, hpersists, ⟨-, h⟩ | ⟨-, h⟩⟩
    · exact h.moves
    all_goals
      obtain ⟨hactive, hfind⟩ := active_test_eq_some htest
      have hstore := Move.store (w := w) _
        (.complete_test test_id result details a.now test hactive hfind) hpersists.2.2
      rw [operate, h]
    · exact .single hstore
    · exact .head hstore moves_finalize
  | finalize a => exact moves_finalize
  | abandon a =>
    rcases @abandon_spec cJSON w a with ⟨-, h⟩ | ⟨hstate, h | h⟩
    · rw [operate, h]
    · exact h.moves
    · exact h.moves (.abandon a.now hstate)

end

/-- The operations of one session as a machine that shows what each call returned. -/
def session (cJSON : CJsonLibrary) : Machine World Operation Bool where
  step w op := ((operate cJSON w op).1, [(operate cJSON w op).2])

/-! ## A session of two tests -/

def sampleNow : TimePoint where
  tm_year := 126
  tm_mon := 10
  tm_mday := 18
  tm_hour := 9
  tm_min := 30
  tm_sec := 0
  milliseconds := 1794994200000

/-- One second later. -/
def sampleLater : TimePoint := { sampleNow with tm_sec := 1, milliseconds := 1794994201000 }

def samplePlan : List TestDefinition := [⟨"input", "Input Test"⟩, ⟨"display", "Display Test"⟩]

/-- The session is started on an empty disk. -/
def sampleStart : World :=
  (start_new JsonText.jsonText "/sessions" {} samplePlan {} { now := sampleNow }).1

end FactoryTest.Session

import FactoryTest.Session.Operations
import FactoryTest.TestSequence

/-!
# The view model

`AppViewModel` of `src/viewmodel/app_viewmodel.cpp`, as far as it takes the operator through the
tests: which test is current (`test_sequence_index`), whether a sequence is active, which page is
shown, and the session that the verdicts are stored in. Sounds, titles and the texts in the log
are left out.
-/

namespace FactoryTest.ViewModel

open Session

/-! ## The view model -/

/-- `AppViewModel`, with the flags of its `model_` and the files of its `session_manager_`. -/
structure AppViewModel where
  test_sequence_active : Bool := false
  current_page : AppPage := .START
  session : World := {}
  test_sequence_index : ℕ := 0

namespace AppViewModel

/-- The records of the session: `test_records`. -/
abbrev records (s : AppViewModel) : List TestRecord := s.session.manager.tests

/-- `show_page_`. -/
def show_page (s : AppViewModel) (page : AppPage) : AppViewModel := { s with current_page := page }

/-- `show_start_page`. -/
def show_start_page (s : AppViewModel) : AppViewModel :=
  { s with test_sequence_active := false }.show_page .START

/-- `show_single_test_page`. -/
def show_single_test_page (s : AppViewModel) (page : AppPage) : AppViewModel :=
  { s with test_sequence_active := false }.show_page page

/-- `show_test_result_page`. -/
def show_test_result_page (s : AppViewModel) : AppViewModel := s.show_page .TEST_RESULT

section

variable (cJSON : CJsonLibrary) (directory : String) (product_model : ProductModel)

/-- `load_recoverable_test_session`. -/
def load_recoverable_test_session (s : AppViewModel) (listing : Listing) : AppViewModel × Bool :=
  let r := load_latest_recoverable cJSON directory s.session (test_sequence_plan product_model)
    listing
  ({ s with session := r.1 }, r.2)

/-- `open_test_sequence_item_`. -/
def open_test_sequence_item (s : AppViewModel) (index : ℕ) (a : Answers) : AppViewModel × Bool :=
  match sequence_item product_model index with
  | none => (s.show_start_page, false)
  | some item =>
    match set_current_test cJSON s.session item.id a with
    | (session, false) => ({ s with session := session }.show_start_page, false)
    | (session, true) => ({ s with session := session }.show_page item.page, true)

/-- `start_full_test_sequence`. The first answers are for `start_new`. -/
def start_full_test_sequence (s : AppViewModel) (metadata : SessionMetadata) (a b : Answers) :
    AppViewModel × Bool :=
  match start_new cJSON directory s.session (test_sequence_plan product_model) metadata a with
  | (session, false) => ({ s with session := session }, false)
  | (session, true) =>
    let s := { s with session := session, test_sequence_active := true, test_sequence_index := 0 }
    match s.open_test_sequence_item cJSON product_model s.test_sequence_index b with
    | (s, false) => ({ s with test_sequence_active := false }, false)
    | (s, true) => (s, true)

/-- `resume_full_test_sequence`, from where a session is loaded. The answers are for `finalize`
or for `set_current_test`. -/
def resume_loaded (s : AppViewModel) (a : Answers) : AppViewModel × Bool :=
  let s := { s with test_sequence_index := next_incomplete_index s.records }
  if test_sequence_size product_model ≤ s.test_sequence_index then
    match finalize cJSON s.session a.now a.write_result a.write with
    | (session, false) => ({ s with session := session }, false)
    | (session, true) =>
      ({ s with session := session, test_sequence_active := false }.show_test_result_page, true)
  else
    match { s with test_sequence_active := true }.open_test_sequence_item cJSON product_model
        s.test_sequence_index a with
    | (s, false) => ({ s with test_sequence_active := false }, false)
    | (s, true) => (s, true)

/-- `resume_full_test_sequence`. -/
def resume_full_test_sequence (s : AppViewModel) (listing : Listing) (a : Answers) :
    AppViewModel × Bool :=
  if s.session.manager.recoverable then s.resume_loaded cJSON product_model a
  else
    match s.load_recoverable_test_session cJSON directory product_model listing with
    | (s, false) => (s, false)
    | (s, true) => s.resume_loaded cJSON product_model a

/-- The item whose test is current, while a sequence is active. -/
def current_item (s : AppViewModel) : Option TestSequenceItem :=
  if s.test_sequence_active then sequence_item product_model s.test_sequence_index else none

/-- `begin_current_test_attempt`. -/
def begin_current_test_attempt (s : AppViewModel) (a : Answers) : AppViewModel × Bool :=
  match s.current_item product_model with
  | none => (s, false)
  | some item =>
    let r := begin_test cJSON s.session item.id a
    ({ s with session := r.1 }, r.2)

/-- `record_current_test_evidence`. -/
def record_current_test_evidence (s : AppViewModel) (evidence : TestEvidence) (a : Answers) :
    AppViewModel × Bool :=
  match s.current_item product_model with
  | none => (s, false)
  | some item =>
    let r := record_evidence cJSON s.session item.id evidence a
    ({ s with session := r.1 }, r.2)

/-- `record_current_test_evidence` of a single value. -/
def record_current_test_value (s : AppViewModel) (key : String) (value : EvidenceValue)
    (a : Answers) : AppViewModel × Bool :=
  match s.current_item product_model with
  | none => (s, false)
  | some item =>
    let r := record_evidence_value cJSON s.session item.id key value a
    ({ s with session := r.1 }, r.2)

/-- `advance_test_sequence_`. -/
def advance_test_sequence (s : AppViewModel) (a : Answers) : AppViewModel :=
  if !s.test_sequence_active then s.show_start_page
  else
    let s := { s with test_sequence_index := s.test_sequence_index + 1 }
    match sequence_item product_model s.test_sequence_index with
    | some item =>
      match set_current_test cJSON s.session item.id a with
      | (session, false) =>
        { s with session := session, test_sequence_active := false }.show_start_page
      | (session, true) => { s with session := session }.show_page item.page
    | none => { s with test_sequence_active := false }.show_test_result_page

/-- `complete_current_test`. The first answers are for `complete_test`. -/
def complete_current_test (s : AppViewModel) (result : TestResult) (a b : Answers) :
    AppViewModel :=
  if s.test_sequence_active then
    match sequence_item product_model s.test_sequence_index with
    | none => s
    | some item =>
      match complete_test cJSON s.session item.id result [] a with
      | (session, false) => { s with session := session }
      | (session, true) => { s with session := session }.advance_test_sequence cJSON product_model b
  else s.advance_test_sequence cJSON product_model b

/-- `complete_current_test_with_details`. The first answers are for `record_evidence`, the
second ones for `complete_test`. -/
def complete_current_test_with_details (s : AppViewModel) (result : TestResult)
    (detail_results : List NamedTestResult) (e a b : Answers) : AppViewModel :=
  if s.test_sequence_active then
    match sequence_item product_model s.test_sequence_index with
    | none => s
    | some item =>
      let session :=
        if detail_results.isEmpty then s.session
        else (record_evidence_value cJSON s.session item.id "subtest_count"
          (.number (.ofNat detail_results.length)) e).1
      match complete_test cJSON session item.id result detail_results a with
      | (session, false) => { s with session := session }
      | (session, true) => { s with session := session }.advance_test_sequence cJSON product_model b
  else s.advance_test_sequence cJSON product_model b

end

end AppViewModel

/-! ## Calls -/

/-- A call of the view model, with the answers that it gets; or the program is started again. -/
inductive Call
  | start_full_test_sequence (metadata : SessionMetadata) (a b : Answers)
  | resume_full_test_sequence (listing : Listing) (a : Answers)
  | begin_current_test_attempt (a : Answers)
  | record_current_test_evidence (evidence : TestEvidence) (a : Answers)
  | record_current_test_value (key : String) (value : EvidenceValue) (a : Answers)
  | complete_current_test (result : TestResult) (a b : Answers)
  | complete_current_test_with_details (result : TestResult)
    (detail_results : List NamedTestResult) (e a b : Answers)
  | show_single_test_page (page : AppPage)
  | show_start_page
  | load_recoverable_test_session (listing : Listing)
  | relaunch

/-- The view model after the call, and what the call returned if it returns anything. -/
def call (cJSON : CJsonLibrary) (directory : String) (product_model : ProductModel)
    (s : AppViewModel) : Call → AppViewModel × List Bool
  | .start_full_test_sequence metadata a b =>
    let r := s.start_full_test_sequence cJSON directory product_model metadata a b
    (r.1, [r.2])
  | .resume_full_test_sequence listing a =>
    let r := s.resume_full_test_sequence cJSON directory product_model listing a
    (r.1, [r.2])
  | .begin_current_test_attempt a =>
    let r := s.begin_current_test_attempt cJSON product_model a
    (r.1, [r.2])
  | .record_current_test_evidence evidence a =>
    let r := s.record_current_test_evidence cJSON product_model evidence a
    (r.1, [r.2])
  | .record_current_test_value key value a =>
    let r := s.record_current_test_value cJSON product_model key value a
    (r.1, [r.2])
  | .complete_current_test result a b =>
    (s.complete_current_test cJSON product_model result a b, [])
  | .complete_current_test_with_details result detail_results e a b =>
    (s.complete_current_test_with_details cJSON product_model result detail_results e a b, [])
  | .show_single_test_page page => (s.show_single_test_page page, [])
  | .show_start_page => (s.show_start_page, [])
  | .load_recoverable_test_session listing =>
    let r := s.load_recoverable_test_session cJSON directory product_model listing
    (r.1, [r.2])
  | .relaunch => ({ session := reset s.session }, [])

/-- A recoverable session is looked for only while no sequence is active. -/
def Call.Allowed (s : AppViewModel) : Call → Prop
  | .load_recoverable_test_session _ => s.test_sequence_active = false
  | _ => True

/-- The program. -/
def app (cJSON : CJsonLibrary) (directory : String) (product_model : ProductModel) :
    Machine AppViewModel Call Bool where
  step := call cJSON directory product_model

/-! ## Items and records -/

section

variable {product_model : ProductModel} {item : TestSequenceItem}

theorem current_item_eq_some {s : AppViewModel}
    (h : s.current_item product_model = some item) :
    s.test_sequence_active = true ∧
      sequence_item product_model s.test_sequence_index = some item := by
  unfold AppViewModel.current_item at h
  split_ifs at h with hactive
  exact ⟨hactive, h⟩

theorem current_item_of_active {s : AppViewModel} (hactive : s.test_sequence_active = true)
    (h : sequence_item product_model s.test_sequence_index = some item) :
    s.current_item product_model = some item :=
  (if_pos hactive).trans h

end

end FactoryTest.ViewModel

import FactoryTest.Input.Router
import FactoryTest.Lib.History
import FactoryTest.ViewModel.AppViewModel

/-!
# The Pass/Fail dialog

`TestConfirmDialog`, the part of `BaseScreen` that shows it, and `complete_current_test` of
`AppViewModel`. The page is left as soon as another one is shown; what the session manager answers
comes with the key.

**Theorem (`never_stuck_iff`).** The dialog never gets stuck if and only if no verdict fails to be
saved: after a failed save the button stays triggered, so that the dialog ignores every key, and
keys go past it to the page.
-/

namespace FactoryTest.View

open Input Session

/-! ## The test sequence -/

/-- What can be seen of a verdict: the calls of `complete_current_test` and of the session manager,
and the pages that are shown. -/
inductive Call
  | complete_current_test (result : TestResult)
  | complete_test (test_id : String) (result : TestResult)
  | set_current_test (test_id : String)
  | show_page (page : AppPage)
  deriving DecidableEq

/-- What `complete_test` and `set_current_test` of the session manager return. -/
structure SessionAnswers where
  complete_test : Bool
  set_current_test : Bool
  deriving DecidableEq

/-- What the pages see of the `AppViewModel`: its test sequence, but no session. -/
structure TestSequence where
  product_model : ProductModel
  test_sequence_active : Bool
  test_sequence_index : ℕ
  deriving DecidableEq

namespace TestSequence

/-- `sequence_item`. -/
def sequence_item (app : TestSequence) : Option TestSequenceItem :=
  FactoryTest.sequence_item app.product_model app.test_sequence_index

/-- `show_start_page`. -/
def show_start_page (app : TestSequence) : TestSequence × List Call :=
  ({ app with test_sequence_active := false }, [.show_page .START])

/-- `advance_test_sequence_`. -/
def advance_test_sequence_ (app : TestSequence) (answers : SessionAnswers) :
    TestSequence × List Call :=
  if !app.test_sequence_active then app.show_start_page
  else
    let app := { app with test_sequence_index := app.test_sequence_index + 1 }
    match app.sequence_item with
    | some item =>
      if !answers.set_current_test then
        let shown := show_start_page { app with test_sequence_active := false }
        (shown.1, .set_current_test item.id :: shown.2)
      else (app, [.set_current_test item.id, .show_page item.page])
    | none => ({ app with test_sequence_active := false }, [.show_page .TEST_RESULT])

/-- `complete_current_test`. -/
def complete_current_test (app : TestSequence) (result : TestResult) (answers : SessionAnswers) :
    TestSequence × List Call :=
  if app.test_sequence_active then
    match app.sequence_item with
    | none => (app, [.complete_current_test result])
    | some item =>
      if !answers.complete_test then
        (app, [.complete_current_test result, .complete_test item.id result])
      else
        let advanced := app.advance_test_sequence_ answers
        (advanced.1, .complete_current_test result :: .complete_test item.id result :: advanced.2)
  else
    let advanced := app.advance_test_sequence_ answers
    (advanced.1, .complete_current_test result :: advanced.2)

/-- What the pages see of this view model. -/
def of (product_model : ProductModel) (s : ViewModel.AppViewModel) : TestSequence :=
  ⟨product_model, s.test_sequence_active, s.test_sequence_index⟩

/-- The page that is shown after calls. -/
def page_after (page : AppPage) (calls : List Call) : AppPage :=
  calls.foldl (fun page call => match call with
    | .show_page page' => page'
    | _ => page) page

section

variable (cJSON : CJsonLibrary) (product_model : ProductModel) (s : ViewModel.AppViewModel)

theorem advance_test_sequence_of (b : Answers) (complete_test : Bool) :
    ∃ set_current_test, let answers : SessionAnswers := ⟨complete_test, set_current_test⟩
      of product_model (s.advance_test_sequence cJSON product_model b) =
        ((of product_model s).advance_test_sequence_ answers).1 ∧
      (s.advance_test_sequence cJSON product_model b).current_page =
        page_after s.current_page ((of product_model s).advance_test_sequence_ answers).2 := by
  unfold ViewModel.AppViewModel.advance_test_sequence advance_test_sequence_ sequence_item of
  dsimp only
  cases s.test_sequence_active with
  | false => exact ⟨false, rfl, rfl⟩
  | true =>
    cases hitem : FactoryTest.sequence_item product_model (s.test_sequence_index + 1) with
    | none => exact ⟨false, rfl, rfl⟩
    | some item =>
      refine ⟨(set_current_test cJSON s.session item.id b).2, ?_⟩
      dsimp only
      rcases set_current_test cJSON s.session item.id b with ⟨session, _ | _⟩
      · exact ⟨rfl, rfl⟩
      · exact ⟨rfl, rfl⟩

/-- What the pages see of the view model is what it does, for the answers of its session. -/
theorem complete_current_test_of (result : TestResult) (a b : Answers) :
    ∃ answers, of product_model (s.complete_current_test cJSON product_model result a b) =
        ((of product_model s).complete_current_test result answers).1 ∧
      (s.complete_current_test cJSON product_model result a b).current_page =
        page_after s.current_page
          ((of product_model s).complete_current_test result answers).2 := by
  have hactive : (of product_model s).test_sequence_active = s.test_sequence_active := rfl
  have hitem : (of product_model s).sequence_item =
    FactoryTest.sequence_item product_model s.test_sequence_index := rfl
  unfold ViewModel.AppViewModel.complete_current_test complete_current_test
  simp only [hactive, hitem]
  split_ifs
  · cases FactoryTest.sequence_item product_model s.test_sequence_index with
    | none => exact ⟨⟨false, false⟩, rfl, rfl⟩
    | some item =>
      dsimp only
      rcases complete_test cJSON s.session item.id result [] a with ⟨session, _ | _⟩
      · exact ⟨⟨false, false⟩, rfl, rfl⟩
      · obtain ⟨set_current_test, hadvance, hpage⟩ :=
          advance_test_sequence_of cJSON product_model { s with session } b true
        exact ⟨⟨true, set_current_test⟩, hadvance, hpage⟩
  · obtain ⟨set_current_test, hadvance, hpage⟩ :=
      advance_test_sequence_of cJSON product_model s b false
    exact ⟨⟨false, set_current_test⟩, hadvance, hpage⟩

end

end TestSequence

/-! ## The dialog -/

/-- A key, with its name if it has one. -/
structure Key where
  key : UInt32
  key_name : Option String
  deriving DecidableEq

namespace Key

/-- `key_name_is_one_of_`. -/
def key_name_is_one_of_ (k : Key) (a b c : String) : Bool :=
  match k.key_name with
  | none => false
  | some name => name = a || name = b || name = c

/-- `is_previous_key_`. -/
def is_previous_key_ (k : Key) : Bool :=
  k.key = LV_KEY_LEFT || k.key = 'z'.val || k.key = 'Z'.val ||
    k.key_name_is_one_of_ "Left" "KEY_105" "Z"

/-- `is_next_key_`. -/
def is_next_key_ (k : Key) : Bool :=
  k.key = LV_KEY_RIGHT || k.key = 'c'.val || k.key = 'C'.val ||
    k.key_name_is_one_of_ "Right" "KEY_106" "C"

/-- `is_enter_key_`. -/
def is_enter_key_ (k : Key) : Bool :=
  k.key = LV_KEY_ENTER || k.key = '\r'.val || k.key_name_is_one_of_ "Enter" "Return" "KEY_96"

/-- `is_cancel_key_`. -/
def is_cancel_key_ (k : Key) : Bool :=
  k.key = LV_KEY_ESC || k.key_name_is_one_of_ "Esc" "Escape" "KEY_1"

/-- `is_dialog_cancel_key`. -/
def is_dialog_cancel_key (k : Key) : Bool :=
  k.key = LV_KEY_ESC || k.key = 27 || k.key = '4'.val ||
    k.key_name_is_one_of_ "Esc" "Escape" "KEY_1"

end Key

/-- `TestConfirmDialog::ButtonRole`. -/
inductive ButtonRole
  | FAIL
  | PASS
  deriving DecidableEq

/-- `TestConfirmDialog`; `core_obj` says whether it is there, and the buttons are their roles. -/
structure TestConfirmDialog where
  core_obj : Bool := false
  buttons : List ButtonRole := []
  focused_button_index : ℕ := 0
  action_triggered : Bool := false
  deriving DecidableEq

namespace TestConfirmDialog

/-- `add_button_`. -/
def add_button_ (d : TestConfirmDialog) (role : ButtonRole) : TestConfirmDialog :=
  if 2 ≤ d.buttons.length then d else { d with buttons := d.buttons ++ [role] }

/-- `add_buttons_`. -/
def add_buttons_ (d : TestConfirmDialog) : TestConfirmDialog :=
  let d := (d.add_button_ .FAIL).add_button_ .PASS
  { d with focused_button_index := d.buttons.length - 1 }

/-- `build`. -/
def build (d : TestConfirmDialog) : TestConfirmDialog :=
  if d.core_obj then d else add_buttons_ { d with core_obj := true }

def visible (d : TestConfirmDialog) : Bool := d.core_obj

/-- `close`. -/
def close (_ : TestConfirmDialog) : TestConfirmDialog := {}

/-- `move_focus_`. -/
def move_focus_ (d : TestConfirmDialog) (direction : ℤ) : TestConfirmDialog :=
  if d.buttons.length = 0 ∨ direction = 0 then d
  else
    let count : ℤ := d.buttons.length
    let next : ℤ := d.focused_button_index + if 0 < direction then 1 else -1
    let next := if next < 0 then count - 1 else if count ≤ next then 0 else next
    { d with focused_button_index := next.toNat }

/-- The role of the focused button, if there is one. -/
def focused (d : TestConfirmDialog) : Option ButtonRole := d.buttons[d.focused_button_index]?

/-- `trigger_focused_button_`, with the button whose action runs. -/
def trigger_focused_button_ (d : TestConfirmDialog) : TestConfirmDialog × Option ButtonRole :=
  match d.focused with
  | none => (d, none)
  | some role => ({ d with action_triggered := true }, some role)

/-- `handle_key`: the dialog, whether the key was handled, and the button whose action runs. -/
def handle_key (d : TestConfirmDialog) (k : Key) : TestConfirmDialog × Bool × Option ButtonRole :=
  if !d.visible || d.action_triggered then (d, false, none)
  else if k.is_previous_key_ then (d.move_focus_ (-1), true, none)
  else if k.is_next_key_ then (d.move_focus_ 1, true, none)
  else if k.is_enter_key_ then
    let triggered := d.trigger_focused_button_
    (triggered.1, true, triggered.2)
  else if k.is_cancel_key_ then (d.close, true, none)
  else (d, false, none)

end TestConfirmDialog

/-! ## The screen -/

/-- `BaseScreen`, with the modal flag of the router and the view model. -/
structure BaseScreen where
  root : Bool
  test_result_dialog : Option TestConfirmDialog := none
  modal_key_capture : Bool := false
  app : TestSequence
  deriving DecidableEq

/-- The result that the action of a button completes the test with. -/
def ButtonRole.result : ButtonRole → TestResult
  | .FAIL => .FAIL
  | .PASS => .PASS

namespace BaseScreen

/-- The dialog is there and can be seen. -/
def visible (s : BaseScreen) : Bool :=
  match s.test_result_dialog with
  | some dialog => dialog.visible
  | none => false

/-- `show_test_result_dialog_`. -/
def show_test_result_dialog_ (s : BaseScreen) : BaseScreen :=
  if !s.root then s
  else if s.visible then s
  else
    { s with
      test_result_dialog := some (TestConfirmDialog.build {})
      modal_key_capture := true }

/-- `pass_action` and `fail_action`. -/
def action (s : BaseScreen) (role : ButtonRole) (answers : SessionAnswers) :
    BaseScreen × List Call :=
  let completed := s.app.complete_current_test role.result answers
  ({ s with modal_key_capture := false, app := completed.1 }, completed.2)

/-- `handle_test_result_dialog_key_`; the action of a button runs inside it. -/
def handle_test_result_dialog_key_ (s : BaseScreen) (k : Key) (answers : SessionAnswers) :
    BaseScreen × Bool × List Call :=
  match s.test_result_dialog with
  | none => (s, false, [])
  | some dialog =>
    let cancel_key := k.is_dialog_cancel_key
    let (dialog, handled, triggered) := dialog.handle_key k
    let s := { s with test_result_dialog := some dialog }
    let (s, calls) := match triggered with
      | some role => s.action role answers
      | none => (s, [])
    if handled && cancel_key && !s.visible then
      ({ s with test_result_dialog := none, modal_key_capture := false }, handled, calls)
    else (s, handled, calls)

end BaseScreen

/-- Something that happens on the page. -/
inductive DialogEvent
  | show_test_result_dialog_
  | key (k : Key) (answers : SessionAnswers)

/-- What can be seen of an event: the screen before it, and the calls. -/
structure Seen where
  event : DialogEvent
  before : BaseScreen
  calls : List Call

/-- The screen while the dialog is asked for and keys come in. -/
def dialog : Machine BaseScreen DialogEvent Seen where
  step s e :=
    match e with
    | .show_test_result_dialog_ => (s.show_test_result_dialog_, [⟨e, s, []⟩])
    | .key k answers =>
      let handled := s.handle_test_result_dialog_key_ k answers
      (handled.1, [⟨e, s, handled.2.2⟩])

/-! ## The property -/

/-- The key is Enter for the dialog. -/
def Key.enters (k : Key) : Bool := !k.is_previous_key_ && !k.is_next_key_ && k.is_enter_key_

/-- The key is Esc for the dialog. -/
def Key.cancels (k : Key) : Bool :=
  !k.is_previous_key_ && !k.is_next_key_ && !k.is_enter_key_ && k.is_cancel_key_

/-- The result that a call completes the test with. -/
def Call.verdict : Call → Option TestResult
  | .complete_current_test result => some result
  | _ => none

/-- The results that the test is completed with. -/
def verdicts (calls : List Call) : List TestResult := calls.filterMap Call.verdict

/-- The call shows another page. -/
def Call.leaves : Call → Bool
  | .show_page _ => true
  | _ => false

/-- Another page has been shown. -/
def left (history : List Seen) : Bool := history.any fun o => o.calls.any Call.leaves

/-- The button that has the focus. -/
def BaseScreen.focused (s : BaseScreen) : Option ButtonRole :=
  s.test_result_dialog.bind TestConfirmDialog.focused

/-- The results that an event is to complete the test with: for Enter on a dialog that can be seen
it is that of the focused button. -/
def Seen.expected (o : Seen) : List TestResult :=
  match o.event with
  | .show_test_result_dialog_ => []
  | .key k _ =>
    if o.before.visible && k.enters then (o.before.focused.map ButtonRole.result).toList else []

/-- The dialog is not stuck, unless the page has been left: keys are captured while it can be seen,
every activation completed the test once with the focused button's result, and the next Enter and
Esc work. A test whose verdict was recorded has left the page. -/
structure NeverStuck (c : Config BaseScreen Seen) : Prop where
  modal : left c.history = false → (c.state.modal_key_capture = true ↔ c.state.visible = true)
  once : Justified (fun before o => left before = false → verdicts o.calls = o.expected) c.history
  enter : left c.history = false → c.state.visible = true → ∀ k answers, k.enters = true →
    ∃ role, c.state.focused = some role ∧
      verdicts (c.state.handle_test_result_dialog_key_ k answers).2.2 = [role.result]
  escape : left c.history = false → c.state.visible = true → ∀ k answers, k.cancels = true →
    (c.state.handle_test_result_dialog_key_ k answers).1.visible = false ∧
      (c.state.handle_test_result_dialog_key_ k answers).1.modal_key_capture = false ∧
      (c.state.handle_test_result_dialog_key_ k answers).2.2 = []

/-- The verdict of the current test cannot be saved. -/
def TestSequence.save_fails (app : TestSequence) (answers : SessionAnswers) : Bool :=
  app.test_sequence_active && (app.sequence_item.isNone || !answers.complete_test)

/-- Enter on a dialog that can be seen, with a verdict that cannot be saved. -/
def FailedSave (c : Config BaseScreen Seen) (e : DialogEvent) : Prop :=
  left c.history = false ∧ c.state.visible = true ∧
    match e with
    | .show_test_result_dialog_ => False
    | .key k answers => k.enters = true ∧ c.state.app.save_fails answers = true

/-! ## The view model -/

namespace TestSequence

variable (app : TestSequence) (result : TestResult) (answers : SessionAnswers)

/-- Advancing shows a page, and completes nothing. -/
theorem advance_spec : verdicts (app.advance_test_sequence_ answers).2 = [] ∧
    (app.advance_test_sequence_ answers).2.any Call.leaves = true := by
  unfold advance_test_sequence_
  cases app.test_sequence_active with
  | false => exact ⟨rfl, rfl⟩
  | true =>
    rw [if_neg (by simp)]
    dsimp only
    split
    · split <;> exact ⟨rfl, rfl⟩
    · exact ⟨rfl, rfl⟩

/-- The test is completed once, and the page is left unless the verdict cannot be saved. -/
theorem complete_spec : verdicts (app.complete_current_test result answers).2 = [result] ∧
    (app.complete_current_test result answers).2.any Call.leaves = !app.save_fails answers := by
  obtain ⟨hverdicts, hleaves⟩ := app.advance_spec answers
  unfold complete_current_test save_fails
  cases hactive : app.test_sequence_active with
  | false =>
    rw [if_neg Bool.false_ne_true]
    exact ⟨congrArg (result :: ·) hverdicts, hleaves⟩
  | true =>
    rw [if_pos rfl]
    cases app.sequence_item with
    | none => exact ⟨rfl, rfl⟩
    | some item =>
      cases answers.complete_test with
      | false => exact ⟨rfl, rfl⟩
      | true => exact ⟨congrArg (result :: ·) hverdicts, hleaves⟩

end TestSequence

/-! ## The dialog while it works -/

namespace TestConfirmDialog

/-- The dialog after `build`, with a focus. -/
def opened (index : ℕ) : TestConfirmDialog := ⟨true, [.FAIL, .PASS], index, false⟩

variable {index : ℕ} {k : Key}

theorem move_focus_opened (hindex : index < 2) {direction : ℤ} (hdirection : direction ≠ 0) :
    ∃ next, next < 2 ∧ (opened index).move_focus_ direction = opened next := by
  unfold move_focus_ opened
  rw [if_neg (by simp [hdirection])]
  refine ⟨_, ?_, rfl⟩
  simp only [List.length_cons, List.length_nil]
  split <;> split <;> omega

theorem focused_opened (hindex : index < 2) : ∃ role, (opened index).focused = some role :=
  ⟨_, List.getElem?_eq_getElem (by simpa [opened] using hindex)⟩

theorem handle_key_enters (hk : k.enters = true) {role : ButtonRole}
    (hrole : (opened index).focused = some role) :
    (opened index).handle_key k =
      ({ opened index with action_triggered := true }, true, some role) := by
  simp only [Key.enters, Bool.and_eq_true, Bool.not_eq_true'] at hk
  have htriggered : (opened index).trigger_focused_button_ =
      ({ opened index with action_triggered := true }, some role) := by
    unfold trigger_focused_button_
    rw [hrole]
  unfold handle_key
  rw [htriggered]
  simp [hk, visible, opened]

theorem handle_key_cancels (hk : k.cancels = true) :
    (opened index).handle_key k = ({}, true, none) := by
  simp only [Key.cancels, Bool.and_eq_true, Bool.not_eq_true'] at hk
  unfold handle_key close
  simp [hk, visible, opened]

/-- Any other key moves the focus at most. -/
theorem handle_key_other (hindex : index < 2) (henters : k.enters = false)
    (hcancels : k.cancels = false) :
    ∃ next handled, next < 2 ∧ (opened index).handle_key k = (opened next, handled, none) := by
  unfold handle_key
  rw [if_neg (by simp [visible, opened])]
  by_cases hprevious : k.is_previous_key_ = true
  · obtain ⟨next, hnext, hmove⟩ := move_focus_opened hindex (show (-1 : ℤ) ≠ 0 by decide)
    exact ⟨next, true, hnext, by rw [if_pos hprevious, hmove]⟩
  rw [if_neg hprevious]
  by_cases hnext_key : k.is_next_key_ = true
  · obtain ⟨next, hnext, hmove⟩ := move_focus_opened hindex (show (1 : ℤ) ≠ 0 by decide)
    exact ⟨next, true, hnext, by rw [if_pos hnext_key, hmove]⟩
  rw [if_neg hnext_key]
  have henter : ¬ k.is_enter_key_ = true := by
    simpa [Key.enters, hprevious, hnext_key] using henters
  rw [if_neg henter]
  have hcancel : ¬ k.is_cancel_key_ = true := by
    simpa [Key.cancels, hprevious, hnext_key, henter] using hcancels
  exact ⟨index, false, hindex, by rw [if_neg hcancel]⟩

end TestConfirmDialog

/-! ## The screen while the dialog works -/

/-- The dialog is away, or it waits for a key. -/
inductive Ready (s : BaseScreen) : Prop
  | away (hdialog : s.test_result_dialog = none) (hmodal : s.modal_key_capture = false)
  | opened (index : ℕ) (hindex : index < 2)
      (hdialog : s.test_result_dialog = some (.opened index)) (hmodal : s.modal_key_capture = true)

namespace BaseScreen

variable {s : BaseScreen} {index : ℕ} {k : Key}

theorem visible_of_opened (hdialog : s.test_result_dialog = some (.opened index)) :
    s.visible = true := by
  unfold visible
  rw [hdialog]
  rfl

theorem visible_of_away (hdialog : s.test_result_dialog = none) : s.visible = false := by
  unfold visible
  rw [hdialog]

theorem focused_of_opened (hdialog : s.test_result_dialog = some (.opened index)) :
    s.focused = (TestConfirmDialog.opened index).focused := by
  unfold focused
  rw [hdialog]
  rfl

/-- Enter runs the action of the focused button. The button stays triggered. -/
theorem handle_enters (hdialog : s.test_result_dialog = some (.opened index))
    (hk : k.enters = true) {role : ButtonRole} (hrole : s.focused = some role)
    (answers : SessionAnswers) :
    s.handle_test_result_dialog_key_ k answers =
      ({ s with
          test_result_dialog :=
            some { TestConfirmDialog.opened index with action_triggered := true }
          modal_key_capture := false
          app := (s.app.complete_current_test role.result answers).1 },
        true, (s.app.complete_current_test role.result answers).2) := by
  rw [focused_of_opened hdialog] at hrole
  unfold handle_test_result_dialog_key_
  rw [hdialog]
  dsimp only
  rw [TestConfirmDialog.handle_key_enters hk hrole]
  exact if_neg (by simp [action, visible, TestConfirmDialog.visible, TestConfirmDialog.opened])

/-- Esc takes the dialog away. -/
theorem handle_cancels (hdialog : s.test_result_dialog = some (.opened index))
    (hk : k.cancels = true) (answers : SessionAnswers) :
    s.handle_test_result_dialog_key_ k answers =
      ({ s with test_result_dialog := none, modal_key_capture := false }, true, []) := by
  have hcancel : k.is_dialog_cancel_key = true := by
    simp only [Key.cancels, Key.is_cancel_key_, Bool.and_eq_true, Bool.or_eq_true] at hk
    simp only [Key.is_dialog_cancel_key, Bool.or_eq_true]
    exact hk.2.imp_left fun h => .inl (.inl h)
  unfold handle_test_result_dialog_key_
  rw [hdialog]
  dsimp only
  rw [TestConfirmDialog.handle_key_cancels hk, hcancel]
  rfl

theorem handle_other (hdialog : s.test_result_dialog = some (.opened index)) (hindex : index < 2)
    (henters : k.enters = false) (hcancels : k.cancels = false) (answers : SessionAnswers) :
    ∃ next handled, next < 2 ∧ s.handle_test_result_dialog_key_ k answers =
      ({ s with test_result_dialog := some (.opened next) }, handled, []) := by
  obtain ⟨next, handled, hnext, hkey⟩ :=
    TestConfirmDialog.handle_key_other hindex henters hcancels
  refine ⟨next, handled, hnext, ?_⟩
  unfold handle_test_result_dialog_key_
  rw [hdialog]
  dsimp only
  rw [hkey]
  exact if_neg (by simp [visible, TestConfirmDialog.visible, TestConfirmDialog.opened])

theorem handle_away (hdialog : s.test_result_dialog = none) (k : Key) (answers : SessionAnswers) :
    s.handle_test_result_dialog_key_ k answers = (s, false, []) := by
  unfold handle_test_result_dialog_key_
  rw [hdialog]

/-- A key gives the verdict that is expected. -/
theorem verdicts_key (hready : Ready s) (k : Key) (answers : SessionAnswers)
    (calls : List Call) (hcalls : calls = (s.handle_test_result_dialog_key_ k answers).2.2) :
    verdicts calls = (⟨.key k answers, s, calls⟩ : Seen).expected := by
  subst hcalls
  show _ = if s.visible && k.enters then _ else _
  cases hready with
  | away hdialog _ =>
    rw [handle_away hdialog, visible_of_away hdialog]
    rfl
  | opened index hindex hdialog _ =>
    rw [visible_of_opened hdialog]
    by_cases henters : k.enters = true
    · obtain ⟨role, hrole⟩ := TestConfirmDialog.focused_opened hindex
      rw [← focused_of_opened hdialog] at hrole
      rw [handle_enters hdialog henters hrole, henters, hrole]
      exact (s.app.complete_spec role.result answers).1
    · rw [if_neg (by simpa using henters)]
      by_cases hcancels : k.cancels = true
      · rw [handle_cancels hdialog hcancels]
        rfl
      · obtain ⟨next, handled, -, hkey⟩ := handle_other hdialog hindex
          (Bool.eq_false_iff.2 henters) (Bool.eq_false_iff.2 hcancels) answers
        rw [hkey]
        rfl

/-- A key after which the page stays leaves the dialog ready, if no save fails. -/
theorem ready_key (hready : Ready s) (k : Key) (answers : SessionAnswers)
    (hsaves : s.visible = true → k.enters = true → s.app.save_fails answers = false)
    (hstays : (s.handle_test_result_dialog_key_ k answers).2.2.any Call.leaves = false) :
    Ready (s.handle_test_result_dialog_key_ k answers).1 := by
  cases hready with
  | away hdialog hmodal =>
    rw [handle_away hdialog]
    exact .away hdialog hmodal
  | opened index hindex hdialog hmodal =>
    by_cases henters : k.enters = true
    · obtain ⟨role, hrole⟩ := TestConfirmDialog.focused_opened hindex
      rw [← focused_of_opened hdialog] at hrole
      have hleaves := (s.app.complete_spec role.result answers).2
      rw [hsaves (visible_of_opened hdialog) henters] at hleaves
      rw [handle_enters hdialog henters hrole, hleaves] at hstays
      cases hstays
    by_cases hcancels : k.cancels = true
    · rw [handle_cancels hdialog hcancels]
      exact .away rfl rfl
    · obtain ⟨next, handled, hnext, hkey⟩ := handle_other hdialog hindex
        (Bool.eq_false_iff.2 henters) (Bool.eq_false_iff.2 hcancels) answers
      rw [hkey]
      exact .opened next hnext rfl hmodal

end BaseScreen

/-! ## Every run -/

/-- As long as the page has not been left, the dialog works. -/
structure Works (c : Config BaseScreen Seen) : Prop where
  ready : left c.history = false → Ready c.state
  once : Justified (fun before o => left before = false → verdicts o.calls = o.expected) c.history

theorem Works.neverStuck {c : Config BaseScreen Seen} (h : Works c) : NeverStuck c := by
  refine ⟨fun hleft => ?_, h.once, fun hleft hvisible k answers hk => ?_,
    fun hleft hvisible k answers hk => ?_⟩
  · cases h.ready hleft with
    | away hdialog hmodal => rw [hmodal, BaseScreen.visible_of_away hdialog]
    | opened index hindex hdialog hmodal => rw [hmodal, BaseScreen.visible_of_opened hdialog]
  · cases h.ready hleft with
    | away hdialog _ => exact absurd hvisible (by simp [BaseScreen.visible_of_away hdialog])
    | opened index hindex hdialog _ =>
      obtain ⟨role, hrole⟩ := TestConfirmDialog.focused_opened hindex
      rw [← BaseScreen.focused_of_opened hdialog] at hrole
      refine ⟨role, hrole, ?_⟩
      rw [BaseScreen.handle_enters hdialog hk hrole answers]
      exact (c.state.app.complete_spec role.result answers).1
  · cases h.ready hleft with
    | away hdialog _ => exact absurd hvisible (by simp [BaseScreen.visible_of_away hdialog])
    | opened index hindex hdialog _ =>
      rw [BaseScreen.handle_cancels hdialog hk answers]
      exact ⟨rfl, rfl, rfl⟩

theorem left_concat (history : List Seen) (o : Seen) :
    left (history ++ [o]) = (left history || o.calls.any Call.leaves) := by
  unfold left
  rw [List.any_append]
  simp

/-- An event after which the dialog works. -/
theorem Works.concat {c : Config BaseScreen Seen} (h : Works c) {s : BaseScreen} {o : Seen}
    (hready : left c.history = false → o.calls.any Call.leaves = false → Ready s)
    (honce : left c.history = false → verdicts o.calls = o.expected) :
    Works ⟨s, c.history ++ [o]⟩ := by
  refine ⟨fun hleft => ?_, justified_concat.2 ⟨h.once, honce⟩⟩
  rw [left_concat, Bool.or_eq_false_iff] at hleft
  exact hready hleft.1 hleft.2

/-- The dialog keeps working, except through a save that fails. -/
theorem Works.next {c : Config BaseScreen Seen} (h : Works c) {e : DialogEvent}
    (he : ¬ FailedSave c e) : Works (dialog.next c e) := by
  cases e with
  | show_test_result_dialog_ =>
    refine h.concat (fun hleft _ => ?_) fun _ => rfl
    show Ready c.state.show_test_result_dialog_
    unfold BaseScreen.show_test_result_dialog_
    by_cases hroot : c.state.root = true
    · by_cases hvisible : c.state.visible = true
      · rw [if_neg (by simp [hroot]), if_pos hvisible]
        exact h.ready hleft
      · rw [if_neg (by simp [hroot]), if_neg hvisible]
        exact .opened 1 (by decide) rfl rfl
    · rw [if_pos (by simp [hroot])]
      exact h.ready hleft
  | key k answers =>
    refine h.concat (fun hleft hstays => ?_) fun hleft => ?_
    · refine BaseScreen.ready_key (h.ready hleft) k answers (fun hvisible henters => ?_) hstays
      by_contra hfails
      exact he ⟨hleft, hvisible, henters, by simpa using hfails⟩
    · exact BaseScreen.verdicts_key (h.ready hleft) k answers _ rfl

/-- A save that fails strands the dialog: it can still be seen, but keys are not captured. -/
theorem FailedSave.stuck {c : Config BaseScreen Seen} (h : Works c) {e : DialogEvent}
    (he : FailedSave c e) : ¬ NeverStuck (dialog.next c e) := by
  obtain ⟨hleft, hvisible, he⟩ := he
  cases e with
  | show_test_result_dialog_ => exact he.elim
  | key k answers =>
    obtain ⟨henters, hfails⟩ := he
    cases h.ready hleft with
    | away hdialog _ => exact absurd hvisible (by simp [BaseScreen.visible_of_away hdialog])
    | opened index hindex hdialog _ =>
      obtain ⟨role, hrole⟩ := TestConfirmDialog.focused_opened hindex
      rw [← BaseScreen.focused_of_opened hdialog] at hrole
      have hkey := BaseScreen.handle_enters hdialog henters hrole answers
      have hstays := (c.state.app.complete_spec role.result answers).2
      rw [hfails] at hstays
      intro hnext
      have hmodal := hnext.modal (by
        show left (c.history ++ [_]) = false
        rw [left_concat, hleft, hkey]
        exact hstays)
      have hstranded : (dialog.next c (.key k answers)).state =
          (c.state.handle_test_result_dialog_key_ k answers).1 := rfl
      rw [hstranded, hkey] at hmodal
      exact Bool.false_ne_true (hmodal.2 rfl)

/-- On every test page, in and out of a sequence, the dialog never gets stuck if and only if no
Enter finds a verdict that cannot be saved. -/
theorem never_stuck_iff (root : Bool) (app : TestSequence) (events : List DialogEvent) :
    (∀ before after, events = before ++ after →
      NeverStuck (dialog.run ⟨{ root, app }, []⟩ before)) ↔
      dialog.Along (fun c e => ¬ FailedSave c e) ⟨{ root, app }, []⟩ events := by
  have hstart : Works ⟨{ root, app }, []⟩ := ⟨fun _ => .away rfl rfl, justified_nil _⟩
  rw [Machine.everywhere_iff_along hstart.neverStuck]
  refine Machine.along_iff (I := Works) (fun c e hc hnext => ?_) (fun c e hc => ?_) hstart events
  · exact hc.next fun hfailed => hfailed.stuck hc hnext
  · exact ⟨fun hnext hfailed => hfailed.stuck hc hnext, fun he => (hc.next he).neverStuck⟩

/-- On the keyboard page of a full sequence the dialog is shown, and Enter finds a session that
cannot be written. -/
def failed_save : List DialogEvent :=
  [.show_test_result_dialog_, .key ⟨LV_KEY_ENTER, some "Enter"⟩ ⟨false, false⟩]

/-- After the failed save the dialog can be seen, but keys are not captured. -/
theorem failed_save_strands : ¬ ∀ before after, failed_save = before ++ after →
    NeverStuck (dialog.run ⟨{ root := true, app := ⟨.CARDPUTER_ZERO, true, 0⟩ }, []⟩ before) := by
  intro h
  have hmodal := (h failed_save [] (List.append_nil _).symm).modal (by decide +kernel)
  exact absurd (hmodal.2 (by decide +kernel)) (by decide +kernel)

end FactoryTest.View

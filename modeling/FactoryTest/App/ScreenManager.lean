import FactoryTest.IrFixture.Model
import FactoryTest.View.Dialog
import FactoryTest.ViewModel.AppViewModel

/-!
# The screen manager

`ScreenManager` of `src/app/screen_namager.cpp`, with the page that is loaded and the view model.

**Switches.** To show a page, the view model sets its current page; an observer requests the page
and schedules a flush. The page that is loaded stays there, with its listeners, until the flush
makes the new one. Scheduling the flush may fail.

**Pages.** Keys go to the listener of the loaded page: to its dialog first, and then to the page.
The page of the IR fixture is modelled. Everything else that a page does, its timers, its
navigation actions and its own keys, is a handler that calls the view model at any time, as far
as its page makes such calls (`Call.By`).
-/

namespace FactoryTest.App

open ViewModel
open Input (LV_KEY_ENTER)
open Session (Answers)
open View (Key TestConfirmDialog ButtonRole)
open IrFixture (IrFixtureRunState)

/-! ## The page -/

/-- A page that is loaded, with its dialog. -/
structure Screen where
  page : AppPage
  /-- The test that it is loaded for: the one that is current when the page is made. -/
  item : Option TestSequenceItem
  test_result_dialog : Option TestConfirmDialog := none
  /-- On the page of the IR fixture, the state of its model. -/
  fixture : IrFixtureRunState := .WAITING_FOR_FIXTURE
  deriving DecidableEq

/-- `is_enter`. -/
def is_enter (k : Key) : Bool :=
  k.key = LV_KEY_ENTER || k.key = '\n'.val || k.key = '\r'.val ||
    (k.key_name = some "Enter" || k.key_name = some "Return")

/-- `can_start`. -/
def can_start (state : IrFixtureRunState) : Bool := state ≠ .RUNNING

namespace Screen

/-- The dialog is there and can be seen. -/
def visible (p : Screen) : Bool :=
  match p.test_result_dialog with
  | some dialog => dialog.visible
  | none => false

/-- `show_test_result_dialog_`. -/
def show_test_result_dialog (p : Screen) : Screen :=
  if p.visible then p else { p with test_result_dialog := some (TestConfirmDialog.build {}) }

/-- `handle_test_result_dialog_key_`: the page, whether the key was handled, and the button whose
action runs. -/
def handle_test_result_dialog_key (p : Screen) (k : Key) : Screen × Bool × Option ButtonRole :=
  match p.test_result_dialog with
  | none => (p, false, none)
  | some dialog =>
    let cancel_key := k.is_dialog_cancel_key
    let (dialog, handled, triggered) := dialog.handle_key k
    let p := { p with test_result_dialog := some dialog }
    if handled && cancel_key && !p.visible then
      ({ p with test_result_dialog := none }, handled, triggered)
    else (p, handled, triggered)

/-- `start_` of `IrFixtureTestPage`. -/
def start (p : Screen) (a : Answers) : Screen × Option Call :=
  if can_start p.fixture then
    ({ p with fixture := .RUNNING },
      some (.record_current_test_value "fixture_started" (.boolean true) a))
  else (p, none)

/-- `key_listener`, with the call of the view model that it makes. Only the page of the IR fixture
has keys of its own here. -/
def key_listener (p : Screen) (k : Key) (a b : Answers) : Screen × Option Call :=
  match p.handle_test_result_dialog_key k with
  | (p, true, triggered) =>
    (p, triggered.map fun role => .complete_current_test role.result a b)
  | (p, false, _) =>
    if p.page = .IR_FIXTURE_TEST && is_enter k then p.start a else (p, none)

end Screen

/-! ## The screen manager -/

/-- `ScreenManager`; `current_screen` is `none` until a page is loaded. -/
structure ScreenManager where
  app_view_model : AppViewModel := {}
  requested_page : AppPage := .START
  page_switch_scheduled : Bool := true
  current_screen : Option Screen := none

namespace ScreenManager

/-- `request_page`; `ok` says whether `lv_async_call` succeeds. -/
def request_page (s : ScreenManager) (page : AppPage) (ok : Bool) : ScreenManager :=
  let s := { s with requested_page := page }
  if s.page_switch_scheduled then s else { s with page_switch_scheduled := ok }

section

variable (cJSON : CJsonLibrary) (directory : String) (product_model : ProductModel)

/-- `load_screen_`: the page that was requested is made. -/
def load_screen (s : ScreenManager) : ScreenManager :=
  { s with
    current_screen :=
      some { page := s.requested_page, item := s.app_view_model.current_item product_model } }

/-- `flush_requested_page`. -/
def flush_requested_page (s : ScreenManager) : ScreenManager :=
  let s := { s with page_switch_scheduled := false }
  match s.current_screen with
  | some p =>
    if s.requested_page = p.page && !s.app_view_model.test_sequence_active then s
    else s.load_screen product_model
  | none => s.load_screen product_model

/-- The view model is called. If it shows another page, the observer requests that page; what it
shows again is requested by `refresh_current_page`. -/
def call (s : ScreenManager) (c : Call) (ok : Bool) : ScreenManager × List Bool :=
  let r := ViewModel.call cJSON directory product_model s.app_view_model c
  let s' := { s with app_view_model := r.1 }
  if r.1.current_page = s.app_view_model.current_page then (s', r.2)
  else (s'.request_page r.1.current_page ok, r.2)

end

end ScreenManager

/-! ## Events -/

/-- Something that happens. -/
inductive Event
  /-- A handler of the loaded page calls the view model. -/
  | handler (c : Call) (ok : Bool)
  /-- The navigation action of the loaded page that shows the dialog. -/
  | show_test_result_dialog
  /-- A key reaches the listener of the loaded page. -/
  | key (k : Key) (a b : Answers) (ok : Bool)
  /-- The model of the IR fixture gets on. -/
  | fixture (state : IrFixtureRunState)
  | refresh_current_page (ok : Bool)
  /-- The flush that was scheduled. -/
  | flush_requested_page

/-- The handlers of the page make such calls: sequences and single tests are started on the start
page, and verdicts come from the dialog. -/
def Call.By (page : AppPage) : Call → Prop
  | .start_full_test_sequence _ _ _ | .resume_full_test_sequence _ _
  | .load_recoverable_test_session _ | .show_single_test_page _ => page = .START
  | .begin_current_test_attempt _ | .record_current_test_evidence _ _
  | .record_current_test_value _ _ _ | .show_start_page => True
  | .complete_current_test _ _ _ | .complete_current_test_with_details _ _ _ _ _ | .relaunch =>
    False

instance (page : AppPage) (c : Call) : Decidable (Call.By page c) := by
  cases c <;> unfold Call.By <;> infer_instance

/-- The event can happen. The start page has no dialog for a verdict. -/
def Event.Allowed (s : ScreenManager) (e : Event) : Prop :=
  match e, s.current_screen with
  | .handler c _, some p => Call.By p.page c
  | .handler _ _, none => False
  | .show_test_result_dialog, some p => p.page ≠ .START
  | .flush_requested_page, _ => s.page_switch_scheduled = true
  | _, _ => True

instance (s : ScreenManager) (e : Event) : Decidable (e.Allowed s) := by
  unfold Event.Allowed
  split <;> infer_instance

/-- The call of the view model that the event makes. -/
def Event.call (s : ScreenManager) : Event → Option Call
  | .handler c _ => some c
  | .key k a b _ => s.current_screen.bind fun p => (p.key_listener k a b).2
  | _ => none

section

variable (cJSON : CJsonLibrary) (directory : String) (product_model : ProductModel)

/-- What comes of an event, and what the call of a handler returned. -/
def step (s : ScreenManager) : Event → ScreenManager × List Bool
  | .handler c ok => s.call cJSON directory product_model c ok
  | .show_test_result_dialog =>
    ({ s with current_screen := s.current_screen.map Screen.show_test_result_dialog }, [])
  | .key k a b ok =>
    match s.current_screen with
    | none => (s, [])
    | some p =>
      let r := p.key_listener k a b
      let s := { s with current_screen := some r.1 }
      match r.2 with
      | none => (s, [])
      | some c => ((s.call cJSON directory product_model c ok).1, [])
  | .fixture state =>
    ({ s with current_screen := s.current_screen.map fun p => { p with fixture := state } }, [])
  | .refresh_current_page ok => (s.request_page s.app_view_model.current_page ok, [])
  | .flush_requested_page => (s.flush_requested_page product_model, [])

/-- The program. -/
def program : Machine ScreenManager Event Bool where
  step := step cJSON directory product_model

end

/-- The program is launched, with any session files, and the start page is requested. -/
def launched (session : Session.World) : Config ScreenManager Bool :=
  ⟨{ app_view_model := { session } }, []⟩

end FactoryTest.App

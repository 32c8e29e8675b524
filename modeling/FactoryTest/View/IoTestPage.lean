import FactoryTest.Input.Evdev
import FactoryTest.Input.Listeners
import FactoryTest.View.Dialog

/-!
# The connectivity pages

`IoTestPage` of `src/view/screens/io_test_page.cpp` with the views of the Link, UART and EXT.IO
pages, as the page of the key router. The other pages have no key handling of their own.

**Settings.** The three views show a settings dialog in the same way, and each page has one view.
What is selected or typed in the dialog, the rows of the EXT.IO page, scrolling, popups and the log
are left out.

**Leaving.** When another page is shown, the actions of the navigation bar are cleared. The page
gets keys until it is deleted.
-/

namespace FactoryTest.View

open Input Session

/-! ## Names of keys -/

def LV_KEY_NEXT : UInt32 := 9
def LV_KEY_PREV : UInt32 := 11
def K_EVDEV_KEY_BASE : UInt32 := 0x100000
def K_KEY_F_BASE : UInt32 := K_SPECIAL_KEY_BASE ||| 0x100

def K_LV_KEY_NAMES : List (UInt32 × String) :=
  [(LV_KEY_UP, "Up"), (LV_KEY_DOWN, "Down"), (LV_KEY_RIGHT, "Right"), (LV_KEY_LEFT, "Left"),
    (LV_KEY_ESC, "Esc"), (LV_KEY_DEL, "Delete"), (LV_KEY_BACKSPACE, "Backspace"),
    (LV_KEY_ENTER, "Enter"), (LV_KEY_NEXT, "Next"), (LV_KEY_PREV, "Previous"),
    (LV_KEY_HOME, "Home"), (LV_KEY_END, "End")]

def K_SPECIAL_KEY_NAMES : List (UInt32 × String) :=
  [(' '.val, "Space"), ('\t'.val, "Tab"), (K_KEY_CTRL, "Ctrl"), (K_KEY_SHIFT, "Shift"),
    (K_KEY_SUPER, "Super"), (K_KEY_ALT, "Alt"), (K_KEY_FN, "Fn"), (K_KEY_SYM, "Sym"),
    (K_KEY_INSERT, "Insert"), (K_KEY_PAGE_UP, "PageUp"), (K_KEY_PAGE_DOWN, "PageDown"),
    (K_KEY_VOLUME_MUTE, "VolumeMute"), (K_KEY_VOLUME_DOWN, "VolumeDown"),
    (K_KEY_VOLUME_UP, "VolumeUp"), (K_KEY_BRIGHTNESS_DOWN, "BrightnessDown"),
    (K_KEY_BRIGHTNESS_UP, "BrightnessUp"), (K_KEY_PLAY_PAUSE, "PlayPause"),
    (K_KEY_REWIND, "Rewind"), (K_KEY_FAST_FORWARD, "FastForward"),
    (K_KEY_PRINTSCREEN, "PrintScreen"), (K_KEY_HELP, "Help")]

/-- `lookup_name`. -/
def lookup_name (entries : List (UInt32 × String)) (key : UInt32) : Option String :=
  (entries.find? (·.1 = key)).map Prod.snd

/-- `describe_key`. -/
def describe_key (key : UInt32) : String :=
  match lookup_name K_LV_KEY_NAMES key with
  | some name => name
  | none =>
    match lookup_name K_SPECIAL_KEY_NAMES key with
    | some name => name
    | none =>
      if 32 ≤ key && key ≤ 126 then String.singleton (Char.ofNat key.toNat)
      else if key &&& K_KEY_F_BASE = K_KEY_F_BASE then
        "F" ++ toString (key &&& ~~~K_KEY_F_BASE).toNat
      else if key &&& K_EVDEV_KEY_BASE = K_EVDEV_KEY_BASE then
        "KEY_" ++ toString (key &&& ~~~K_EVDEV_KEY_BASE).toNat
      else "Key " ++ toString key.toNat

/-- A key as the router hands it to a listener. -/
def named (key : UInt32) : Key := ⟨key, some (describe_key key)⟩

/-! ## The settings dialog -/

/-- The button of a dialog whose action runs. -/
inductive DialogButton
  | OK
  | CANCEL
  deriving DecidableEq

/-- `Dialog`, while it is visible. The actions of both buttons take it away. -/
structure Dialog where
  use_nav_action_keys : Bool := false
  action_triggered : Bool := false
  deriving DecidableEq

namespace Dialog

/-- `is_ok_key_`. -/
def is_ok_key_ (k : Key) : Bool :=
  k.key = LV_KEY_ENTER || k.key = '\r'.val || k.key_name_is_one_of_ "Enter" "Return" "KEY_96"

/-- `is_cancel_key_`. -/
def is_cancel_key_ (d : Dialog) (k : Key) : Bool :=
  k.key = LV_KEY_ESC || k.key_name_is_one_of_ "Esc" "Escape" "KEY_1" ||
    (d.use_nav_action_keys && k.key = '4'.val)

/-- `handle_key`, which handles the keys that trigger a button. -/
def handle_key (d : Dialog) (k : Key) : Option DialogButton :=
  if d.action_triggered then none
  else if d.is_cancel_key_ k then some .CANCEL
  else if is_ok_key_ k then some .OK
  else none

end Dialog

/-! ## The page -/

/-- The values of `model::AppPage` that are an `IoTestPage`. -/
inductive IoAppPage
  | WIFI_TEST | BT_TEST | ETH_TEST | USB_TEST | HDMI_TEST | I2C_TEST | SPI_TEST | UART_TEST
  | EXT_IO_TEST | LINK_TEST
  deriving DecidableEq

/-- What the keys of a page can run. A restart says whether it began an attempt of the test, which
adds one to the attempts of the session. -/
inductive Command
  | restart (began : Bool)
  | refresh
  | open_settings
  | back
  | confirm
  deriving DecidableEq

/-- `UartConnectivityView::HoldAction`. -/
inductive HoldAction
  | NONE | CLEAR_BUFFER | BAUD_SETTINGS | SCREENSHOT | THEME_TOGGLE | EXIT_UART
  deriving DecidableEq

def K_MAX_INPUT_CHARS : ℕ := 96

/-- `UartConnectivityView`. -/
structure UartView where
  input_buffer : List UInt8 := []
  pending_hold_action : HoldAction := .NONE
  pending_hold_key : UInt32 := 0
  pending_hold_consumed : Bool := false
  deriving DecidableEq

/-- `IoTestPage`, with the settings dialog of its view and the commands that have been run. -/
structure IoTestPage where
  page_ : IoAppPage
  screen : BaseScreen
  config_dialog : Option Dialog := none
  uart_view : UartView := {}
  commands : List Command := []

/-- What the session manager answers during an event. -/
structure IoAnswers where
  session : SessionAnswers
  begin_test : Bool

/-- The router, with the page behind it. -/
abbrev Io := Routing IoTestPage

namespace Io

/-- A command is run. -/
def run (w : Io) (command : Command) : Io :=
  { w with page := { w.page with commands := w.page.commands ++ [command] } }

/-- The page's screen; the router has its modal flag. -/
def screen (w : Io) : BaseScreen :=
  { w.page.screen with modal_key_capture := w.router.config.modal_key_capture }

def set_screen (w : Io) (screen : BaseScreen) : Io :=
  ⟨w.router.set_modal_key_capture screen.modal_key_capture, { w.page with screen }⟩

/-- `clear_nav_actions`, as far as the buttons can be clicked. -/
def clear_nav_actions (w : Io) : Io :=
  { w with router := { w.router with
      config := { w.router.config with nav_buttons := fun _ => false } } }

/-- `request_back_or_quit`. -/
def request_back_or_quit (w : Io) : Io :=
  let app := w.page.screen.app.show_start_page.1
  clear_nav_actions
    { (w.run .back) with page := { (w.run .back).page with screen := { w.page.screen with app } } }

/-- `show_test_result_dialog_`. -/
def show_test_result_dialog_ (w : Io) : Io :=
  (w.run .confirm).set_screen w.screen.show_test_result_dialog_

/-- `handle_test_result_dialog_key_`. -/
def handle_test_result_dialog_key_ (answers : IoAnswers) (k : Key) (w : Io) : Io × Bool :=
  let (screen, handled, calls) := w.screen.handle_test_result_dialog_key_ k answers.session
  let w := w.set_screen screen
  (if calls.any Call.leaves then w.clear_nav_actions else w, handled)

/-- `dialog_visible`. -/
def dialog_visible (w : Io) : Bool := w.page.config_dialog.isSome

/-- `hide_config_dialog_` of the three views. -/
def hide_config_dialog_ (w : Io) : Io :=
  ⟨(w.router.set_modal_key_capture false).set_nav_trigger_mode .CLICK,
    { w.page with config_dialog := none }⟩

/-- The dialog of a view opens. -/
def open_dialog (w : Io) : Io :=
  ⟨(w.router.set_nav_trigger_mode .LONG_PRESS).set_modal_key_capture true,
    { w.page with config_dialog := some {} }⟩

/-- `show_config_dialog`. That of the Link page hides a dialog before. -/
def show_config_dialog (w : Io) : Io :=
  let w := w.run .open_settings
  if w.dialog_visible then w
  else if w.page.page_ = .LINK_TEST then w.hide_config_dialog_.open_dialog
  else w.open_dialog

end Io

/-! ## The Link page -/

namespace LinkView

/-- `restart`. -/
def restart (answers : IoAnswers) (w : Io) : Io :=
  let app := w.page.screen.app
  w.run (.restart (app.test_sequence_active && app.sequence_item.isSome && answers.begin_test))

/-- `apply_config_dialog_`. -/
def apply_config_dialog_ (answers : IoAnswers) (w : Io) : Io :=
  restart answers w.hide_config_dialog_

/-- `handle_key`, which handles every key while the dialog is visible. -/
def handle_key (answers : IoAnswers) (k : Key) (w : Io) : Io × Bool :=
  match w.page.config_dialog with
  | none => (w, false)
  | some dialog =>
    if k.key = LV_KEY_BACKSPACE || k.key = LV_KEY_DEL then (w, true)
    else
      match dialog.handle_key k with
      | some .OK => (apply_config_dialog_ answers w, true)
      | some .CANCEL => (w.hide_config_dialog_, true)
      | none => (w, true)

end LinkView

/-! ## Keys of the two dialogs with a dropdown -/

def is_enter_key (k : Key) : Bool :=
  k.key = LV_KEY_ENTER || k.key = '\n'.val || k.key = '\r'.val ||
    k.key_name_is_one_of_ "Enter" "Return" "Return"

def is_up_key (k : Key) : Bool :=
  k.key = LV_KEY_UP || k.key = 'f'.val || k.key = 'F'.val || k.key_name = some "Up"

def is_down_key (k : Key) : Bool :=
  k.key = LV_KEY_DOWN || k.key = 'x'.val || k.key = 'X'.val || k.key_name = some "Down"

/-- `handle_dialog_key_` of the UART and the EXT.IO page. To apply what is selected, the dialog is
hidden too. -/
def handle_dialog_key_ (dialog : Dialog) (k : Key) (w : Io) : Io :=
  if is_up_key k then w
  else if is_down_key k then w
  else if is_enter_key k then w.hide_config_dialog_
  else if k.key = LV_KEY_ESC || k.key = 27 || k.key = '4'.val then w.hide_config_dialog_
  else
    match dialog.handle_key k with
    | some _ => w.hide_config_dialog_
    | none => w

/-! ## The UART page -/

/-- `hold_action_for_key_`. -/
def hold_action_for_key_ (key : UInt32) : HoldAction :=
  if key = 'r'.val || key = 'R'.val then .CLEAR_BUFFER
  else if key = '6'.val then .BAUD_SETTINGS
  else if key = 'p'.val || key = 'P'.val then .SCREENSHOT
  else if key = 't'.val || key = 'T'.val then .THEME_TOGGLE
  else if key = LV_KEY_ESC || key = 27 || key = '4'.val then .EXIT_UART
  else .NONE

/-- The key has a character. -/
def printable (key : UInt32) : Bool := 32 ≤ key && key ≤ 126

namespace UartView

/-- `pending_hold_matches_`. -/
def pending_hold_matches_ (v : UartView) (key : UInt32) : Bool :=
  if v.pending_hold_action = .NONE then false
  else hold_action_for_key_ key = v.pending_hold_action

/-- `append_input_char_`. -/
def append_input_char_ (v : UartView) (ch : UInt8) : UartView :=
  if K_MAX_INPUT_CHARS ≤ v.input_buffer.length then v
  else { v with input_buffer := v.input_buffer ++ [ch] }

/-- `begin_hold_action_`. -/
def begin_hold_action_ (v : UartView) (key : UInt32) (action : HoldAction) : UartView :=
  { v with pending_hold_key := key, pending_hold_action := action, pending_hold_consumed := false }

/-- `send_input_`. -/
def send_input_ (v : UartView) : UartView := { v with input_buffer := [] }

/-- `reset_buffers_`. -/
def reset_buffers_ (v : UartView) : UartView := { v with input_buffer := [] }

/-- The view's `handle_key` while no dialog is visible; `none` if it does not handle the key. -/
def type_key (v : UartView) (k : Key) : Option UartView :=
  if is_enter_key k then some v.send_input_
  else if hold_action_for_key_ k.key ≠ .NONE then
    some (v.begin_hold_action_ k.key (hold_action_for_key_ k.key))
  else if k.key = LV_KEY_BACKSPACE || k.key = LV_KEY_DEL then
    some { v with input_buffer := v.input_buffer.dropLast }
  else if printable k.key then some (v.append_input_char_ k.key.toUInt8)
  else none

/-- `handle_key_release`. -/
def handle_key_release (v : UartView) (key : UInt32) : UartView :=
  if !v.pending_hold_matches_ key then v
  else
    let pressed_key := v.pending_hold_key
    let consumed := v.pending_hold_consumed
    let v := { v with
      pending_hold_action := .NONE
      pending_hold_key := 0
      pending_hold_consumed := false }
    if !consumed && printable pressed_key then v.append_input_char_ pressed_key.toUInt8 else v

end UartView

namespace Io

def set_uart_view (w : Io) (uart_view : UartView) : Io :=
  { w with page := { w.page with uart_view } }

/-- `UartConnectivityView::handle_key`. -/
def uart_handle_key (k : Key) (w : Io) : Io × Bool :=
  match w.page.config_dialog with
  | some dialog => (handle_dialog_key_ dialog k w, true)
  | none =>
    match w.page.uart_view.type_key k with
    | some view => (w.set_uart_view view, true)
    | none => (w, false)

/-- `UartConnectivityView::handle_long_key`; screenshots and themes are left out. -/
def uart_handle_long_key (key : UInt32) (w : Io) : Io × Bool :=
  let action := hold_action_for_key_ key
  if action = .NONE || !w.page.uart_view.pending_hold_matches_ key then (w, false)
  else
    let w := w.set_uart_view { w.page.uart_view with pending_hold_consumed := true }
    match action with
    | .CLEAR_BUFFER => (w.set_uart_view w.page.uart_view.reset_buffers_, true)
    | .BAUD_SETTINGS => (w.show_config_dialog, true)
    | .SCREENSHOT => (w, true)
    | .THEME_TOGGLE => (w, true)
    | .EXIT_UART => (w, false)
    | .NONE => (w, false)

/-- `ExtIoConnectivityView::handle_key`. -/
def ext_io_handle_key (k : Key) (w : Io) : Io × Bool :=
  match w.page.config_dialog with
  | some dialog => (handle_dialog_key_ dialog k w, true)
  | none =>
    if k.key = LV_KEY_UP || k.key = LV_KEY_LEFT || k.key = 'f'.val || k.key = 'F'.val then (w, true)
    else if k.key = LV_KEY_DOWN || k.key = LV_KEY_RIGHT || k.key = 'x'.val || k.key = 'X'.val then
      (w, true)
    else if k.key = LV_KEY_ENTER then (w, true)
    else if k.key = '6'.val then (w.show_config_dialog, true)
    else (w, false)

end Io

/-! ## The navigation bar -/

/-- The actions of the navigation bar. -/
inductive NavCommand
  | back | restart | settings | confirm
  deriving DecidableEq

/-- `NavAction`. -/
structure NavAction where
  action : NavCommand
  event_code : EventCode := .CLICKED
  deriving DecidableEq

/-- `update_nav_actions_`: the action of a button. -/
def update_nav_actions_ (page_ : IoAppPage) (index : ℕ) : Option NavAction :=
  let event_code : EventCode := if page_ = .UART_TEST then .LONG_PRESSED else .CLICKED
  match index with
  | 0 => some ⟨.back, event_code⟩
  | 1 => if page_ = .LINK_TEST then some ⟨.restart, .CLICKED⟩ else none
  | 2 =>
    if page_ = .UART_TEST then some ⟨.settings, .LONG_PRESSED⟩
    else if page_ = .EXT_IO_TEST then some ⟨.settings, .CLICKED⟩
    else none
  | 3 => if page_ = .LINK_TEST then some ⟨.settings, .CLICKED⟩ else none
  | 4 => some ⟨.confirm, event_code⟩
  | _ => none

/-- `trigger_nav_action`. -/
def trigger_nav_action (answers : IoAnswers) (index : ℕ) (event_code : EventCode) (w : Io) : Io :=
  match update_nav_actions_ w.page.page_ index with
  | none => w
  | some action =>
    if action.event_code ≠ event_code then w
    else
      match action.action with
      | .back => w.request_back_or_quit
      | .restart => LinkView.restart answers w
      | .settings => w.show_config_dialog
      | .confirm => w.show_test_result_dialog_

/-! ## The listeners -/

/-- `global_key_listener`, on a page that is not the keyboard test; toggling the theme and the
screenshot are left out. -/
def global_key_listener (key : UInt32) (long_pressed : Bool) (w : Io) : Io × Bool :=
  let should_handle := !long_pressed
  let theme := key = 't'.val || key = 'T'.val
  let screenshot := key = 'p'.val || key = 'P'.val
  if should_handle && (w.page.page_ = .UART_TEST && (theme || screenshot)) then (w, false)
  else if theme && should_handle then (w, true)
  else if screenshot && should_handle then (w, true)
  else (w, false)

/-- The last part of `key_listener`. -/
def default_key (key : UInt32) (w : Io) : Io :=
  if key = 'r'.val || key = 'R'.val then w.run .refresh else w

/-- The part of `key_listener` for the Link page. -/
def link_key (answers : IoAnswers) (key : UInt32) (w : Io) : Io :=
  let (w, handled) := LinkView.handle_key answers (named key) w
  if handled then w
  else if key = '5'.val || key = 'r'.val || key = 'R'.val then LinkView.restart answers w
  else if key = '7'.val || key = 's'.val || key = 'S'.val then w.show_config_dialog
  else default_key key w

/-- `key_listener`. -/
def key_listener (answers : IoAnswers) (key : UInt32) (w : Io) : Io :=
  let (w, handled) := w.handle_test_result_dialog_key_ answers (named key)
  if handled then w
  else
    match w.page.page_ with
    | .UART_TEST =>
      let (w, handled) := w.uart_handle_key (named key)
      if handled then w else default_key key w
    | .LINK_TEST => link_key answers key w
    | .EXT_IO_TEST =>
      let (w, handled) := w.ext_io_handle_key (named key)
      if handled then w else default_key key w
    | _ => default_key key w

/-- `key_release_listener`. -/
def key_release_listener (key : UInt32) (w : Io) : Io :=
  if w.page.page_ = .UART_TEST then w.set_uart_view (w.page.uart_view.handle_key_release key) else w

/-- `long_key_listener`. -/
def long_key_listener (key : UInt32) (w : Io) : Io :=
  if w.page.page_ ≠ .UART_TEST then w
  else
    let (w, handled) := w.uart_handle_long_key key
    if handled then w
    else if key = LV_KEY_ESC then w.request_back_or_quit
    else w

/-- The page's listeners and buttons. -/
def listeners (answers : IoAnswers) : Listeners IoTestPage where
  global_key_listener := global_key_listener
  key_listener := key_listener answers
  key_release_listener := key_release_listener
  long_key_listener := long_key_listener
  nav_button _ := trigger_nav_action answers

/-! ## Runs -/

/-- A key event, or the long-press timer is due. -/
inductive IoAction
  | key (key : UInt32) (pressed : Bool)
  | tick
  deriving DecidableEq

/-- An event, some milliseconds after the one before it. -/
structure IoEvent where
  elapsed : ℕ := 0
  action : IoAction
  answers : IoAnswers

/-- An event, and the commands it ran. -/
structure IoObs where
  action : IoAction
  commands : List Command
  deriving DecidableEq

/-- One event. -/
def Io.handle (w : Io) (e : IoEvent) : Io :=
  let w : Io := Routing.elapse { w with page := { w.page with commands := [] } } e.elapsed
  match e.action with
  | .key key pressed => (listeners e.answers).route_key_state w key pressed
  | .tick => (listeners e.answers).tick w

/-- The page, and what its keys run. -/
def io_test_page : Machine Io IoEvent IoObs where
  step w e := (w.handle e, [⟨e.action, (w.handle e).page.commands⟩])

/-- A page that has just been shown. -/
def Io.start (page_ : IoAppPage) (app : TestSequence) (nav_direction_aliases_enabled : Bool)
    (now : ℕ) : Io where
  router :=
    { config :=
        { nav_direction_aliases_enabled
          key_listener := true
          key_release_listener := true
          long_key_listener := true
          global_key_listener := true
          nav_buttons := fun index => (update_nav_actions_ page_ index).isSome }
      now }
  page := { page_, screen := { root := true, app } }

end FactoryTest.View

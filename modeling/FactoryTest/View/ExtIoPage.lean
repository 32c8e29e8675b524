import FactoryTest.Gpio.Sysfs
import FactoryTest.Process.Output
import FactoryTest.View.IoTestPage

/-!
# The EXT.IO page

`ExtIoConnectivityView` of `src/view/screens/ext_io_page.cpp`: two switches under sysfs and three
GPIO lines, which are driven while the function of the page is `OUTPUT` and polled while it is
`INPUT`.

**The lines.** As an output a line is kept by the service under its key, as an input it is an
`OutputLine` of its row. The object of row `i` is called `i`; no other `OutputLine` has that name.

**What is seen.** What `apply_row_style_` last drew of each row is part of the state. Fonts,
sizes, colours that follow from what is drawn, scrolling and the router are left out.
-/

namespace FactoryTest.View

open Gpio Input Process

/-! ## Rows -/

/-- `IoFunction`. -/
inductive IoFunction
  | OUTPUT
  | INPUT
  deriving DecidableEq

/-- What a `SwitchRow` is made with. -/
structure SwitchRowConfig where
  title : String
  detail : String
  gpio : Option OutputLineConfig := none
  supports_input : Bool := true
  brightness_path : Option String := none

def K_EXT_5V_BRIGHTNESS_PATH : String := "/sys/class/leds/ext_5v_out/brightness"
def K_GROVE_5V_BRIGHTNESS_PATH : String := "/sys/class/leds/grove_5v_out/brightness"

/-- The rows that `build` makes. -/
def row_config : Fin 5 → SwitchRowConfig
  | 0 => {
      title := "EXT 5V"
      detail := K_EXT_5V_BRIGHTNESS_PATH
      supports_input := false
      brightness_path := some K_EXT_5V_BRIGHTNESS_PATH }
  | 1 => {
      title := "Grove 5V"
      detail := K_GROVE_5V_BRIGHTNESS_PATH
      supports_input := false
      brightness_path := some K_GROVE_5V_BRIGHTNESS_PATH }
  | 2 => {
      title := "GPIO26"
      detail := "gpiochip0 line 26"
      gpio := some ⟨"/dev/gpiochip0", 26, "factory-test-extio-gpio26"⟩ }
  | 3 => {
      title := "GPIO23"
      detail := "gpiochip0 line 23"
      gpio := some ⟨"/dev/gpiochip0", 23, "factory-test-extio-gpio23"⟩ }
  | 4 => {
      title := "GPIO22"
      detail := "gpiochip0 line 22"
      gpio := some ⟨"/dev/gpiochip0", 22, "factory-test-extio-gpio22"⟩ }

/-- What a `SwitchRow` has besides. -/
structure SwitchRow where
  active : Bool := false
  error : Bool := false
  error_message : Text := []
  input_ready : Bool := false

/-- `compact_error`. -/
def compact_error (error : String) : Text :=
  let error := error.toUTF8.toList
  if error = [] then "GPIO error".toUTF8.toList
  else if error.length ≤ 48 then error
  else error.take (48 - 3) ++ "...".toUTF8.toList

/-- What is drawn of a row. -/
structure Drawn where
  hidden : Bool := false
  focused : Bool := false
  dark : Bool := false
  detail : Text := []
  state : Text := []
  active : Bool := false
  error : Bool := false
  led : Bool := false
  /-- The switch, if it is seen, and whether it is checked. -/
  switch : Option Bool := some false
  deriving DecidableEq

/-! ## The view -/

/-- The dialog, with what is selected in its dropdown. -/
structure FunctionDialog where
  dialog : Dialog := {}
  function_dropdown : ℕ

/-- What is done with the GPIO lines as outputs, with the time at which it begins. -/
inductive GpioAction
  | set_output_value (row : Fin 5) (time : ℕ)
  | release_output_lines
  deriving DecidableEq

/-- `ExtIoConnectivityView`, the lines of the process and the screen. What was accessed and done is
remembered, the newest first. -/
structure ExtIoView where
  world : World
  rows : Fin 5 → SwitchRow := fun _ => {}
  dialog : Option FunctionDialog := none
  /-- The timer, if it was made, and whether it runs. -/
  input_poll_timer : Option Bool := none
  selected_index : ℕ := 0
  io_function : IoFunction := .OUTPUT
  last_gpio_action_at : UInt32 := 0
  has_gpio_action : Bool := false
  /-- The translation, the theme and the time in milliseconds. -/
  tr : Text → Text
  dark : Bool
  now : ℕ
  drawn : Fin 5 → Drawn := fun _ => {}
  accesses : List (Fin 5 × Except String Bool) := []
  actions : List GpioAction := []

/-- What the system answers for one row. -/
structure RowAnswers where
  sysfs : FileAnswer
  request : RequestAnswers
  get : GetAnswers

/-- What the system answers during an event. A sleep may last longer than it should. -/
structure ExtIoAnswers where
  write : WriteAnswers
  set : SetAnswers
  overslept : ℕ
  rows : Fin 5 → RowAnswers

def K_GPIO_ACTION_DELAY_MS : ℕ := 120

namespace ExtIoView

/-- A row after something. -/
def set_row (v : ExtIoView) (i : Fin 5) (row : SwitchRow) : ExtIoView :=
  { v with rows := Function.update v.rows i row }

/-- `row_visible_`. -/
def row_visible_ (v : ExtIoView) (index : ℕ) : Bool :=
  if h : index < 5 then
    v.io_function = .OUTPUT || (row_config ⟨index, h⟩).supports_input
  else false

/-! ### Drawing -/

/-- The state that is shown of a row. -/
def state_text (v : ExtIoView) (row : SwitchRow) : String :=
  if row.error then "ERR"
  else if v.io_function = .INPUT then (if row.active then "HIGH" else "LOW")
  else if row.active then "ON" else "OFF"

/-- A row as `apply_row_style_` draws it. -/
def styled (v : ExtIoView) (i : Fin 5) : Drawn :=
  let config := row_config i
  let row := v.rows i
  let input_mode : Bool := v.io_function = .INPUT
  { hidden := input_mode && !config.supports_input
    focused := i.val = v.selected_index
    dark := v.dark
    detail := v.tr (if row.error then row.error_message else config.detail.toUTF8.toList)
    state := v.tr (v.state_text row).toUTF8.toList
    active := row.active
    error := row.error
    led := input_mode && config.supports_input
    switch := if input_mode then none else some row.active }

/-- `apply_row_style_`. -/
def apply_row_style_ (v : ExtIoView) (i : Fin 5) : ExtIoView :=
  { v with drawn := Function.update v.drawn i (v.styled i) }

/-- `ensure_selected_visible_`. -/
def ensure_selected_visible_ (v : ExtIoView) : ExtIoView :=
  if v.row_visible_ v.selected_index then v
  else
    match (List.range 5).find? v.row_visible_ with
    | some index => { v with selected_index := index }
    | none => v

/-- `apply_theme_`. -/
def apply_theme_ (v : ExtIoView) : ExtIoView :=
  (List.finRange 5).foldl apply_row_style_ v.ensure_selected_visible_

/-! ### Selecting -/

/-- `set_selected_index_`. -/
def set_selected_index_ (v : ExtIoView) (index : ℕ) : ExtIoView :=
  if 5 ≤ index || !v.row_visible_ index || v.selected_index = index then v
  else apply_theme_ { v with selected_index := index }

/-- `select_previous_`. -/
def select_previous_ (v : ExtIoView) : ExtIoView :=
  match (List.range v.selected_index).reverse.find? v.row_visible_ with
  | some index => v.set_selected_index_ index
  | none => v

/-- `select_next_`. -/
def select_next_ (v : ExtIoView) : ExtIoView :=
  match ((List.range 5).drop (v.selected_index + 1)).find? v.row_visible_ with
  | some index => v.set_selected_index_ index
  | none => v

/-! ### Outputs -/

/-- What an access tells of a row, and what it shows when it fails. -/
def accessed (v : ExtIoView) (i : Fin 5) (result : Except String Bool) (failed : Bool) :
    ExtIoView :=
  let row := v.rows i
  let v := { v with accesses := (i, result) :: v.accesses }
  match result with
  | .ok active => v.set_row i { row with active, error := false, error_message := [] }
  | .error error =>
    v.set_row i { row with active := failed, error := true, error_message := compact_error error }

/-- `wait_for_gpio_slot_`. -/
def wait_for_gpio_slot_ (v : ExtIoView) (i : Fin 5) (overslept : ℕ) : ExtIoView :=
  let elapsed := (UInt32.ofNat v.now - v.last_gpio_action_at).toNat
  let now :=
    if v.has_gpio_action && elapsed < K_GPIO_ACTION_DELAY_MS then
      v.now + (K_GPIO_ACTION_DELAY_MS - elapsed) + overslept
    else v.now
  { v with
    now
    last_gpio_action_at := UInt32.ofNat now
    has_gpio_action := true
    actions := .set_output_value i now :: v.actions }

/-- The access of `toggle_row_` to what is behind a row. -/
def write_row (v : ExtIoView) (i : Fin 5) (next : Bool) (answers : ExtIoAnswers) :
    Except String Unit × ExtIoView :=
  match (row_config i).brightness_path, (row_config i).gpio with
  | some path, _ => (write_sysfs_binary_value path next answers.write, v)
  | none, some gpio =>
    let v := v.wait_for_gpio_slot_ i answers.overslept
    let (result, world) := set_output_value gpio next answers.set v.world
    (result, { v with world })
  | none, none => (.error "Output backend is not configured", v)

/-- `toggle_row_`, of a row that there is. -/
def toggle_row_ (v : ExtIoView) (i : Fin 5) (answers : ExtIoAnswers) : ExtIoView :=
  if v.io_function ≠ .OUTPUT ∨ v.row_visible_ i = false then v
  else
    let active := (v.rows i).active
    let (result, v) := v.write_row i (!active) answers
    (v.accessed i (result.map fun _ => !active) active).apply_row_style_ i

/-- `toggle_selected_`. -/
def toggle_selected_ (v : ExtIoView) (answers : ExtIoAnswers) : ExtIoView :=
  if h : v.selected_index < 5 then v.toggle_row_ ⟨v.selected_index, h⟩ answers else v

/-- A row in `release_output_lines_`. -/
def release_output_line (v : ExtIoView) (i : Fin 5) : ExtIoView :=
  let world :=
    match (row_config i).gpio with
    | some gpio => release_output_value gpio v.world
    | none => v.world
  set_row { v with world } i { v.rows i with active := false, error := false, error_message := [] }

/-- `release_output_lines_`. -/
def release_output_lines_ (v : ExtIoView) : ExtIoView :=
  { (List.finRange 5).foldl release_output_line v with
    has_gpio_action := false
    actions := .release_output_lines :: v.actions }

/-- A row in `read_output_states_`. -/
def read_output_state (answers : Fin 5 → RowAnswers) (v : ExtIoView) (i : Fin 5) :
    ExtIoView :=
  match (row_config i).brightness_path, (row_config i).gpio with
  | some path, _ => v.accessed i (read_sysfs_binary_value path (answers i).sysfs) false
  | none, some gpio =>
    let (result, world) := get_output_value gpio (answers i).get v.world
    accessed { v with world } i result false
  | none, none => v.accessed i (.error "Output backend is not configured") false

/-- `read_output_states_`. -/
def read_output_states_ (v : ExtIoView) (answers : Fin 5 → RowAnswers) : ExtIoView :=
  (List.finRange 5).foldl (read_output_state answers) v

/-! ### Inputs -/

/-- A row in `release_input_lines_`. -/
def release_input_line (v : ExtIoView) (i : Fin 5) : ExtIoView :=
  set_row { v with world := v.world.destroy (.object i) } i { v.rows i with input_ready := false }

/-- `release_input_lines_`. -/
def release_input_lines_ (v : ExtIoView) : ExtIoView :=
  (List.finRange 5).foldl release_input_line v

/-- The access of `read_input_states_` to the line of a row: what is read, and whether the line is
ready after it. -/
def input_value (id : ℕ) (gpio : OutputLineConfig) (input_ready : Bool) (answers : RowAnswers)
    (w : World) : (Except String Bool × Bool) × World :=
  let holder := .object id
  let line := (w.lines holder).getD { config := gpio }
  let (ready, line, log) :=
    if input_ready then (.ok (), line, w.log) else line.set_input holder answers.request w.log
  match ready with
  | .error error => ((.error error, false), w.put holder (some line) log)
  | .ok () =>
    match line.get_value holder answers.get log with
    | (.error error, line, log) =>
      let (line, log) := line.release_locked log
      ((.error error, false), w.put holder (some line) log)
    | (.ok active, line, log) => ((.ok active, true), w.put holder (some line) log)

/-- What a row shows has changed. -/
def changed (row row' : SwitchRow) : Bool :=
  row.active ≠ row'.active || row.error ≠ row'.error || row.error_message ≠ row'.error_message

/-- A row in `read_input_states_`. -/
def read_input_state (refresh_changed_rows : Bool) (answers : Fin 5 → RowAnswers)
    (v : ExtIoView) (i : Fin 5) : ExtIoView :=
  if !(row_config i).supports_input then v
  else
    let row := v.rows i
    let v :=
      match (row_config i).gpio with
      | none => v.accessed i (.error "Input backend is not configured") false
      | some gpio =>
        let ((result, input_ready), world) :=
          input_value i gpio row.input_ready (answers i) v.world
        accessed (set_row { v with world } i { row with input_ready }) i result false
    if refresh_changed_rows && changed row (v.rows i) then v.apply_row_style_ i else v

/-- `read_input_states_`. -/
def read_input_states_ (v : ExtIoView) (refresh_changed_rows : Bool)
    (answers : Fin 5 → RowAnswers) : ExtIoView :=
  (List.finRange 5).foldl (read_input_state refresh_changed_rows answers) v

/-- `update_poll_timer_`. -/
def update_poll_timer_ (v : ExtIoView) : ExtIoView :=
  if v.io_function ≠ .INPUT then
    { v with input_poll_timer := v.input_poll_timer.map fun _ => false }
  else { v with input_poll_timer := some true }

/-- `input_poll_timer_cb`. -/
def input_poll_timer_cb (v : ExtIoView) (answers : Fin 5 → RowAnswers) : ExtIoView :=
  if v.io_function ≠ .INPUT then v else v.read_input_states_ true answers

/-! ### The dialog -/

/-- `function_index_`. -/
def function_index_ (v : ExtIoView) : ℕ := if v.io_function = .INPUT then 1 else 0

/-- `show_config_dialog`. -/
def show_config_dialog (v : ExtIoView) : ExtIoView :=
  if v.dialog.isSome then v
  else { v with dialog := some { function_dropdown := v.function_index_ } }

/-- `selected_function_`. -/
def selected_function_ (v : ExtIoView) : IoFunction :=
  match v.dialog with
  | none => v.io_function
  | some dialog => if dialog.function_dropdown = 1 then .INPUT else .OUTPUT

/-- `hide_config_dialog_`. -/
def hide_config_dialog_ (v : ExtIoView) : ExtIoView := { v with dialog := none }

/-- The end of `apply_config_dialog_`, in the order of the source. -/
def shown_anew (v : ExtIoView) : ExtIoView :=
  v.ensure_selected_visible_.apply_theme_.update_poll_timer_

/-- `apply_config_dialog_`. -/
def apply_config_dialog_ (v : ExtIoView) (answers : ExtIoAnswers) : ExtIoView :=
  let next_function := v.selected_function_
  let v := v.hide_config_dialog_
  if next_function = v.io_function then v
  else
    let v :=
      if v.io_function = .INPUT then v.release_input_lines_ else v.release_output_lines_
    let v := { v with io_function := next_function }
    let v :=
      if v.io_function = .INPUT then v.read_input_states_ false answers.rows
      else v.read_output_states_ answers.rows
    v.shown_anew

/-- `step_function_selection_`. -/
def step_function_selection_ (v : ExtIoView) (delta : ℤ) : ExtIoView :=
  { v with dialog := v.dialog.map fun dialog =>
      { dialog with function_dropdown := ((dialog.function_dropdown + delta + 2) % 2).toNat } }

/-- A button of the dialog is pressed. -/
def press (v : ExtIoView) (button : DialogButton) (answers : ExtIoAnswers) : ExtIoView :=
  match v.dialog with
  | none => v
  | some dialog =>
    if dialog.dialog.action_triggered then v
    else
      match button with
      | .OK => v.apply_config_dialog_ answers
      | .CANCEL => v.hide_config_dialog_

/-- `handle_dialog_key_`. -/
def handle_dialog_key_ (v : ExtIoView) (dialog : FunctionDialog) (k : Key)
    (answers : ExtIoAnswers) : ExtIoView :=
  if is_up_key k then v.step_function_selection_ (-1)
  else if is_down_key k then v.step_function_selection_ 1
  else if is_enter_key k then v.apply_config_dialog_ answers
  else if k.key = LV_KEY_ESC || k.key = 27 || k.key = '4'.val then v.hide_config_dialog_
  else
    match dialog.dialog.handle_key k with
    | some button => v.press button answers
    | none => v

/-- `handle_key`, and whether the key was handled. -/
def handle_key (v : ExtIoView) (k : Key) (answers : ExtIoAnswers) : ExtIoView × Bool :=
  match v.dialog with
  | some dialog => (v.handle_dialog_key_ dialog k answers, true)
  | none =>
    if k.key = LV_KEY_UP || k.key = LV_KEY_LEFT || k.key = 'f'.val || k.key = 'F'.val then
      (v.select_previous_, true)
    else if k.key = LV_KEY_DOWN || k.key = LV_KEY_RIGHT || k.key = 'x'.val || k.key = 'X'.val then
      (v.select_next_, true)
    else if k.key = LV_KEY_ENTER then (v.toggle_selected_ answers, true)
    else if k.key = '6'.val then (v.show_config_dialog, true)
    else (v, false)

/-- The switch of a row is flipped on the screen, as it is when it is clicked. -/
def flip_switch (v : ExtIoView) (i : Fin 5) : ExtIoView :=
  let drawn := v.drawn i
  { v with drawn := Function.update v.drawn i { drawn with switch := drawn.switch.map (!·) } }

/-- `row_clicked_cb`. A switch that is clicked is flipped before. -/
def row_clicked_cb (v : ExtIoView) (i : Fin 5) (on_switch : Bool) (answers : ExtIoAnswers) :
    ExtIoView :=
  let v := if on_switch then v.flip_switch i else v
  let v := v.set_selected_index_ i
  if v.io_function = .OUTPUT then v.toggle_row_ i answers else v

/-! ### Runs -/

/-- `build`. -/
def build (world : World) (tr : Text → Text) (dark : Bool) (now : ℕ)
    (answers : Fin 5 → RowAnswers) : ExtIoView :=
  let v : ExtIoView := { world, tr, dark, now }
  (v.read_output_states_ answers).apply_theme_.update_poll_timer_

/-- The destructor, as far as the lines are concerned. -/
def destroy (v : ExtIoView) : ExtIoView := v.release_output_lines_.release_input_lines_

end ExtIoView

/-- What happens to the view. -/
inductive ExtIoEvent
  | key (k : Key) (answers : ExtIoAnswers)
  | row_clicked (i : Fin 5) (on_switch : Bool) (answers : ExtIoAnswers)
  | show_config_dialog
  | dropdown_selected (index : Fin 2)
  | dialog_button (button : DialogButton) (answers : ExtIoAnswers)
  | poll (answers : Fin 5 → RowAnswers)
  | theme (dark : Bool)

namespace ExtIoView

/-- An event. The timer fires only while it runs. -/
def handle (v : ExtIoView) : ExtIoEvent → ExtIoView
  | .key k answers => (v.handle_key k answers).1
  | .row_clicked i on_switch answers => v.row_clicked_cb i on_switch answers
  | .show_config_dialog => v.show_config_dialog
  | .dropdown_selected index =>
    { v with dialog := v.dialog.map fun dialog => { dialog with function_dropdown := index } }
  | .dialog_button button answers => v.press button answers
  | .poll answers => if v.input_poll_timer = some true then v.input_poll_timer_cb answers else v
  | .theme dark => apply_theme_ { v with dark }

/-- An event, some time after what was before. -/
def step (v : ExtIoView) (passed : ℕ) (event : ExtIoEvent) : ExtIoView :=
  handle { v with now := v.now + passed } event

/-- A run. -/
def run (v : ExtIoView) (events : List (ℕ × ExtIoEvent)) : ExtIoView :=
  events.foldl (fun v event => v.step event.1 event.2) v

end ExtIoView

end FactoryTest.View

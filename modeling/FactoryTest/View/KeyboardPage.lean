import FactoryTest.View.IoTestPage

/-!
# The keyboard test

`KeyboardTestPage` of `src/view/screens/keyboard_test_page.cpp`: three layers of keys, each drawn
in a colour that tells how often it was triggered, and the progress of the layer that is shown. A
layer that is complete gives way to the next one after a while.

**Leaving.** When another page is shown, the actions of the navigation bar are cleared. The page
gets keys until it is destroyed, and with a long Tab it can set its actions again.

**What is left out.** Icons, fonts and positions, the popups, the text of the last key, and a timer
that cannot be made. What happened is remembered, the newest first.
-/

namespace FactoryTest.View

open Input

/-! ## Keys -/

/-- `KeyLayer`. -/
inductive KeyLayer
  | STANDARD_KEY
  | FN_KEY
  | SYM_KEY
  deriving DecidableEq

/-- `KeySpec`. -/
structure KeySpec where
  layer : KeyLayer
  key_match : String
  disabled : Bool

def K_MATCH_NEXT : String := "next"
def K_MATCH_SPACE : String := "space"
def K_MATCH_TAB : String := "tab"
def K_MATCH_VOLUME_MUTE : String := "volumemute"

def K_KEYS : List KeySpec :=
  [⟨.STANDARD_KEY, "esc", false⟩, ⟨.STANDARD_KEY, "tab", false⟩, ⟨.STANDARD_KEY, "1", false⟩,
    ⟨.STANDARD_KEY, "2", false⟩, ⟨.STANDARD_KEY, "3", false⟩, ⟨.STANDARD_KEY, "4", false⟩,
    ⟨.STANDARD_KEY, "5", false⟩, ⟨.STANDARD_KEY, "6", false⟩, ⟨.STANDARD_KEY, "7", false⟩,
    ⟨.STANDARD_KEY, "8", false⟩, ⟨.STANDARD_KEY, "9", false⟩, ⟨.STANDARD_KEY, "0", false⟩,
    ⟨.STANDARD_KEY, "backspace", false⟩, ⟨.STANDARD_KEY, "sym", false⟩,
    ⟨.STANDARD_KEY, "q", false⟩, ⟨.STANDARD_KEY, "w", false⟩, ⟨.STANDARD_KEY, "e", false⟩,
    ⟨.STANDARD_KEY, "r", false⟩, ⟨.STANDARD_KEY, "t", false⟩, ⟨.STANDARD_KEY, "y", false⟩,
    ⟨.STANDARD_KEY, "u", false⟩, ⟨.STANDARD_KEY, "i", false⟩, ⟨.STANDARD_KEY, "o", false⟩,
    ⟨.STANDARD_KEY, "p", false⟩, ⟨.STANDARD_KEY, "shift", false⟩, ⟨.STANDARD_KEY, "a", false⟩,
    ⟨.STANDARD_KEY, "s", false⟩, ⟨.STANDARD_KEY, "d", false⟩, ⟨.STANDARD_KEY, "f", false⟩,
    ⟨.STANDARD_KEY, "g", false⟩, ⟨.STANDARD_KEY, "h", false⟩, ⟨.STANDARD_KEY, "j", false⟩,
    ⟨.STANDARD_KEY, "k", false⟩, ⟨.STANDARD_KEY, "l", false⟩, ⟨.STANDARD_KEY, "enter", false⟩,
    ⟨.STANDARD_KEY, "fn", false⟩, ⟨.STANDARD_KEY, "ctrl", false⟩, ⟨.STANDARD_KEY, "alt", false⟩,
    ⟨.STANDARD_KEY, "z", false⟩, ⟨.STANDARD_KEY, "x", false⟩, ⟨.STANDARD_KEY, "c", false⟩,
    ⟨.STANDARD_KEY, "v", false⟩, ⟨.STANDARD_KEY, "b", false⟩, ⟨.STANDARD_KEY, "n", false⟩,
    ⟨.STANDARD_KEY, "m", false⟩, ⟨.STANDARD_KEY, "space", false⟩,
    ⟨.FN_KEY, "__disabled", true⟩, ⟨.FN_KEY, "__disabled", true⟩, ⟨.FN_KEY, "f1", false⟩,
    ⟨.FN_KEY, "f2", false⟩, ⟨.FN_KEY, "f3", false⟩, ⟨.FN_KEY, "f4", false⟩,
    ⟨.FN_KEY, "f5", false⟩, ⟨.FN_KEY, "f6", false⟩, ⟨.FN_KEY, "f7", false⟩,
    ⟨.FN_KEY, "f8", false⟩, ⟨.FN_KEY, "f9", false⟩, ⟨.FN_KEY, "f10", false⟩,
    ⟨.FN_KEY, "delete", false⟩, ⟨.FN_KEY, "sym", true⟩, ⟨.FN_KEY, "playpause", false⟩,
    ⟨.FN_KEY, "rewind", false⟩, ⟨.FN_KEY, "fastforward", false⟩, ⟨.FN_KEY, "__disabled", true⟩,
    ⟨.FN_KEY, "__disabled", true⟩, ⟨.FN_KEY, "__disabled", true⟩,
    ⟨.FN_KEY, "brightnessdown", false⟩, ⟨.FN_KEY, "brightnessup", false⟩, ⟨.FN_KEY, "f11", false⟩,
    ⟨.FN_KEY, "f12", false⟩, ⟨.FN_KEY, "shift", true⟩, ⟨.FN_KEY, "volumemute", false⟩,
    ⟨.FN_KEY, "volumedown", false⟩, ⟨.FN_KEY, "volumeup", false⟩, ⟨.FN_KEY, "up", false⟩,
    ⟨.FN_KEY, "__disabled", true⟩, ⟨.FN_KEY, "help", false⟩, ⟨.FN_KEY, "printscreen", false⟩,
    ⟨.FN_KEY, "home", false⟩, ⟨.FN_KEY, "pageup", false⟩, ⟨.FN_KEY, "__disabled", true⟩,
    ⟨.FN_KEY, "fn", true⟩, ⟨.FN_KEY, "ctrl", true⟩, ⟨.FN_KEY, "alt", true⟩,
    ⟨.FN_KEY, "left", false⟩, ⟨.FN_KEY, "down", false⟩, ⟨.FN_KEY, "right", false⟩,
    ⟨.FN_KEY, "__disabled", true⟩, ⟨.FN_KEY, "insert", false⟩, ⟨.FN_KEY, "end", false⟩,
    ⟨.FN_KEY, "pagedown", false⟩, ⟨.FN_KEY, "__disabled", true⟩,
    ⟨.SYM_KEY, "__disabled", true⟩, ⟨.SYM_KEY, "__disabled", true⟩, ⟨.SYM_KEY, "!", false⟩,
    ⟨.SYM_KEY, "@", false⟩, ⟨.SYM_KEY, "#", false⟩, ⟨.SYM_KEY, "$", false⟩,
    ⟨.SYM_KEY, "%", false⟩, ⟨.SYM_KEY, "^", false⟩, ⟨.SYM_KEY, "&", false⟩,
    ⟨.SYM_KEY, "*", false⟩, ⟨.SYM_KEY, "(", false⟩, ⟨.SYM_KEY, ")", false⟩,
    ⟨.SYM_KEY, "__disabled", true⟩, ⟨.SYM_KEY, "sym", true⟩, ⟨.SYM_KEY, "~", false⟩,
    ⟨.SYM_KEY, "`", false⟩, ⟨.SYM_KEY, "_", false⟩, ⟨.SYM_KEY, "-", false⟩,
    ⟨.SYM_KEY, "+", false⟩, ⟨.SYM_KEY, "=", false⟩, ⟨.SYM_KEY, "[", false⟩,
    ⟨.SYM_KEY, "]", false⟩, ⟨.SYM_KEY, "\x7b", false⟩, ⟨.SYM_KEY, "\x7d", false⟩,
    ⟨.SYM_KEY, "shift", true⟩, ⟨.SYM_KEY, ";", false⟩, ⟨.SYM_KEY, ":", false⟩,
    ⟨.SYM_KEY, "'", false⟩, ⟨.SYM_KEY, "__disabled", true⟩, ⟨.SYM_KEY, "\"", false⟩,
    ⟨.SYM_KEY, "<", false⟩, ⟨.SYM_KEY, ">", false⟩, ⟨.SYM_KEY, "\\", false⟩,
    ⟨.SYM_KEY, "|", false⟩, ⟨.SYM_KEY, "__disabled", true⟩, ⟨.SYM_KEY, "fn", true⟩,
    ⟨.SYM_KEY, "ctrl", true⟩, ⟨.SYM_KEY, "alt", true⟩, ⟨.SYM_KEY, "__disabled", true⟩,
    ⟨.SYM_KEY, "__disabled", true⟩, ⟨.SYM_KEY, "__disabled", true⟩, ⟨.SYM_KEY, ",", false⟩,
    ⟨.SYM_KEY, ".", false⟩, ⟨.SYM_KEY, "/", false⟩, ⟨.SYM_KEY, "?", false⟩,
    ⟨.SYM_KEY, "__disabled", true⟩]

/-- A key by its number. -/
abbrev KeyIndex := Fin K_KEYS.length

def key_spec (i : KeyIndex) : KeySpec := K_KEYS.get i

def is_counted_key (spec : KeySpec) : Bool := !spec.disabled

/-- `normalize_key_name`. -/
def normalize_key_name (k : Key) : String :=
  let normalized := k.key_name.getD ""
  let normalized :=
    if normalized = "" then
      if k.key = ' '.val then K_MATCH_SPACE
      else if k.key = '\t'.val then K_MATCH_TAB
      else if 32 ≤ k.key ∧ k.key ≤ 126 then String.singleton (Char.ofNat k.key.toNat)
      else normalized
    else normalized
  String.ofList ((normalized.toList.map Char.toLower).filter (· ≠ ' '))

/-- `matches_key`. -/
def matches_key (spec : KeySpec) (normalized_key : String) (key : UInt32) : Bool :=
  if spec.disabled then false
  else if spec.key_match = K_MATCH_TAB then
    normalized_key = K_MATCH_NEXT || normalized_key = K_MATCH_TAB || key = LV_KEY_NEXT ||
      key = '\t'.val
  else if spec.key_match = K_MATCH_SPACE then normalized_key = K_MATCH_SPACE || key = ' '.val
  else if spec.key_match = K_MATCH_VOLUME_MUTE then
    normalized_key = K_MATCH_VOLUME_MUTE || normalized_key = "mute"
  else normalized_key = spec.key_match

/-- `is_tab_input`. -/
def is_tab_input (k : Key) : Bool :=
  let normalized_key := normalize_key_name k
  normalized_key = K_MATCH_NEXT || normalized_key = K_MATCH_TAB || k.key = LV_KEY_NEXT ||
    k.key = '\t'.val

/-- The key that the loop of `mark_key_pressed_` finds. -/
def matching_key (k : Key) : Option KeyIndex :=
  (List.finRange K_KEYS.length).find? fun i =>
    matches_key (key_spec i) (normalize_key_name k) k.key

def next_layer : KeyLayer → KeyLayer
  | .STANDARD_KEY => .FN_KEY
  | .FN_KEY => .SYM_KEY
  | .SYM_KEY => .SYM_KEY

def next_layer_cyclic : KeyLayer → KeyLayer
  | .STANDARD_KEY => .FN_KEY
  | .FN_KEY => .SYM_KEY
  | .SYM_KEY => .STANDARD_KEY

/-! ## Colours -/

/-- The colours of the palette that keys have. -/
inductive KeyColour
  | text_muted
  | success
  | warning
  | warning_pressed
  | info
  | error
  deriving DecidableEq

/-- `KeyState`. -/
inductive KeyState
  | IDLE
  | PRESSED
  | FAILED
  deriving DecidableEq

def K_PRESS_COUNT_ONCE : ℕ := 1
def K_PRESS_COUNT_TWICE : ℕ := 2
def K_PRESS_COUNT_MAX : ℕ := 3

def pressed_color_for_layer : KeyLayer → KeyColour
  | .FN_KEY => .warning_pressed
  | .SYM_KEY => .info
  | .STANDARD_KEY => .success

/-- `pressed_color_for_press_count`. -/
def pressed_color_for_press_count (layer : KeyLayer) (press_count : ℕ) : KeyColour :=
  if press_count ≤ K_PRESS_COUNT_ONCE then pressed_color_for_layer layer
  else if press_count = K_PRESS_COUNT_TWICE then
    if layer = .FN_KEY then .info else .warning
  else .error

/-! ## The page -/

/-- What happens, as far as it is remembered. -/
inductive KeyboardObs
  | triggered (i : KeyIndex)
  | key_input_seen
  | auto_advanced (source : KeyLayer)
  deriving DecidableEq

/-- `KeyboardTestPage`. -/
structure KeyboardPage where
  screen : BaseScreen
  /-- Another page has been shown, and this one will be destroyed. -/
  left : Bool := false
  destroyed : Bool := false
  key_states : KeyIndex → KeyState := fun _ => .IDLE
  key_press_counts : KeyIndex → ℕ := fun _ => 0
  /-- What `update_button_state_` last drew, of the keys that have a button. -/
  key_buttons : KeyIndex → Option KeyColour := fun _ => none
  layer_built : KeyLayer → Bool := fun _ => false
  layer_pressed_counts : KeyLayer → ℕ := fun _ => 0
  layer_total_counts : KeyLayer → ℕ := fun _ => 0
  active_layer : KeyLayer := .STANDARD_KEY
  /-- `auto_advance_source_layer_`, while there is a timer. -/
  auto_advance_timer : Option KeyLayer := none
  /-- The layer, what is pressed and all that there is of it, as the title shows them. -/
  progress : KeyLayer × ℕ × ℕ := (.STANDARD_KEY, 0, 0)
  /-- The test can be confirmed. -/
  confirm_action : Bool := false
  history : List KeyboardObs := []

namespace KeyboardPage

/-- `update_progress_`. -/
def update_progress_ (p : KeyboardPage) : KeyboardPage :=
  { p with progress := (p.active_layer, p.layer_pressed_counts p.active_layer,
      p.layer_total_counts p.active_layer) }

/-- The colour that `update_button_state_` gives a key. -/
def button_color (p : KeyboardPage) (i : KeyIndex) : KeyColour :=
  match p.key_states i with
  | .PRESSED => pressed_color_for_press_count (key_spec i).layer (p.key_press_counts i)
  | .FAILED => .error
  | .IDLE => .text_muted

/-- `update_button_state_`. -/
def update_button_state_ (p : KeyboardPage) (i : KeyIndex) : KeyboardPage :=
  if (p.key_buttons i).isNone then p
  else { p with key_buttons := Function.update p.key_buttons i (some (p.button_color i)) }

/-- `build_layer_`. -/
def build_layer_ (p : KeyboardPage) (layer : KeyLayer) : KeyboardPage :=
  if p.layer_built layer then p
  else
    { p with
      key_buttons := fun i =>
        if (key_spec i).layer = layer then some (p.button_color i) else p.key_buttons i
      layer_built := Function.update p.layer_built layer true }

/-- `update_nav_actions_`, as far as the test can be confirmed. -/
def update_nav_actions_ (p : KeyboardPage) : KeyboardPage :=
  { p with confirm_action := p.active_layer = .SYM_KEY }

/-- `transition_to_`. -/
def transition_to_ (p : KeyboardPage) (layer : KeyLayer) : KeyboardPage :=
  build_layer_ (update_nav_actions_ (update_progress_
    { p with auto_advance_timer := none, active_layer := layer })) layer

/-- `schedule_auto_advance_`. -/
def schedule_auto_advance_ (p : KeyboardPage) (source_layer : KeyLayer) : KeyboardPage :=
  if next_layer source_layer = source_layer || p.auto_advance_timer.isSome then p
  else { p with auto_advance_timer := some source_layer }

/-- `auto_advance_timer_cb`. -/
def auto_advance_timer_cb (p : KeyboardPage) : KeyboardPage :=
  match p.auto_advance_timer with
  | none => p
  | some source_layer =>
    let p := { p with auto_advance_timer := none }
    if p.active_layer ≠ source_layer then p
    else
      transition_to_ { p with history := .auto_advanced source_layer :: p.history }
        (next_layer source_layer)

/-- `sync_active_tile_`, with the layer of the active tile. -/
def sync_active_tile_ (p : KeyboardPage) (layer : KeyLayer) : KeyboardPage :=
  update_nav_actions_ (update_progress_ (build_layer_ { p with active_layer := layer } layer))

/-- No key of any layer has been pressed. -/
def first_key (p : KeyboardPage) : Bool :=
  [KeyLayer.STANDARD_KEY, .FN_KEY, .SYM_KEY].all fun layer => p.layer_pressed_counts layer = 0

/-- A key that was not pressed before is marked. -/
def press_key (p : KeyboardPage) (i : KeyIndex) : KeyboardPage :=
  if p.key_states i = .PRESSED then p
  else
    let first_key := p.first_key
    let p := { p with key_states := Function.update p.key_states i .PRESSED }
    if is_counted_key (key_spec i) then
      let layer := (key_spec i).layer
      let p := { p with
        layer_pressed_counts := Function.update p.layer_pressed_counts layer
          (p.layer_pressed_counts layer + 1) }
      if first_key then { p with history := .key_input_seen :: p.history } else p
    else p

/-- A press is counted. -/
def count_press (p : KeyboardPage) (i : KeyIndex) : KeyboardPage :=
  if p.key_press_counts i < K_PRESS_COUNT_MAX then
    { p with key_press_counts :=
        Function.update p.key_press_counts i (p.key_press_counts i + 1) }
  else p

/-- The body of the loop of `mark_key_pressed_`, for the key that matches. -/
def trigger (p : KeyboardPage) (i : KeyIndex) : KeyboardPage :=
  let p := ((press_key { p with history := .triggered i :: p.history } i).count_press i)
  let p := p.update_button_state_ i
  let layer := (key_spec i).layer
  let layer_complete := is_counted_key (key_spec i) && layer = p.active_layer &&
    decide (p.layer_total_counts layer ≤ p.layer_pressed_counts layer)
  let p := p.update_progress_
  if layer_complete then p.schedule_auto_advance_ layer else p

/-- `mark_key_pressed_`. -/
def mark_key_pressed_ (p : KeyboardPage) (k : Key) : KeyboardPage :=
  match matching_key k with
  | some i => p.trigger i
  | none => p

/-- Another page is shown, with `clear_nav_actions`. -/
def leave (p : KeyboardPage) : KeyboardPage := { p with left := true, confirm_action := false }

/-- `request_back_or_quit`. -/
def request_back_or_quit (p : KeyboardPage) : KeyboardPage :=
  leave { p with screen := { p.screen with app := p.screen.app.show_start_page.1 } }

/-- `key_listener`. -/
def key_listener (p : KeyboardPage) (k : Key) (answers : SessionAnswers) : KeyboardPage :=
  let (screen, handled, calls) := p.screen.handle_test_result_dialog_key_ k answers
  let p := { p with screen }
  let p := if calls.any Call.leaves then p.leave else p
  if handled then p else p.mark_key_pressed_ k

/-- `long_key_listener`. -/
def long_key_listener (p : KeyboardPage) (k : Key) : KeyboardPage :=
  if is_tab_input k then p.transition_to_ (next_layer_cyclic p.active_layer) else p

/-- The loop of `build_content` that counts the keys. -/
def total_counts : KeyLayer → ℕ :=
  K_KEYS.foldl (fun counts key =>
    if is_counted_key key then Function.update counts key.layer (counts key.layer + 1)
    else counts) fun _ => 0

-- What the source asserts of the standard layer.
example : total_counts .STANDARD_KEY = 46 := by decide +kernel

/-- `build_content`. -/
def build_content (screen : BaseScreen) : KeyboardPage :=
  let p : KeyboardPage := { screen, layer_total_counts := total_counts }
  (p.update_progress_.build_layer_ .STANDARD_KEY).transition_to_ .STANDARD_KEY

end KeyboardPage

/-- What happens to the page. -/
inductive KeyboardEvent
  | key (k : Key) (answers : SessionAnswers)
  | long_key (k : Key)
  | confirm
  | back
  | tile_scroll_end (layer : KeyLayer)
  | auto_advance_timer
  | destroyed

namespace KeyboardPage

/-- An event. Nothing happens to a page that has been destroyed. -/
def step (p : KeyboardPage) (event : KeyboardEvent) : KeyboardPage :=
  if p.destroyed then p
  else
    match event with
    | .key k answers => p.key_listener k answers
    | .long_key k => p.long_key_listener k
    | .confirm =>
      if p.confirm_action then { p with screen := p.screen.show_test_result_dialog_ } else p
    | .back => p.request_back_or_quit
    | .tile_scroll_end layer => p.sync_active_tile_ layer
    | .auto_advance_timer => p.auto_advance_timer_cb
    | .destroyed => { p with destroyed := true }

/-- A run. -/
def run (p : KeyboardPage) (events : List KeyboardEvent) : KeyboardPage := events.foldl step p

end KeyboardPage

end FactoryTest.View

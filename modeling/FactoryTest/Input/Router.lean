import FactoryTest.Lib.Run
import Mathlib.Data.Nat.Notation

/-!
# The key router

`KeyRouterState`, `route_key_state` and `long_press_timer_cb` of `src/platform/linux_input.cpp`,
as a machine whose events are key events and ticks of the long-press timer.

**Time.** An event comes some milliseconds after the one before it. The router sees the tick
count of LVGL, which is the time modulo `2 ^ 32`.

**Listeners.** Which listeners are registered, which buttons can be clicked and what the modes
are does not change during a run. What the global listener returns comes with the event; an
event calls it at most once.

**History.** The observations are the key events themselves and the calls of listeners and
buttons. Messages to the log are left out.
-/

namespace FactoryTest.Input

/-! ## Keys -/

def LV_KEY_UP : UInt32 := 17
def LV_KEY_DOWN : UInt32 := 18
def LV_KEY_RIGHT : UInt32 := 19
def LV_KEY_LEFT : UInt32 := 20
def LV_KEY_ESC : UInt32 := 27
def LV_KEY_DEL : UInt32 := 127
def LV_KEY_BACKSPACE : UInt32 := 8
def LV_KEY_ENTER : UInt32 := 10
def LV_KEY_HOME : UInt32 := 2
def LV_KEY_END : UInt32 := 3
def K_LONG_PRESS_MS : UInt32 := 700
def K_NAV_KEY_COUNT : ℕ := 5

/-- `NavTriggerMode`. -/
inductive NavTriggerMode
  | CLICK
  | LONG_PRESS
  deriving DecidableEq

/-- The codes of the LVGL events that the router sends. -/
inductive EventCode
  | PRESSED
  | RELEASED
  | CLICKED
  | LONG_PRESSED
  deriving DecidableEq

/-- `NavKeyMapEntry`. -/
structure NavKeyMapEntry where
  key : UInt32
  click_index : ℕ
  long_press_index : ℕ

def K_NAV_KEY_MAP : List NavKeyMapEntry :=
  [⟨'4'.val, 0, 0⟩, ⟨LV_KEY_ESC, 0, 0⟩, ⟨'5'.val, 1, 1⟩, ⟨'z'.val, 1, 1⟩, ⟨'Z'.val, 1, 1⟩,
    ⟨LV_KEY_LEFT, 1, 1⟩, ⟨'6'.val, 2, 2⟩, ⟨'7'.val, 3, 3⟩, ⟨'8'.val, 4, 4⟩, ⟨'c'.val, 3, 3⟩,
    ⟨'C'.val, 3, 3⟩, ⟨LV_KEY_RIGHT, 3, 3⟩]

/-! ## State -/

/-- What does not change during a run: the modes, the listeners that are registered, and the
buttons that are valid and clickable. -/
structure RouterConfig where
  nav_trigger_mode : NavTriggerMode := .CLICK
  nav_direction_aliases_enabled : Bool := true
  modal_key_capture : Bool := false
  key_listener : Bool := false
  key_release_listener : Bool := false
  long_key_listener : Bool := false
  global_key_listener : Bool := false
  nav_buttons : ℕ → Bool := fun _ => false

/-- `KeyRouterState`. `long_press_timer` is `none` before the timer is created, and then says
whether it runs; `now` is the time in milliseconds. -/
structure KeyRouterState where
  config : RouterConfig := {}
  last_key : UInt32 := 0
  last_key_pressed : Bool := false
  pressed_key : UInt32 := 0
  press_started_at : UInt32 := 0
  last_key_activity_at : UInt32 := 0
  long_press_sent : Bool := false
  long_press_timer : Option Bool := none
  pressed_key_consumed_by_global : Bool := false
  now : ℕ := 0

/-- What can be observed of the router. -/
inductive Obs
  /-- A key event reaches `route_key_state`. -/
  | input (key : UInt32) (pressed : Bool) (now : ℕ)
  /-- The global listener is called, and returns `consumed`. -/
  | global_listener (key : UInt32) (long_pressed consumed : Bool)
  | key_listener (key : UInt32)
  | release_listener (key : UInt32)
  | long_listener (key : UInt32)
  /-- The event is sent to the button of the key. -/
  | nav (key : UInt32) (index : ℕ) (code : EventCode)
  deriving DecidableEq

/-- What happens: a key event, or the long-press timer is due. `consumes` is what the global
listener returns if it is called. -/
inductive Action
  | key (key : UInt32) (pressed consumes : Bool)
  | tick (consumes : Bool)
  deriving DecidableEq

/-- An action, some milliseconds after the one before it. -/
structure Event where
  elapsed : ℕ := 0
  action : Action
  deriving DecidableEq

namespace KeyRouterState

/-! ## Dispatching -/

/-- `lv_tick_get`. -/
def lv_tick_get (s : KeyRouterState) : UInt32 := .ofNat s.now

/-- `lv_tick_elaps`. -/
def lv_tick_elaps (s : KeyRouterState) (prev : UInt32) : UInt32 := s.lv_tick_get - prev

/-- `nav_key_to_index`; `K_NAV_KEY_COUNT` if the key has no button. -/
def nav_key_to_index (s : KeyRouterState) (key : UInt32) : ℕ :=
  if !s.config.nav_direction_aliases_enabled && (key = 'z'.val || key = 'Z'.val || key = 'c'.val ||
      key = 'C'.val || key = LV_KEY_LEFT || key = LV_KEY_RIGHT) then K_NAV_KEY_COUNT
  else
    match K_NAV_KEY_MAP.find? (·.key = key) with
    | some entry =>
      if s.config.nav_trigger_mode = .CLICK then entry.click_index else entry.long_press_index
    | none => K_NAV_KEY_COUNT

/-- `dispatch_nav_key`. -/
def dispatch_nav_key (s : KeyRouterState) (key : UInt32) (event_code : EventCode) : List Obs :=
  let index := s.nav_key_to_index key
  if K_NAV_KEY_COUNT ≤ index then []
  else if !s.config.nav_buttons index then []
  else [.nav key index event_code]

/-- The call of the global listener, and whether it consumed the key. -/
def emit_global (s : KeyRouterState) (key : UInt32) (long_pressed consumes : Bool) :
    Bool × List Obs :=
  if s.config.global_key_listener then (consumes, [.global_listener key long_pressed consumes])
  else (false, [])

/-- `emit_key`. -/
def emit_key (s : KeyRouterState) (key : UInt32) (consumes : Bool) : Bool × List Obs :=
  let (consumed, seen) := s.emit_global key false consumes
  if consumed then (true, seen)
  else (false, seen ++ if s.config.key_listener then [.key_listener key] else [])

/-- `emit_key_release`. -/
def emit_key_release (s : KeyRouterState) (key : UInt32) : List Obs :=
  if s.config.key_release_listener then [.release_listener key] else []

/-- `emit_long_key`. -/
def emit_long_key (s : KeyRouterState) (key : UInt32) (consumes : Bool) : Bool × List Obs :=
  let (consumed, seen) := s.emit_global key true consumes
  if consumed then (true, seen)
  else (false, seen ++ if s.config.long_key_listener then [.long_listener key] else [])

/-! ## The timer -/

/-- `long_press_timer_cb`. -/
def long_press_timer_cb (s : KeyRouterState) (consumes : Bool) : KeyRouterState × List Obs :=
  if s.pressed_key = 0 || s.long_press_sent then (s, [])
  else if s.lv_tick_elaps s.press_started_at < K_LONG_PRESS_MS then (s, [])
  else
    let s := { s with long_press_sent := true }
    if s.config.modal_key_capture then (s, [])
    else if s.pressed_key_consumed_by_global then (s, [])
    else
      let (consumed, seen) := s.emit_long_key s.pressed_key consumes
      if consumed then (s, seen)
      else (s, seen ++ s.dispatch_nav_key s.pressed_key .LONG_PRESSED)

/-! ## Key events -/

/-- A new hold begins. -/
def new_hold (s : KeyRouterState) (key : UInt32) (consumes : Bool) : KeyRouterState × List Obs :=
  let s := { s with
    pressed_key := key
    press_started_at := s.lv_tick_get
    long_press_sent := false }
  let (consumed, seen) := s.emit_key key consumes
  let s := { s with pressed_key_consumed_by_global := consumed }
  (s, seen ++
    if !s.config.modal_key_capture && !consumed then s.dispatch_nav_key key .PRESSED else [])

/-- The branch of `route_key_state` for a press. -/
def on_press (s : KeyRouterState) (key : UInt32) (consumes : Bool) : KeyRouterState × List Obs :=
  let is_new_hold := !s.last_key_pressed || key ≠ s.pressed_key
  let (s, seen) := if is_new_hold then s.new_hold key consumes else (s, [])
  -- `ensure_long_press_timer`
  let s := { s with last_key_activity_at := s.lv_tick_get, long_press_timer := some true }
  (s, seen ++
    if !s.config.modal_key_capture && !s.pressed_key_consumed_by_global &&
        s.config.nav_trigger_mode = .CLICK && (!s.last_key_pressed || s.last_key ≠ key) then
      s.dispatch_nav_key key .CLICKED
    else [])

/-- The branch of `route_key_state` for the release of the pressed key. -/
def on_release (s : KeyRouterState) (key : UInt32) : KeyRouterState × List Obs :=
  ({ s with
      pressed_key := 0
      pressed_key_consumed_by_global := false
      long_press_timer := s.long_press_timer.map fun _ => false },
    (if !s.config.modal_key_capture && !s.pressed_key_consumed_by_global then
      s.dispatch_nav_key key .RELEASED else []) ++
    if !s.pressed_key_consumed_by_global then s.emit_key_release key else [])

/-- The release is the release of the pressed key; any other release is ignored. -/
def releases (s : KeyRouterState) (key : UInt32) : Bool :=
  s.last_key_pressed && s.pressed_key = key

/-- `route_key_state`. -/
def route_key_state (s : KeyRouterState) (key : UInt32) (pressed consumes : Bool) :
    KeyRouterState × List Obs :=
  let (s', seen) :=
    if pressed then s.on_press key consumes
    else if s.releases key then s.on_release key
    else (s, [])
  ({ s' with last_key := key, last_key_pressed := pressed }, seen)

/-- `reset_key_router_state`, which the setters of the modes call. -/
def reset_key_router_state (s : KeyRouterState) : KeyRouterState :=
  { s with
    last_key := 0
    last_key_pressed := false
    pressed_key := 0
    press_started_at := 0
    last_key_activity_at := 0
    long_press_sent := false
    long_press_timer := s.long_press_timer.map fun _ => false }

/-- One event. The timer is due only while it runs. -/
def step (s : KeyRouterState) (e : Event) : KeyRouterState × List Obs :=
  let s := { s with now := s.now + e.elapsed }
  match e.action with
  | .key key pressed consumes =>
    let (s', seen) := s.route_key_state key pressed consumes
    (s', .input key pressed s.now :: seen)
  | .tick consumes =>
    if s.long_press_timer = some true then s.long_press_timer_cb consumes else (s, [])

end KeyRouterState

/-- The router. -/
def router : Machine KeyRouterState Event Obs := ⟨KeyRouterState.step⟩

/-- The router before any event. -/
def KeyRouterState.init (config : RouterConfig) : Config KeyRouterState Obs :=
  ⟨{ config := config }, []⟩

end FactoryTest.Input

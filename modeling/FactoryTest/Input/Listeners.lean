import FactoryTest.Input.Router

/-!
# The router and what it calls

A listener or a button may do more than be called: it can show a dialog, and so change the modes of
the router while the router is in the middle of an event. Here the functions that the router calls
take the router and a page to the router and the page after them.

**Recording** (`recorder_step`). Listeners that only write down their calls, and leave the router
alone, give the observations of `KeyRouterState.step`.
-/

namespace FactoryTest.Input

namespace KeyRouterState

/-- `set_nav_trigger_mode`. -/
def set_nav_trigger_mode (s : KeyRouterState) (mode : NavTriggerMode) : KeyRouterState :=
  reset_key_router_state { s with config := { s.config with nav_trigger_mode := mode } }

/-- `set_modal_key_capture`. -/
def set_modal_key_capture (s : KeyRouterState) (enabled : Bool) : KeyRouterState :=
  if s.config.modal_key_capture = enabled then s
  else reset_key_router_state { s with config := { s.config with modal_key_capture := enabled } }

end KeyRouterState

/-- The router, with the page that its listeners and buttons belong to. -/
structure Routing (π : Type*) where
  router : KeyRouterState
  page : π

/-- The functions that the router calls. -/
structure Listeners (π : Type*) where
  global_key_listener : UInt32 → Bool → Routing π → Routing π × Bool
  key_listener : UInt32 → Routing π → Routing π
  key_release_listener : UInt32 → Routing π → Routing π
  long_key_listener : UInt32 → Routing π → Routing π
  /-- An event is sent to the button with an index; the key is the one it is sent for. -/
  nav_button : UInt32 → ℕ → EventCode → Routing π → Routing π

namespace Listeners

variable {π : Type*} (L : Listeners π)

/-- `dispatch_nav_key`. -/
def dispatch_nav_key (w : Routing π) (key : UInt32) (event_code : EventCode) : Routing π :=
  let index := w.router.nav_key_to_index key
  if K_NAV_KEY_COUNT ≤ index then w
  else if !w.router.config.nav_buttons index then w
  else L.nav_button key index event_code w

/-- The call of the global listener, and whether it consumed the key. -/
def emit_global (w : Routing π) (key : UInt32) (long_pressed : Bool) : Routing π × Bool :=
  if w.router.config.global_key_listener then L.global_key_listener key long_pressed w
  else (w, false)

/-- `emit_key`. -/
def emit_key (w : Routing π) (key : UInt32) : Routing π × Bool :=
  let (w, consumed) := L.emit_global w key false
  if consumed then (w, true)
  else (if w.router.config.key_listener then L.key_listener key w else w, false)

/-- `emit_key_release`. -/
def emit_key_release (w : Routing π) (key : UInt32) : Routing π :=
  if w.router.config.key_release_listener then L.key_release_listener key w else w

/-- `emit_long_key`. -/
def emit_long_key (w : Routing π) (key : UInt32) : Routing π × Bool :=
  let (w, consumed) := L.emit_global w key true
  if consumed then (w, true)
  else (if w.router.config.long_key_listener then L.long_key_listener key w else w, false)

/-- `long_press_timer_cb`. The button is that of the key which is pressed after the listeners. -/
def long_press_timer_cb (w : Routing π) : Routing π :=
  if w.router.pressed_key = 0 || w.router.long_press_sent then w
  else if w.router.lv_tick_elaps w.router.press_started_at < K_LONG_PRESS_MS then w
  else
    let w := { w with router := { w.router with long_press_sent := true } }
    if w.router.config.modal_key_capture then w
    else if w.router.pressed_key_consumed_by_global then w
    else
      let (w, consumed) := L.emit_long_key w w.router.pressed_key
      if consumed then w else L.dispatch_nav_key w w.router.pressed_key .LONG_PRESSED

/-- A new hold begins. -/
def new_hold (w : Routing π) (key : UInt32) (modal_capture : Bool) : Routing π :=
  let w := { w with router := { w.router with
    pressed_key := key
    press_started_at := w.router.lv_tick_get
    long_press_sent := false
    pressed_key_consumed_by_global := false } }
  let (w, consumed) := L.emit_key w key
  let w := { w with router := { w.router with pressed_key_consumed_by_global := consumed } }
  if !modal_capture && !w.router.pressed_key_consumed_by_global then
    L.dispatch_nav_key w key .PRESSED
  else w

/-- The end of a press: the timer runs, and the button may be clicked. -/
def finish_press (w : Routing π) (key : UInt32) (modal_capture : Bool) : Routing π :=
  -- `ensure_long_press_timer`
  let w := { w with router := { w.router with
    last_key_activity_at := w.router.lv_tick_get
    long_press_timer := some true } }
  if !modal_capture && !w.router.pressed_key_consumed_by_global &&
      w.router.config.nav_trigger_mode = .CLICK &&
      (!w.router.last_key_pressed || w.router.last_key ≠ key) then
    L.dispatch_nav_key w key .CLICKED
  else w

/-- The branch of `route_key_state` for a press. The modal flag is read before the listeners. -/
def on_press (w : Routing π) (key : UInt32) : Routing π :=
  let is_new_hold := !w.router.last_key_pressed || key ≠ w.router.pressed_key
  let modal_capture := w.router.config.modal_key_capture
  L.finish_press (if is_new_hold then L.new_hold w key modal_capture else w) key modal_capture

/-- The branch of `route_key_state` for the release of the pressed key. -/
def on_release (w : Routing π) (key : UInt32) : Routing π :=
  let modal_capture := w.router.config.modal_key_capture
  let w := if !modal_capture && !w.router.pressed_key_consumed_by_global then
      L.dispatch_nav_key w key .RELEASED
    else w
  let w := if !w.router.pressed_key_consumed_by_global then L.emit_key_release w key else w
  { w with router := { w.router with
      pressed_key := 0
      pressed_key_consumed_by_global := false
      long_press_timer := w.router.long_press_timer.map fun _ => false } }

/-- `route_key_state`. -/
def route_key_state (w : Routing π) (key : UInt32) (pressed : Bool) : Routing π :=
  let w :=
    if pressed then L.on_press w key
    else if w.router.releases key then L.on_release w key
    else w
  { w with router := { w.router with last_key := key, last_key_pressed := pressed } }

/-- `long_press_timer_cb`, which is due only while the timer runs. -/
def tick (w : Routing π) : Routing π :=
  if w.router.long_press_timer = some true then L.long_press_timer_cb w else w

end Listeners

/-- Some milliseconds pass. -/
def Routing.elapse {π : Type*} (w : Routing π) (elapsed : ℕ) : Routing π :=
  { w with router := { w.router with now := w.router.now + elapsed } }

/-! ## Listeners that only record -/

/-- The page is the list of what the router called, and the global listener returns what it is
told to. -/
def recorder (consumes : Bool) : Listeners (List Obs) where
  global_key_listener key long_pressed w :=
    ({ w with page := w.page ++ [.global_listener key long_pressed consumes] }, consumes)
  key_listener key w := { w with page := w.page ++ [.key_listener key] }
  key_release_listener key w := { w with page := w.page ++ [.release_listener key] }
  long_key_listener key w := { w with page := w.page ++ [.long_listener key] }
  nav_button key index code w := { w with page := w.page ++ [.nav key index code] }

section Recorder

variable (consumes : Bool) (s : KeyRouterState) (seen : List Obs) (key : UInt32)

theorem recorder_dispatch_nav_key (code : EventCode) :
    (recorder consumes).dispatch_nav_key ⟨s, seen⟩ key code =
      ⟨s, seen ++ s.dispatch_nav_key key code⟩ := by
  unfold Listeners.dispatch_nav_key KeyRouterState.dispatch_nav_key
  dsimp only
  split
  · rw [List.append_nil]
  split
  · rw [List.append_nil]
  rfl

theorem recorder_emit_key : (recorder consumes).emit_key ⟨s, seen⟩ key =
    (⟨s, seen ++ (s.emit_key key consumes).2⟩, (s.emit_key key consumes).1) := by
  unfold Listeners.emit_key Listeners.emit_global KeyRouterState.emit_key
    KeyRouterState.emit_global
  cases hglobal : s.config.global_key_listener <;> cases consumes <;>
    cases hlistener : s.config.key_listener <;> simp [recorder, hlistener]

theorem recorder_emit_long_key : (recorder consumes).emit_long_key ⟨s, seen⟩ key =
    (⟨s, seen ++ (s.emit_long_key key consumes).2⟩, (s.emit_long_key key consumes).1) := by
  unfold Listeners.emit_long_key Listeners.emit_global KeyRouterState.emit_long_key
    KeyRouterState.emit_global
  cases hglobal : s.config.global_key_listener <;> cases consumes <;>
    cases hlistener : s.config.long_key_listener <;> simp [recorder, hlistener]

theorem recorder_emit_key_release : (recorder consumes).emit_key_release ⟨s, seen⟩ key =
    ⟨s, seen ++ s.emit_key_release key⟩ := by
  unfold Listeners.emit_key_release KeyRouterState.emit_key_release
  cases s.config.key_release_listener <;> simp [recorder]

theorem recorder_long_press_timer_cb : (recorder consumes).long_press_timer_cb ⟨s, seen⟩ =
    ⟨(s.long_press_timer_cb consumes).1, seen ++ (s.long_press_timer_cb consumes).2⟩ := by
  unfold Listeners.long_press_timer_cb KeyRouterState.long_press_timer_cb
  dsimp only
  split
  · rw [List.append_nil]
  split
  · rw [List.append_nil]
  split
  · rw [List.append_nil]
  split
  · rw [List.append_nil]
  rw [recorder_emit_long_key]
  dsimp only
  split
  · rfl
  · rw [recorder_dispatch_nav_key, List.append_assoc]

variable {s} in
/-- What is called depends on the configuration alone. -/
theorem emit_key_of_config {s' : KeyRouterState} (hconfig : s'.config = s.config) :
    s'.emit_key key consumes = s.emit_key key consumes := by
  unfold KeyRouterState.emit_key KeyRouterState.emit_global
  rw [hconfig]

theorem recorder_new_hold : (recorder consumes).new_hold ⟨s, seen⟩ key s.config.modal_key_capture =
    ⟨(s.new_hold key consumes).1, seen ++ (s.new_hold key consumes).2⟩ := by
  -- The two models differ in when they forget that the last key was consumed.
  have hemit := @emit_key_of_config consumes
    { s with
      pressed_key := key
      press_started_at := s.lv_tick_get
      long_press_sent := false } key
    { s with
      pressed_key := key
      press_started_at := s.lv_tick_get
      long_press_sent := false
      pressed_key_consumed_by_global := false } rfl
  unfold Listeners.new_hold KeyRouterState.new_hold
  dsimp only at hemit ⊢
  rw [recorder_emit_key, hemit]
  dsimp only
  split
  · rw [recorder_dispatch_nav_key, List.append_assoc]
  · rw [List.append_nil]

/-- A new hold changes nothing but the hold. -/
theorem new_hold_config : (s.new_hold key consumes).1.config = s.config ∧
    (s.new_hold key consumes).1.last_key_pressed = s.last_key_pressed ∧
    (s.new_hold key consumes).1.last_key = s.last_key := ⟨rfl, rfl, rfl⟩

theorem recorder_on_press : (recorder consumes).on_press ⟨s, seen⟩ key =
    ⟨(s.on_press key consumes).1, seen ++ (s.on_press key consumes).2⟩ := by
  unfold Listeners.on_press Listeners.finish_press KeyRouterState.on_press
  dsimp only
  by_cases hnew : (!s.last_key_pressed || decide (key ≠ s.pressed_key)) = true
  · rw [if_pos hnew, if_pos hnew, recorder_new_hold]
    generalize hhold : s.new_hold key consumes = held
    obtain ⟨hconfig, hpressed, hlast⟩ := hhold ▸ new_hold_config consumes s key
    obtain ⟨s', seen'⟩ := held
    dsimp only at hconfig hpressed hlast ⊢
    rw [hconfig, hpressed, hlast]
    split
    · rw [recorder_dispatch_nav_key, List.append_assoc]
    · rw [List.append_nil]
  · rw [if_neg hnew, if_neg hnew]
    dsimp only
    split
    · rw [recorder_dispatch_nav_key]
      rfl
    · rw [List.append_nil, List.append_nil]

theorem recorder_on_release : (recorder consumes).on_release ⟨s, seen⟩ key =
    ⟨(s.on_release key).1, seen ++ (s.on_release key).2⟩ := by
  unfold Listeners.on_release KeyRouterState.on_release
  dsimp only
  by_cases hreleased : (!s.config.modal_key_capture && !s.pressed_key_consumed_by_global) = true
  · rw [if_pos hreleased, if_pos hreleased, recorder_dispatch_nav_key]
    dsimp only
    split
    · rw [recorder_emit_key_release, List.append_assoc]
    · rw [List.append_nil]
  · rw [if_neg hreleased, if_neg hreleased]
    dsimp only
    split
    · rw [recorder_emit_key_release, List.nil_append]
    · rw [List.append_nil, List.append_nil]

theorem recorder_route_key_state (pressed : Bool) :
    (recorder consumes).route_key_state ⟨s, seen⟩ key pressed =
      ⟨(s.route_key_state key pressed consumes).1,
        seen ++ (s.route_key_state key pressed consumes).2⟩ := by
  unfold Listeners.route_key_state KeyRouterState.route_key_state
  dsimp only
  cases pressed with
  | true =>
    rw [if_pos rfl, if_pos rfl, recorder_on_press]
  | false =>
    rw [if_neg Bool.false_ne_true, if_neg Bool.false_ne_true]
    by_cases hreleases : s.releases key = true
    · rw [if_pos hreleases, if_pos hreleases, recorder_on_release]
    · rw [if_neg hreleases, if_neg hreleases, List.append_nil]

end Recorder

/-- The observations of a step, of the event and of the calls. -/
theorem recorder_step (s : KeyRouterState) (seen : List Obs) (elapsed : ℕ) (action : Action) :
    (match action with
      | .key key pressed consumes =>
        (recorder consumes).route_key_state (Routing.elapse
          ⟨s, seen ++ [Obs.input key pressed (s.now + elapsed)]⟩ elapsed) key pressed
      | .tick consumes => (recorder consumes).tick (Routing.elapse ⟨s, seen⟩ elapsed)) =
      ⟨(s.step ⟨elapsed, action⟩).1, seen ++ (s.step ⟨elapsed, action⟩).2⟩ := by
  cases action with
  | key key pressed consumes =>
    exact (recorder_route_key_state consumes _ _ key pressed).trans
      (congrArg _ (List.append_assoc ..))
  | tick consumes =>
    unfold Listeners.tick KeyRouterState.step Routing.elapse
    dsimp only
    split
    · exact recorder_long_press_timer_cb consumes _ seen
    · rw [List.append_nil]

end FactoryTest.Input

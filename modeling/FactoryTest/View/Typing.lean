import FactoryTest.View.Commands

/-!
# Typing on the UART page

Most keys are typed when they are pressed. A key that also has a hold command is typed when it is
released, from one pending slot, and the router only hands on a release that follows the press of
the same key.

**Theorem (`typed_iff`).** When all keys are up again, the buffer has the pressed characters in the
order of their presses if and only if no press of a hold key is followed by another key event than
its release, and no key goes to the dialog for the result. That dialog can open by itself: the
router misses the release of 8 if another key is released first, and takes it for a long press.
-/

namespace FactoryTest.View

open Input Session

/-! ## The property -/

/-- The keys that are pressed, in order. -/
def pressed_keys (events : List IoEvent) : List UInt32 :=
  events.filterMap fun e =>
    match e.action with
    | .key key true => some key
    | _ => none

/-- The characters of keys. -/
def characters (keys : List UInt32) : List UInt8 := keys.map UInt32.toUInt8

/-- Printable keys are pressed that are up, and released that are down, in any order. `down` has the
keys that are down with the times of their presses. No key is down long enough for a long press, and
in the end all keys are up. -/
def Typed : List (UInt32 × ℕ) → ℕ → List IoEvent → Prop
  | down, _, [] => down = []
  | down, now, e :: events =>
    (∀ held ∈ down, now + e.elapsed - held.2 < K_LONG_PRESS_MS.toNat) ∧
      match e.action with
      | .key key true => printable key = true ∧ (∀ held ∈ down, held.1 ≠ key) ∧
          Typed ((key, now + e.elapsed) :: down) (now + e.elapsed) events
      | .key key false => (∃ held ∈ down, held.1 = key) ∧
          Typed (down.filter (·.1 ≠ key)) (now + e.elapsed) events
      | .tick => Typed down (now + e.elapsed) events

instance decidableTyped : ∀ (down : List (UInt32 × ℕ)) (now : ℕ) (events : List IoEvent),
    Decidable (Typed down now events)
  | down, _, [] => inferInstanceAs (Decidable (down = []))
  | down, now, ⟨elapsed, .key key true, _⟩ :: events =>
    have := decidableTyped ((key, now + elapsed) :: down) (now + elapsed) events
    inferInstanceAs (Decidable ((∀ held ∈ down, now + elapsed - held.2 < K_LONG_PRESS_MS.toNat) ∧
      printable key = true ∧ (∀ held ∈ down, held.1 ≠ key) ∧
        Typed ((key, now + elapsed) :: down) (now + elapsed) events))
  | down, now, ⟨elapsed, .key key false, _⟩ :: events =>
    have := decidableTyped (down.filter (·.1 ≠ key)) (now + elapsed) events
    inferInstanceAs (Decidable ((∀ held ∈ down, now + elapsed - held.2 < K_LONG_PRESS_MS.toNat) ∧
      (∃ held ∈ down, held.1 = key) ∧ Typed (down.filter (·.1 ≠ key)) (now + elapsed) events))
  | down, now, ⟨elapsed, .tick, _⟩ :: events =>
    have := decidableTyped down (now + elapsed) events
    inferInstanceAs (Decidable ((∀ held ∈ down, now + elapsed - held.2 < K_LONG_PRESS_MS.toNat) ∧
      Typed down (now + elapsed) events))

/-- The last key event was the press of a key with a hold command. -/
def Holding (s : KeyRouterState) : Prop :=
  s.last_key_pressed = true ∧ hold_action_for_key_ s.last_key ≠ .NONE

instance (s : KeyRouterState) : Decidable (Holding s) := by
  unfold Holding
  infer_instance

/-- The keys that move the focus in the dialog for the result. -/
def moves_focus (key : UInt32) : Bool :=
  key = 'z'.val || key = 'Z'.val || key = 'c'.val || key = 'C'.val

/-- A character gets lost: a hold key was pressed and this is not its release, or the dialog for the
result takes the key. -/
def Loses (w : Io) (e : IoEvent) : Prop :=
  match e.action with
  | .key key pressed =>
    (Holding w.router ∧ ¬ (pressed = false ∧ key = w.router.last_key)) ∨
      (pressed = true ∧ w.page.screen.live = true ∧ moves_focus key = true)
  | .tick => False

/-! ## Keys -/

theorem printable_cases {P : UInt32 → Prop} (h : ∀ n < 127, 32 ≤ n → P (UInt32.ofNat n))
    {key : UInt32} (hkey : printable key = true) : P key := by
  obtain ⟨hlow, hhigh⟩ : 32 ≤ key.toNat ∧ key.toNat ≤ 126 := by
    simpa [printable, UInt32.le_iff_toNat_le] using hkey
  rw [← UInt32.ofNat_toNat (x := key)]
  exact h key.toNat (by omega) hlow

/-- A printable key is neither Enter nor a key that deletes. -/
theorem printable_spec {key : UInt32} (hkey : printable key = true) :
    is_enter_key (named key) = false ∧ key ≠ LV_KEY_BACKSPACE ∧ key ≠ LV_KEY_DEL ∧ key ≠ 0 :=
  printable_cases (P := fun key => is_enter_key (named key) = false ∧ key ≠ LV_KEY_BACKSPACE ∧
    key ≠ LV_KEY_DEL ∧ key ≠ 0) (by decide +kernel) hkey

/-- The dialog for the result has no use for a printable key that does not move the focus. -/
theorem ignored_of_printable {key : UInt32} (hkey : printable key = true)
    (hmoves : moves_focus key = false) : (named key).ignored = true :=
  printable_cases (P := fun key => moves_focus key = false → (named key).ignored = true)
    (by decide +kernel) hkey hmoves

/-- The keys that move the focus have no hold command. -/
theorem hold_action_of_moves_focus {key : UInt32} (h : moves_focus key = true) :
    hold_action_for_key_ key = .NONE := by
  simp only [moves_focus, Bool.or_eq_true, decide_eq_true_eq] at h
  rcases h with ((rfl | rfl) | rfl) | rfl <;> rfl

theorem handled_of_live {s : BaseScreen} (hlive : s.live = true) {k : Key}
    (hk : (k.is_previous_key_ || k.is_next_key_) = true) (answers : SessionAnswers) :
    (s.handle_test_result_dialog_key_ k answers).2.1 = true := by
  unfold BaseScreen.live at hlive
  unfold BaseScreen.handle_test_result_dialog_key_
  cases hdialog : s.test_result_dialog with
  | none =>
    rw [hdialog] at hlive
    cases hlive
  | some d =>
    rw [hdialog] at hlive
    have hkey : ∃ d', d.handle_key k = (d', true, none) := by
      unfold TestConfirmDialog.handle_key
      rw [if_neg (by simpa using hlive)]
      by_cases hprevious : k.is_previous_key_ = true
      · rw [if_pos hprevious]
        exact ⟨_, rfl⟩
      · rw [if_neg hprevious, if_pos (by simpa [hprevious] using hk)]
        exact ⟨_, rfl⟩
    obtain ⟨d', hkey⟩ := hkey
    dsimp only
    rw [hkey]
    dsimp only
    split <;> rfl

/-! ## What is left alone -/

section Frame

variable {w : Io} (answers : IoAnswers)

theorem uart_view_handle_test_result_dialog_key_ (k : Key) :
    (w.handle_test_result_dialog_key_ answers k).1.page.uart_view = w.page.uart_view := by
  unfold Io.handle_test_result_dialog_key_
  dsimp only
  split <;> rfl

theorem uart_view_show_config_dialog :
    w.show_config_dialog.page.uart_view = w.page.uart_view := by
  unfold Io.show_config_dialog
  dsimp only
  split
  · rfl
  split <;> rfl

theorem uart_view_handle_dialog_key_ (dialog : Dialog) (k : Key) :
    (handle_dialog_key_ dialog k w).page.uart_view = w.page.uart_view := by
  unfold handle_dialog_key_
  split
  · rfl
  split
  · rfl
  split
  · rfl
  split
  · rfl
  split <;> rfl

theorem uart_view_dispatch_nav_key (key : UInt32) (event_code : EventCode) :
    ((listeners answers).dispatch_nav_key w key event_code).page.uart_view = w.page.uart_view := by
  have htrigger (index : ℕ) :
      (trigger_nav_action answers index event_code w).page.uart_view = w.page.uart_view := by
    unfold trigger_nav_action
    split
    · rfl
    split
    · rfl
    split
    · rfl
    · rfl
    · exact uart_view_show_config_dialog
    · rfl
  unfold Listeners.dispatch_nav_key
  dsimp only
  split
  · rfl
  split
  · rfl
  · exact htrigger _

end Frame

/-! ## The view -/

namespace UartView

theorem length_append_input_char_ (v : UartView) (ch : UInt8) :
    (v.append_input_char_ ch).input_buffer.length ≤ v.input_buffer.length + 1 := by
  unfold append_input_char_
  split
  · exact Nat.le_succ _
  · exact (List.length_append ..).le

/-- A key adds a character when it is pressed only if it has no hold command. -/
theorem length_type_key {v v' : UartView} {k : Key} (h : v.type_key k = some v') :
    v'.input_buffer.length + (if hold_action_for_key_ k.key = .NONE then 0 else 1) ≤
      v.input_buffer.length + 1 := by
  unfold type_key at h
  split at h
  · cases h
    split <;> exact Nat.le_add_left ..
  split at h
  next hhold =>
    cases h
    rw [if_neg hhold]
    exact le_rfl
  next hhold =>
  rw [if_pos (not_not.1 hhold)]
  split at h
  · cases h
    simp only [List.length_dropLast]
    omega
  split at h
  · cases h
    exact length_append_input_char_ v _
  · cases h

/-- A key adds a character when it is released only if it has a hold command. -/
theorem length_handle_key_release (v : UartView) (key : UInt32) :
    (v.handle_key_release key).input_buffer.length ≤
      v.input_buffer.length + if hold_action_for_key_ key = .NONE then 0 else 1 := by
  unfold handle_key_release
  split
  · exact Nat.le_add_right ..
  next hmatches =>
  have hhold : ¬ hold_action_for_key_ key = .NONE := by
    intro hnone
    unfold pending_hold_matches_ at hmatches
    rw [hnone] at hmatches
    by_cases hpending : v.pending_hold_action = .NONE
    · rw [if_pos hpending] at hmatches
      exact hmatches rfl
    · rw [if_neg hpending] at hmatches
      simp [Ne.symm hpending] at hmatches
  rw [if_neg hhold]
  dsimp only
  split
  · exact length_append_input_char_ _ _
  · exact Nat.le_succ _

end UartView

/-! ## What an event adds -/

section Count

variable {w : Io}

/-- The characters in the buffer, with the one that waits for its release. -/
def Io.count (w : Io) : ℕ :=
  w.page.uart_view.input_buffer.length + if Holding w.router then 1 else 0

/-- The UART page is shown, and the router tracks the last key that is pressed, or none. -/
structure Tracks (w : Io) : Prop where
  settled : Settled w
  page_ : w.page.page_ = .UART_TEST
  tracked : w.router.last_key_pressed = true →
    w.router.pressed_key = w.router.last_key ∨ w.router.pressed_key = 0

theorem Lasts.holding {s s' : KeyRouterState} (hlasts : Lasts s s') (h : Holding s') :
    Holding s := by
  rcases hlasts with ⟨-, -, hpressed, hlast⟩ | ⟨-, hforgotten⟩
  · unfold Holding at h
    rwa [hpressed, hlast] at h
  · have hpressed := h.1
    rw [hforgotten] at hpressed
    cases hpressed

/-- The listener adds a character only if the key has no hold command, and none if the dialog for
the result takes the key. -/
theorem length_key_listener (hpage : w.page.page_ = .UART_TEST) (answers : IoAnswers)
    (key : UInt32) :
    (key_listener answers key w).page.uart_view.input_buffer.length +
        (if hold_action_for_key_ key = .NONE then 0 else 1) ≤
      w.page.uart_view.input_buffer.length + 1 ∧
    (w.page.screen.live = true → moves_focus key = true →
      (key_listener answers key w).page.uart_view.input_buffer.length ≤
        w.page.uart_view.input_buffer.length) := by
  have hview := uart_view_handle_test_result_dialog_key_ (w := w) answers (named key)
  have hresult : (w.handle_test_result_dialog_key_ answers (named key)).1.page.page_ =
      w.page.page_ := by
    unfold Io.handle_test_result_dialog_key_
    dsimp only
    split <;> rfl
  have hhold : (if hold_action_for_key_ key = .NONE then 0 else 1) ≤ 1 := by
    split <;> decide
  unfold key_listener
  dsimp only
  split
  · rw [hview]
    exact ⟨Nat.add_le_add_left hhold _, fun _ _ => le_rfl⟩
  next hunhandled =>
  refine ⟨?_, fun hlive hmoves => absurd ?_ hunhandled⟩
  · rw [hresult, hpage, ← hview]
    dsimp only
    generalize (w.handle_test_result_dialog_key_ answers (named key)).1 = w'
    have hdefault (w' : Io) : (default_key key w').page.uart_view = w'.page.uart_view := by
      unfold default_key
      split <;> rfl
    have hkey : (w'.uart_handle_key (named key)).1.page.uart_view.input_buffer.length +
        (if hold_action_for_key_ key = .NONE then 0 else 1) ≤
          w'.page.uart_view.input_buffer.length + 1 := by
      unfold Io.uart_handle_key
      split
      · rw [uart_view_handle_dialog_key_]
        exact Nat.add_le_add_left hhold _
      split
      next view htype => exact UartView.length_type_key htype
      · exact Nat.add_le_add_left hhold _
    split
    · exact hkey
    · rw [hdefault]
      exact hkey
  · have hfocus : ((named key).is_previous_key_ || (named key).is_next_key_) = true := by
      simp only [moves_focus, Bool.or_eq_true, decide_eq_true_eq] at hmoves
      rcases hmoves with ((rfl | rfl) | rfl) | rfl <;> decide +kernel
    have hhandled := handled_of_live (s := w.screen) hlive hfocus answers.session
    unfold Io.handle_test_result_dialog_key_
    exact hhandled

/-- A new hold, before the listener is called. -/
def Io.held (w : Io) (key : UInt32) : Io :=
  { w with router := { w.router with
      pressed_key := key
      press_started_at := w.router.lv_tick_get
      long_press_sent := false
      pressed_key_consumed_by_global := false } }

theorem Settled.held (h : Settled w) (key : UInt32) : Settled (w.held key) := h.router rfl

/-- On the UART page the global listener leaves all keys to the page. -/
theorem emit_key_uart (hpage : w.page.page_ = .UART_TEST)
    (hlistening : w.router.config.key_listener = true) (answers : IoAnswers) (key : UInt32) :
    (listeners answers).emit_key w key = (key_listener answers key w, false) := by
  have hglobal : (listeners answers).emit_global w key false = (w, false) := by
    unfold Listeners.emit_global
    by_cases hregistered : w.router.config.global_key_listener = true
    · rw [if_pos hregistered]
      show global_key_listener key false w = (w, false)
      unfold global_key_listener
      dsimp only
      rw [decide_eq_true hpage]
      split
      · rfl
      next hown =>
        rw [Bool.not_false, Bool.true_and, Bool.true_and, Bool.or_eq_true, not_or,
          Bool.not_eq_true, Bool.not_eq_true] at hown
        rw [hown.1, hown.2]
        rfl
    · rw [if_neg hregistered]
  unfold Listeners.emit_key
  rw [hglobal]
  dsimp only
  rw [if_neg Bool.false_ne_true, if_pos hlistening]
  rfl

theorem finish_press_uart (hpage : w.page.page_ = .UART_TEST) (answers : IoAnswers) (key : UInt32)
    (modal_capture : Bool) :
    (listeners answers).finish_press w key modal_capture = { w with router := { w.router with
      last_key_activity_at := w.router.lv_tick_get
      long_press_timer := some true } } := by
  unfold Listeners.finish_press
  dsimp only
  split
  · refine dispatch_nav_key_other answers key ?_
    show EventCode.CLICKED ≠ nav_event w.page.page_
    rw [hpage]
    exact EventCode.noConfusion
  · rfl

/-- A new hold on the UART page only calls the listener. -/
theorem on_press_new (h : Settled w) (hpage : w.page.page_ = .UART_TEST) (answers : IoAnswers)
    {key : UInt32} (hnew : w.router.last_key_pressed = true → key ≠ w.router.pressed_key) :
    (listeners answers).on_press w key =
      let w' := key_listener answers key (w.held key)
      { w' with router := { w'.router with
        pressed_key_consumed_by_global := false
        last_key_activity_at := w'.router.lv_tick_get
        long_press_timer := some true } } := by
  have hemit := emit_key_uart (w := w.held key) hpage h.listening answers key
  have hran := ran_key_listener_uart (h.held key) hpage answers key
  have hhold (modal_capture : Bool) : (listeners answers).new_hold w key modal_capture =
      { key_listener answers key (w.held key) with router :=
        { (key_listener answers key (w.held key)).router with
          pressed_key_consumed_by_global := false } } := by
    rw [new_hold_eq]
    show (let emitted := (listeners answers).emit_key (w.held key) key
      ({ emitted.1 with router := { emitted.1.router with
        pressed_key_consumed_by_global := emitted.2 } } : Io)) = _
    rw [hemit]
  have hcondition : (!w.router.last_key_pressed || decide (key ≠ w.router.pressed_key)) = true := by
    by_cases hpressed : w.router.last_key_pressed = true
    · rw [decide_eq_true (hnew hpressed), Bool.or_true]
    · rw [Bool.eq_false_iff.2 hpressed]
      rfl
  unfold Listeners.on_press
  dsimp only
  rw [if_pos hcondition, hhold]
  generalize key_listener answers key (w.held key) = w' at hran
  exact finish_press_uart (w := { w' with router := { w'.router with
    pressed_key_consumed_by_global := false } }) (hran.page_.trans hpage) answers key _

/-- A repeat on the UART page calls nothing. -/
theorem on_press_repeat (hpage : w.page.page_ = .UART_TEST) (answers : IoAnswers) {key : UInt32}
    (hpressed : w.router.last_key_pressed = true) (hkey : key = w.router.pressed_key) :
    (listeners answers).on_press w key = { w with router := { w.router with
      last_key_activity_at := w.router.lv_tick_get
      long_press_timer := some true } } := by
  unfold Listeners.on_press
  dsimp only
  rw [if_neg, finish_press_uart hpage]
  rw [hpressed, decide_eq_false (not_not.2 hkey)]
  exact Bool.false_ne_true

theorem count_of_holding (h : Holding w.router) :
    w.count = w.page.uart_view.input_buffer.length + 1 := by
  unfold Io.count
  rw [if_pos h]

theorem count_of_not_holding (h : ¬ Holding w.router) :
    w.count = w.page.uart_view.input_buffer.length := by
  unfold Io.count
  rw [if_neg h, Nat.add_zero]

theorem count_pressed (w : Io) (key : UInt32) :
    Io.count { w with router := { w.router with last_key := key, last_key_pressed := true } } =
      w.page.uart_view.input_buffer.length +
        if hold_action_for_key_ key = .NONE then 0 else 1 := by
  by_cases hhold : hold_action_for_key_ key = .NONE
  · rw [if_pos hhold]
    exact count_of_not_holding fun h => h.2 hhold
  · rw [if_neg hhold]
    exact count_of_holding ⟨rfl, hhold⟩

theorem count_released (w : Io) (key : UInt32) :
    Io.count { w with router := { w.router with last_key := key, last_key_pressed := false } } =
      w.page.uart_view.input_buffer.length :=
  count_of_not_holding fun h => Bool.false_ne_true h.1

theorem length_le_count (w : Io) : w.page.uart_view.input_buffer.length ≤ w.count :=
  Nat.le_add_right ..

/-- A press adds one character at most, and none if it loses one. -/
theorem count_press (h : Tracks w) (answers : IoAnswers) {key : UInt32} (hkey : key ≠ 0) :
    Tracks ((listeners answers).route_key_state w key true) ∧
      Io.count ((listeners answers).route_key_state w key true) ≤ w.count + 1 ∧
      (Holding w.router ∨ w.page.screen.live = true ∧ moves_focus key = true →
        Io.count ((listeners answers).route_key_state w key true) ≤ w.count) := by
  unfold Listeners.route_key_state
  dsimp only
  rw [if_pos rfl]
  by_cases hrepeat : w.router.last_key_pressed = true ∧ key = w.router.pressed_key
  · obtain ⟨hpressed, hsame⟩ := hrepeat
    rw [on_press_repeat h.page_ answers hpressed hsame]
    have hlast : w.router.last_key = key := by
      rcases h.tracked hpressed with htracked | hnone
      · exact htracked.symm.trans hsame.symm
      · exact absurd (hsame.trans hnone) hkey
    have hcount : w.page.uart_view.input_buffer.length +
        (if hold_action_for_key_ key = .NONE then 0 else 1) = w.count := by
      rw [← count_pressed, ← hlast, ← hpressed]
    refine ⟨⟨h.settled.router rfl, h.page_, fun _ => .inl hsame.symm⟩, ?_, fun _ => ?_⟩
    · exact ((count_pressed _ key).trans hcount).le.trans (Nat.le_succ _)
    · exact ((count_pressed _ key).trans hcount).le
  · rw [on_press_new h.settled h.page_ answers fun hpressed hsame => hrepeat ⟨hpressed, hsame⟩]
    have hran := ran_key_listener_uart (h.settled.held key) h.page_ answers key
    obtain ⟨hadds, htaken⟩ := length_key_listener (w := w.held key) h.page_ answers key
    generalize key_listener answers key (w.held key) = w' at hran hadds htaken ⊢
    have hlength : (w.held key).page.uart_view.input_buffer.length ≤ w.count := length_le_count w
    have hcount := count_pressed { w' with router := { w'.router with
      pressed_key_consumed_by_global := false
      last_key_activity_at := w'.router.lv_tick_get
      long_press_timer := some true } } key
    refine ⟨⟨hran.settled.router rfl, hran.page_.trans h.page_, fun _ => ?_⟩, ?_, fun hloses => ?_⟩
    · rcases hran.lasts with ⟨htracked, -⟩ | ⟨hforgotten, -⟩
      · exact .inl htracked
      · exact .inr hforgotten
    · exact hcount.le.trans (hadds.trans (Nat.succ_le_succ hlength))
    · refine hcount.le.trans ?_
      rcases hloses with hholding | ⟨hlive, hmoves⟩
      · exact hadds.trans (count_of_holding hholding).ge
      · rw [if_pos (hold_action_of_moves_focus hmoves)]
        exact (htaken hlive hmoves).trans hlength

/-- The release of the pressed key on the UART page only calls the listener. -/
theorem on_release_uart (hpage : w.page.page_ = .UART_TEST) (answers : IoAnswers)
    (key : UInt32) :
    (listeners answers).on_release w key =
      { router := { w.router with
          pressed_key := 0
          pressed_key_consumed_by_global := false
          long_press_timer := w.router.long_press_timer.map fun _ => false }
        page := { w.page with uart_view :=
          if !w.router.pressed_key_consumed_by_global && w.router.config.key_release_listener then
            w.page.uart_view.handle_key_release key
          else w.page.uart_view } } := by
  have hlistener : key_release_listener key w =
      w.set_uart_view (w.page.uart_view.handle_key_release key) := by
    unfold key_release_listener
    rw [if_pos hpage]
  have hrelease : (if (!w.router.pressed_key_consumed_by_global) = true then
      (listeners answers).emit_key_release w key else w) =
      w.set_uart_view (if !w.router.pressed_key_consumed_by_global &&
          w.router.config.key_release_listener then w.page.uart_view.handle_key_release key
        else w.page.uart_view) := by
    unfold Listeners.emit_key_release
    by_cases hconsumed : (!w.router.pressed_key_consumed_by_global) = true
    · rw [if_pos hconsumed, hconsumed, Bool.true_and]
      split
      · exact hlistener
      · rfl
    · rw [if_neg hconsumed, Bool.eq_false_iff.2 hconsumed]
      rfl
  unfold Listeners.on_release
  dsimp only
  rw [dispatch_nav_key_other answers key (released_ne_nav_event _), ite_self, hrelease]
  rfl

/-- A release adds nothing but what waits for it. -/
theorem count_release (h : Tracks w) (answers : IoAnswers) {key : UInt32} (hkey : key ≠ 0) :
    Tracks ((listeners answers).route_key_state w key false) ∧
      Io.count ((listeners answers).route_key_state w key false) ≤ w.count ∧
      (Holding w.router → key ≠ w.router.last_key →
        Io.count ((listeners answers).route_key_state w key false) < w.count) := by
  have hignored (router : KeyRouterState) (hconfig : router.config = w.router.config) :
      Tracks ⟨{ router with last_key := key, last_key_pressed := false }, w.page⟩ :=
    ⟨h.settled.router hconfig, h.page_, fun hpressed => Bool.noConfusion hpressed⟩
  unfold Listeners.route_key_state
  rw [if_neg Bool.false_ne_true]
  by_cases hreleases : w.router.releases key = true
  · rw [if_pos hreleases]
    obtain ⟨hpressed, hsame⟩ : w.router.last_key_pressed = true ∧ w.router.pressed_key = key := by
      simpa [KeyRouterState.releases] using hreleases
    have hlast : w.router.last_key = key := by
      rcases h.tracked hpressed with htracked | hnone
      · exact htracked.symm.trans hsame
      · exact absurd (hsame.symm.trans hnone) hkey
    rw [on_release_uart h.page_]
    refine ⟨⟨(ran_set_uart_view h.settled _).settled.router rfl, h.page_,
      fun hfalse => Bool.noConfusion hfalse⟩, ?_, fun _ hother => absurd hlast.symm hother⟩
    refine (count_released _ key).trans_le ?_
    have hlength := UartView.length_handle_key_release w.page.uart_view key
    have hwaits : w.page.uart_view.input_buffer.length +
        (if hold_action_for_key_ key = .NONE then 0 else 1) = w.count := by
      rw [← count_pressed, ← hlast, ← hpressed]
    dsimp only
    split
    · exact hlength.trans hwaits.le
    · exact length_le_count w
  · rw [if_neg hreleases]
    refine ⟨hignored _ rfl, ?_, fun hholding _ => ?_⟩
    · exact (count_released w key).le.trans (length_le_count w)
    · refine (count_released w key).trans_lt ?_
      rw [count_of_holding hholding]
      exact Nat.lt_succ_self _

/-- The hold has had its long press. -/
def Io.sent (w : Io) : Io := { w with router := { w.router with long_press_sent := true } }

/-- The timer calls nothing before a long press is due, and nothing while keys are captured. -/
theorem tick_cases (answers : IoAnswers) :
    (listeners answers).tick w = w ∨
      (w.router.pressed_key ≠ 0 ∧
          ¬ w.router.lv_tick_elaps w.router.press_started_at < K_LONG_PRESS_MS) ∧
        ((listeners answers).tick w = w.sent ∨ w.router.config.modal_key_capture = false ∧ ∃ w',
          (w' = long_key_listener w.router.pressed_key w.sent ∨ w' = w.sent) ∧
            (listeners answers).tick w =
              (listeners answers).dispatch_nav_key w' w'.router.pressed_key .LONG_PRESSED) := by
  unfold Listeners.tick Listeners.long_press_timer_cb
  split
  swap
  · exact .inl rfl
  split
  · exact .inl rfl
  next hpending =>
  split
  · exact .inl rfl
  next hdue =>
  have hheld : w.router.pressed_key ≠ 0 := by
    intro hnone
    simp [hnone] at hpending
  refine .inr ⟨⟨hheld, hdue⟩, ?_⟩
  dsimp only
  split
  · exact .inl rfl
  next hmodal =>
  split
  · exact .inl rfl
  rcases emit_long_key_cases { w with router := { w.router with long_press_sent := true } } answers
    w.router.pressed_key with hemit | ⟨w', hemit, hlistener⟩
  · refine .inl ?_
    rw [hemit]
    rfl
  · refine .inr ⟨Bool.eq_false_iff.2 hmodal, w', hlistener, ?_⟩
    rw [hemit]
    rfl

theorem Settled.sent (h : Settled w) : Settled w.sent := h.router rfl

/-- A long press adds no character. -/
theorem length_long_key_listener (w : Io) (key : UInt32) :
    (long_key_listener key w).page.uart_view.input_buffer.length ≤
      w.page.uart_view.input_buffer.length := by
  have hview : (w.uart_handle_long_key key).1.page.uart_view.input_buffer.length ≤
      w.page.uart_view.input_buffer.length := by
    unfold Io.uart_handle_long_key
    dsimp only
    split
    · exact le_rfl
    split
    · exact Nat.zero_le _
    · rw [uart_view_show_config_dialog]
      exact le_rfl
    · exact le_rfl
    · exact le_rfl
    · exact le_rfl
    · exact le_rfl
  unfold long_key_listener
  dsimp only
  split
  · exact le_rfl
  split
  · exact hview
  split
  · exact hview
  · exact hview

theorem count_of_lasts {w' : Io} (hlasts : Lasts w.router w'.router)
    (hlength : w'.page.uart_view.input_buffer.length ≤ w.page.uart_view.input_buffer.length) :
    w'.count ≤ w.count := by
  by_cases hholding : Holding w'.router
  · rw [count_of_holding hholding, count_of_holding (hlasts.holding hholding)]
    exact Nat.succ_le_succ hlength
  · rw [count_of_not_holding hholding]
    exact hlength.trans (length_le_count w)

theorem Tracks.ran {w' : Io} {commands : List Command} (h : Tracks w) (hran : Ran w w' commands) :
    Tracks w' := by
  refine ⟨hran.settled, hran.page_.trans h.page_, fun hpressed => ?_⟩
  rcases hran.lasts with ⟨hkey, -, hpressed', hlast⟩ | ⟨hforgotten, -⟩
  · rw [hkey, hlast]
    exact h.tracked (hpressed'.symm.trans hpressed)
  · exact .inr hforgotten

theorem count_tick (h : Tracks w) (answers : IoAnswers) :
    Tracks ((listeners answers).tick w) ∧ Io.count ((listeners answers).tick w) ≤ w.count := by
  have hsent : Tracks w.sent := ⟨h.settled.sent, h.page_, h.tracked⟩
  rcases tick_cases (w := w) answers with htick | ⟨-, htick | ⟨hmodal, w', hlistener, htick⟩⟩
  · rw [htick]
    exact ⟨h, le_rfl⟩
  · rw [htick]
    exact ⟨hsent, le_rfl⟩
  · obtain ⟨commands, hran, -⟩ := long_press_spec h.settled.sent hmodal answers hlistener
    rw [htick]
    refine ⟨hsent.ran hran, count_of_lasts (w := w.sent) hran.lasts ?_⟩
    rw [uart_view_dispatch_nav_key]
    rcases hlistener with rfl | rfl
    · exact length_long_key_listener w.sent _
    · exact le_rfl

theorem pressed_keys_cons (e : IoEvent) (events : List IoEvent) :
    pressed_keys (e :: events) = pressed_keys [e] ++ pressed_keys events :=
  List.filterMap_append (l := [e])

/-- The event is that of a printable key, or none of a key. -/
def IoEvent.Printable (e : IoEvent) : Prop :=
  ∀ key pressed, e.action = .key key pressed → printable key = true

/-- An event adds the pressed character at most, and less if it loses one. -/
theorem count_handle (h : Tracks w) {e : IoEvent} (he : e.Printable) :
    Tracks (w.handle e) ∧ Io.count (w.handle e) ≤ w.count + (pressed_keys [e]).length ∧
      (Loses w e → Io.count (w.handle e) < w.count + (pressed_keys [e]).length) := by
  have hready : Tracks (w.ready e.elapsed) := ⟨h.settled.ready _, h.page_, h.tracked⟩
  unfold Io.handle Loses pressed_keys
  cases haction : e.action with
  | tick =>
    obtain ⟨htracks, hcount⟩ := count_tick hready e.answers
    simp only [List.filterMap_cons, haction]
    exact ⟨htracks, hcount, False.elim⟩
  | key key pressed =>
    have hkey := (printable_spec (he key pressed haction)).2.2.2
    cases pressed with
    | true =>
      obtain ⟨htracks, hadds, hloses⟩ := count_press hready e.answers hkey
      simp only [List.filterMap_cons, haction]
      refine ⟨htracks, hadds, fun hlost => Nat.lt_succ_of_le (hloses ?_)⟩
      rcases hlost with ⟨hholding, -⟩ | ⟨-, hlive, hmoves⟩
      · exact .inl hholding
      · exact .inr ⟨hlive, hmoves⟩
    | false =>
      obtain ⟨htracks, hadds, hloses⟩ := count_release hready e.answers hkey
      simp only [List.filterMap_cons, haction]
      refine ⟨htracks, hadds, fun hlost => ?_⟩
      rcases hlost with ⟨hholding, hother⟩ | ⟨hpressed, -⟩
      · exact hloses hholding fun hlast => hother ⟨trivial, hlast⟩
      · exact absurd hpressed Bool.false_ne_true

/-- What is lost stays lost. -/
theorem count_run {c : Config Io IoObs} (h : Tracks c.state) {events : List IoEvent}
    (hprintable : ∀ e ∈ events, e.Printable) :
    Io.count (io_test_page.run c events).state ≤
      c.state.count + (pressed_keys events).length := by
  induction events generalizing c with
  | nil => exact le_rfl
  | cons e events ih =>
    obtain ⟨he, hevents⟩ := List.forall_mem_cons.1 hprintable
    obtain ⟨htracks, hadds, -⟩ := count_handle h he
    have hrest := ih (c := io_test_page.next c e) htracks hevents
    rw [Machine.run_cons, pressed_keys_cons, List.length_append, ← Nat.add_assoc]
    exact hrest.trans (Nat.add_le_add_right hadds _)

end Count

/-- All keys of a typed run are printable. -/
theorem Typed.printable {down : List (UInt32 × ℕ)} {now : ℕ} {events : List IoEvent}
    (h : Typed down now events) (hdown : ∀ held ∈ down, printable held.1 = true) :
    ∀ e ∈ events, e.Printable := by
  induction events generalizing down now with
  | nil => exact fun e he => absurd he List.not_mem_nil
  | cons e events ih =>
    obtain ⟨-, h⟩ := h
    refine List.forall_mem_cons.2 ⟨fun key pressed haction => ?_, ?_⟩
    · rw [haction] at h
      cases pressed with
      | true => exact h.1
      | false =>
        obtain ⟨⟨held, hheld, rfl⟩, -⟩ := h
        exact hdown held hheld
    · cases haction : e.action with
      | tick =>
        rw [haction] at h
        exact ih h hdown
      | key key pressed =>
        rw [haction] at h
        cases pressed with
        | true => exact ih h.2.2 (List.forall_mem_cons.2 ⟨h.1, hdown⟩)
        | false => exact ih h.2 fun held hheld => hdown held (List.mem_of_mem_filter hheld)

/-! ## Typing without losses -/

namespace UartView

theorem append_input_char_eq {v : UartView} (h : v.input_buffer.length < K_MAX_INPUT_CHARS)
    (ch : UInt8) : v.append_input_char_ ch = { v with input_buffer := v.input_buffer ++ [ch] } := by
  unfold append_input_char_
  rw [if_neg (Nat.not_le.2 h)]

theorem type_key_printable (v : UartView) {key : UInt32} (h : printable key = true) :
    v.type_key (named key) =
      some (if hold_action_for_key_ key = .NONE then v.append_input_char_ key.toUInt8
        else v.begin_hold_action_ key (hold_action_for_key_ key)) := by
  obtain ⟨henter, hbackspace, hdelete, -⟩ := printable_spec h
  unfold type_key
  rw [henter, if_neg Bool.false_ne_true]
  show (if hold_action_for_key_ key ≠ .NONE then _ else _) = _
  by_cases hhold : hold_action_for_key_ key = .NONE
  · rw [if_neg (not_not.2 hhold), if_pos hhold]
    show (if (decide (key = LV_KEY_BACKSPACE) || decide (key = LV_KEY_DEL)) = true then _ else
      if printable key = true then _ else _) = _
    rw [decide_eq_false hbackspace, decide_eq_false hdelete, h]
    rfl
  · rw [if_pos hhold, if_neg hhold]
    rfl

/-- The release of a key without a hold command does nothing. -/
theorem handle_key_release_none (v : UartView) {key : UInt32}
    (h : hold_action_for_key_ key = .NONE) : v.handle_key_release key = v := by
  unfold handle_key_release
  rw [if_pos]
  unfold pending_hold_matches_
  rw [h]
  by_cases hpending : v.pending_hold_action = .NONE
  · rw [if_pos hpending]
    rfl
  · rw [if_neg hpending, decide_eq_false (Ne.symm hpending)]
    rfl

/-- The release of the pending key types it. -/
theorem handle_key_release_pending {v : UartView} {key : UInt32}
    (hhold : hold_action_for_key_ key ≠ .NONE) (hprintable : printable key = true)
    (haction : v.pending_hold_action = hold_action_for_key_ key)
    (hkey : v.pending_hold_key = key) (hconsumed : v.pending_hold_consumed = false)
    (hroom : v.input_buffer.length < K_MAX_INPUT_CHARS) :
    (v.handle_key_release key).input_buffer = v.input_buffer ++ [key.toUInt8] := by
  have hmatches : v.pending_hold_matches_ key = true := by
    unfold pending_hold_matches_
    rw [haction, if_neg hhold]
    exact decide_eq_true rfl
  unfold handle_key_release
  rw [hmatches, hconsumed, hkey]
  dsimp only
  rw [Bool.not_true, Bool.not_false, hprintable, Bool.and_true, if_neg Bool.false_ne_true,
    if_pos rfl, append_input_char_eq]
  exact hroom

end UartView

variable {w : Io}

/-- A key that the dialog has no use for reaches the view. -/
theorem key_listener_printable (hpage : w.page.page_ = .UART_TEST)
    (hclosed : w.page.config_dialog = none) (answers : IoAnswers) {key : UInt32}
    (hprintable : printable key = true)
    (hunused : ¬ (w.page.screen.live = true ∧ moves_focus key = true)) :
    key_listener answers key w =
      { w with page := { w.page with
        screen := w.screen
        uart_view := if hold_action_for_key_ key = .NONE then
            w.page.uart_view.append_input_char_ key.toUInt8
          else w.page.uart_view.begin_hold_action_ key (hold_action_for_key_ key) } } := by
  have hresult : w.handle_test_result_dialog_key_ answers (named key) =
      ({ w with page := { w.page with screen := w.screen } }, false) := by
    refine handle_test_result_dialog_key_unused ?_
    by_cases hlive : w.page.screen.live = true
    · have hmoves := Bool.eq_false_iff.2 fun hmoves => hunused ⟨hlive, hmoves⟩
      exact handle_ignored (ignored_of_printable hprintable hmoves) w.screen answers.session
    · exact handle_not_live (s := w.screen) (Bool.eq_false_iff.2 hlive) _ _
  have hview := w.page.uart_view.type_key_printable hprintable
  unfold key_listener
  rw [hresult]
  dsimp only
  rw [if_neg Bool.false_ne_true, hpage]
  dsimp only
  unfold Io.uart_handle_key
  dsimp only
  rw [hclosed, hview]
  rfl

/-- Nothing has been lost: the buffer has what was typed, but for the character of a hold key that
was pressed last. Only such a hold key is tracked after its press, so it is released before a long
press. -/
structure Typing (w : Io) (down : List (UInt32 × ℕ)) (now : ℕ) (typed : List UInt32) : Prop where
  settled : Settled w
  page_ : w.page.page_ = .UART_TEST
  closed : w.page.config_dialog = none
  releasing : w.router.config.key_release_listener = true
  own : w.router.pressed_key_consumed_by_global = false
  clock : w.router.now = now
  letters : ∀ held ∈ down, printable held.1 = true
  buffer : w.page.uart_view.input_buffer ++
    (if Holding w.router then [w.router.last_key.toUInt8] else []) = characters typed
  waits : Holding w.router →
    w.page.uart_view.pending_hold_action = hold_action_for_key_ w.router.last_key ∧
      w.page.uart_view.pending_hold_key = w.router.last_key ∧
      w.page.uart_view.pending_hold_consumed = false
  held : w.router.last_key_pressed = true → w.router.pressed_key = w.router.last_key ∧
    ∃ t ≤ now, (w.router.last_key, t) ∈ down ∧ w.router.press_started_at = .ofNat t
  hold : hold_action_for_key_ w.router.pressed_key ≠ .NONE → w.router.last_key_pressed = true

namespace Typing

variable {down : List (UInt32 × ℕ)} {now : ℕ} {typed : List UInt32}

theorem tracks (h : Typing w down now typed) : Tracks w :=
  ⟨h.settled, h.page_, fun hpressed => .inl (h.held hpressed).1⟩

theorem ready (h : Typing w down now typed) (elapsed : ℕ) :
    Typing (w.ready elapsed) down (now + elapsed) typed where
  settled := h.settled.ready elapsed
  page_ := h.page_
  closed := h.closed
  releasing := h.releasing
  own := h.own
  clock := congrArg (· + elapsed) h.clock
  letters := h.letters
  buffer := h.buffer
  waits := h.waits
  held hpressed := by
    obtain ⟨hkey, t, ht, hdown, hstarted⟩ := h.held hpressed
    exact ⟨hkey, t, ht.trans (Nat.le_add_right ..), hdown, hstarted⟩
  hold := h.hold

/-- As long as nothing is lost, all typed characters are counted. -/
theorem count (h : Typing w down now typed) : w.count = typed.length := by
  have hlength := congrArg List.length h.buffer
  rw [List.length_append, characters, List.length_map] at hlength
  rw [← hlength]
  by_cases hholding : Holding w.router
  · rw [count_of_holding hholding, if_pos hholding]
    rfl
  · rw [count_of_not_holding hholding, if_neg hholding]
    rfl

theorem buffer_of_holding (h : Typing w down now typed) (hholding : Holding w.router) :
    w.page.uart_view.input_buffer ++ [w.router.last_key.toUInt8] = characters typed := by
  rw [← h.buffer, if_pos hholding]

theorem buffer_of_not_holding (h : Typing w down now typed) (hholding : ¬ Holding w.router) :
    w.page.uart_view.input_buffer = characters typed := by
  rw [← h.buffer, if_neg hholding, List.append_nil]

theorem characters_concat (typed : List UInt32) (key : UInt32) :
    characters (typed ++ [key]) = characters typed ++ [key.toUInt8] := List.map_append

/-- A key that is up is pressed, and its character is typed or waits. -/
theorem press (h : Typing w down now typed) (answers : IoAnswers) {key : UInt32}
    (hprintable : printable key = true) (hup : ∀ held ∈ down, held.1 ≠ key)
    (hfree : ¬ Holding w.router)
    (hunused : ¬ (w.page.screen.live = true ∧ moves_focus key = true))
    (hroom : typed.length < K_MAX_INPUT_CHARS) :
    Typing ((listeners answers).route_key_state w key true) ((key, now) :: down) now
      (typed ++ [key]) := by
  have hnew : w.router.last_key_pressed = true → key ≠ w.router.pressed_key := by
    intro hpressed hsame
    obtain ⟨htracked, t, -, hdown, -⟩ := h.held hpressed
    exact hup _ hdown (htracked.symm.trans hsame.symm)
  have hnext : (listeners answers).route_key_state w key true =
      { router := { w.router with
          pressed_key := key
          press_started_at := w.router.lv_tick_get
          long_press_sent := false
          pressed_key_consumed_by_global := false
          last_key_activity_at := w.router.lv_tick_get
          long_press_timer := some true
          last_key := key
          last_key_pressed := true }
        page := { w.page with
          screen := w.screen
          uart_view := if hold_action_for_key_ key = .NONE then
              w.page.uart_view.append_input_char_ key.toUInt8
            else w.page.uart_view.begin_hold_action_ key (hold_action_for_key_ key) } } := by
    unfold Listeners.route_key_state
    dsimp only
    rw [if_pos rfl, on_press_new h.settled h.page_ answers hnew,
      key_listener_printable (w := w.held key) h.page_ h.closed answers hprintable hunused]
    rfl
  obtain ⟨⟨hsettled, hpage, -⟩, -⟩ := count_press h.tracks answers (printable_spec hprintable).2.2.2
  have hbuffer := h.buffer_of_not_holding hfree
  have hlength : w.page.uart_view.input_buffer.length < K_MAX_INPUT_CHARS := by
    rwa [hbuffer, characters, List.length_map]
  rw [hnext] at hsettled hpage ⊢
  have hstarted : w.router.lv_tick_get = .ofNat now := congrArg UInt32.ofNat h.clock
  by_cases hhold : hold_action_for_key_ key = .NONE
  · rw [if_pos hhold, UartView.append_input_char_eq hlength] at hsettled hpage ⊢
    exact {
      settled := hsettled
      page_ := hpage
      closed := h.closed
      releasing := h.releasing
      own := rfl
      clock := h.clock
      letters := List.forall_mem_cons.2 ⟨hprintable, h.letters⟩
      buffer := by
        rw [if_neg fun hholding => hholding.2 hhold, List.append_nil, characters_concat, ← hbuffer]
      waits := fun hholding => absurd hhold hholding.2
      held := fun _ => ⟨rfl, now, le_rfl, List.mem_cons_self, hstarted⟩
      hold := fun _ => rfl }
  · rw [if_neg hhold] at hsettled hpage ⊢
    exact {
      settled := hsettled
      page_ := hpage
      closed := h.closed
      releasing := h.releasing
      own := rfl
      clock := h.clock
      letters := List.forall_mem_cons.2 ⟨hprintable, h.letters⟩
      buffer := by
        rw [if_pos ⟨rfl, hhold⟩, characters_concat, ← hbuffer]
        rfl
      waits := fun _ => ⟨rfl, rfl, rfl⟩
      held := fun _ => ⟨rfl, now, le_rfl, List.mem_cons_self, hstarted⟩
      hold := fun _ => rfl }

/-- A key is released, and what waits for it is typed. -/
theorem release (h : Typing w down now typed) (answers : IoAnswers) {key : UInt32}
    (hkept : Holding w.router → key = w.router.last_key)
    (hroom : typed.length ≤ K_MAX_INPUT_CHARS) :
    Typing ((listeners answers).route_key_state w key false) (down.filter (·.1 ≠ key)) now
      typed := by
  have hletters : ∀ held ∈ down.filter (·.1 ≠ key), printable held.1 = true :=
    fun held hheld => h.letters held (List.mem_of_mem_filter hheld)
  unfold Listeners.route_key_state
  rw [if_neg Bool.false_ne_true]
  by_cases hreleases : w.router.releases key = true
  · obtain ⟨hpressed, hsame⟩ : w.router.last_key_pressed = true ∧ w.router.pressed_key = key := by
      simpa [KeyRouterState.releases] using hreleases
    obtain ⟨htracked, t, -, hdown, -⟩ := h.held hpressed
    obtain rfl : w.router.last_key = key := htracked.symm.trans hsame
    have hview : (w.page.uart_view.handle_key_release w.router.last_key).input_buffer =
        characters typed := by
      by_cases hholding : Holding w.router
      · obtain ⟨haction, hkey, hconsumed⟩ := h.waits hholding
        have hlength := h.count
        rw [count_of_holding hholding] at hlength
        have hbuffer := UartView.handle_key_release_pending hholding.2 (h.letters _ hdown) haction
          hkey hconsumed (Nat.lt_of_succ_le (hlength.le.trans hroom))
        exact hbuffer.trans (h.buffer_of_holding hholding)
      · have hnone : hold_action_for_key_ w.router.last_key = .NONE := by
          by_contra hhold
          exact hholding ⟨hpressed, hhold⟩
        rw [UartView.handle_key_release_none _ hnone]
        exact h.buffer_of_not_holding hholding
    have hfinish := on_release_uart h.page_ answers w.router.last_key
    rw [h.own, h.releasing, Bool.not_false, Bool.true_and, if_pos rfl] at hfinish
    rw [if_pos hreleases, hfinish]
    exact {
      settled := (ran_set_uart_view h.settled _).settled.router rfl
      page_ := h.page_
      closed := h.closed
      releasing := h.releasing
      own := rfl
      clock := h.clock
      letters := hletters
      buffer := by
        rw [if_neg fun hholding => Bool.false_ne_true hholding.1, List.append_nil]
        exact hview
      waits := fun hholding => absurd hholding.1 Bool.false_ne_true
      held := fun hfalse => absurd hfalse Bool.false_ne_true
      hold := fun hhold => absurd rfl hhold }
  · have hfree : ¬ Holding w.router := by
      intro hholding
      refine hreleases ?_
      unfold KeyRouterState.releases
      rw [hholding.1, (h.held hholding.1).1, hkept hholding]
      exact decide_eq_true rfl
    rw [if_neg hreleases]
    exact {
      settled := h.settled.router rfl
      page_ := h.page_
      closed := h.closed
      releasing := h.releasing
      own := h.own
      clock := h.clock
      letters := hletters
      buffer := by
        rw [if_neg fun hholding => Bool.false_ne_true hholding.1, List.append_nil]
        exact h.buffer_of_not_holding hfree
      waits := fun hholding => absurd hholding.1 Bool.false_ne_true
      held := fun hfalse => absurd hfalse Bool.false_ne_true
      hold := fun hhold => by
        have hpressed := h.hold hhold
        rw [(h.held hpressed).1] at hhold
        exact absurd ⟨hpressed, hhold⟩ hfree }

/-- A hold key is not held long enough for a long press. -/
theorem not_due (h : Typing w down now typed)
    (hshort : ∀ held ∈ down, now - held.2 < K_LONG_PRESS_MS.toNat)
    (hdue : ¬ w.router.lv_tick_elaps w.router.press_started_at < K_LONG_PRESS_MS) :
    hold_action_for_key_ w.router.pressed_key = .NONE := by
  by_contra hhold
  obtain ⟨-, t, ht, hdown, hstarted⟩ := h.held (h.hold hhold)
  refine hdue ?_
  unfold KeyRouterState.lv_tick_elaps KeyRouterState.lv_tick_get
  have hnow := hshort _ hdown
  have hsub : UInt32.ofNat now - .ofNat t = .ofNat (now - t) := (UInt32.ofNat_sub ht).symm
  rw [h.clock, hstarted, hsub, UInt32.lt_iff_toNat_lt, UInt32.toNat_ofNat']
  exact (Nat.mod_le _ _).trans_lt hnow

theorem sent (h : Typing w down now typed) : Typing w.sent down now typed where
  settled := h.settled.sent
  page_ := h.page_
  closed := h.closed
  releasing := h.releasing
  own := h.own
  clock := h.clock
  letters := h.letters
  buffer := h.buffer
  waits := h.waits
  held := h.held
  hold := h.hold

/-- The dialog for the result opens, and the router may forget a key that has been typed. -/
theorem show_test_result_dialog_ (h : Typing w down now typed)
    (hmodal : w.router.config.modal_key_capture = false)
    (hnone : hold_action_for_key_ w.router.pressed_key = .NONE) :
    Typing w.show_test_result_dialog_ down now typed := by
  have hran := ran_show_test_result_dialog_ h.settled fun _ => hmodal
  have hsettled := hran.settled
  have hpage := hran.page_.trans h.page_
  have hfree : ¬ Holding w.router := by
    intro hholding
    have hhold := hholding.2
    rw [← (h.held hholding.1).1] at hhold
    exact hhold hnone
  unfold Io.show_test_result_dialog_ Io.set_screen KeyRouterState.set_modal_key_capture
    at hsettled hpage ⊢
  split
  next hsame =>
    rw [if_pos hsame] at hsettled hpage
    exact ⟨hsettled, hpage, h.closed, h.releasing, h.own, h.clock, h.letters, h.buffer, h.waits,
      h.held, h.hold⟩
  next hother =>
    rw [if_neg hother] at hsettled hpage
    exact {
      settled := hsettled
      page_ := hpage
      closed := h.closed
      releasing := h.releasing
      own := h.own
      clock := h.clock
      letters := h.letters
      buffer := by
        rw [if_neg fun hholding => Bool.false_ne_true hholding.1, List.append_nil]
        exact h.buffer_of_not_holding hfree
      waits := fun hholding => absurd hholding.1 Bool.false_ne_true
      held := fun hfalse => absurd hfalse Bool.false_ne_true
      hold := fun hhold => absurd rfl hhold }

/-- The keys of the buttons that go back or open the settings have hold commands. -/
theorem nav_key_to_index_of_none {key : UInt32} (hnone : hold_action_for_key_ key = .NONE)
    (s : KeyRouterState) : s.nav_key_to_index key ≠ 0 ∧ s.nav_key_to_index key ≠ 2 := by
  have hmap : ∀ entry ∈ K_NAV_KEY_MAP, hold_action_for_key_ entry.key = .NONE →
      (entry.click_index ≠ 0 ∧ entry.click_index ≠ 2) ∧
        entry.long_press_index ≠ 0 ∧ entry.long_press_index ≠ 2 := by
    decide +kernel
  unfold KeyRouterState.nav_key_to_index
  split
  · decide
  cases hfind : K_NAV_KEY_MAP.find? (·.key = key) with
  | none =>
    show K_NAV_KEY_COUNT ≠ 0 ∧ K_NAV_KEY_COUNT ≠ 2
    decide
  | some entry =>
    have hkey : entry.key = key := by simpa using List.find?_some hfind
    have hindex := hmap entry (List.mem_of_find?_eq_some hfind) (hkey ▸ hnone)
    dsimp only
    split
    · exact hindex.1
    · exact hindex.2

/-- A long press of a key without a hold command opens the dialog for the result at most. -/
theorem dispatch_long_press (hpage : w.page.page_ = .UART_TEST) (answers : IoAnswers)
    {key : UInt32} (hnone : hold_action_for_key_ key = .NONE) :
    (listeners answers).dispatch_nav_key w key .LONG_PRESSED = w ∨
      (listeners answers).dispatch_nav_key w key .LONG_PRESSED = w.show_test_result_dialog_ := by
  obtain ⟨hback, hsettings⟩ := nav_key_to_index_of_none hnone w.router
  unfold Listeners.dispatch_nav_key
  dsimp only
  split
  · exact .inl rfl
  split
  · exact .inl rfl
  have haction : update_nav_actions_ .UART_TEST (w.router.nav_key_to_index key) = none ∨
      update_nav_actions_ .UART_TEST (w.router.nav_key_to_index key) =
        some ⟨.confirm, .LONG_PRESSED⟩ := by
    generalize w.router.nav_key_to_index key = index at hback hsettings
    match index with
    | 0 => exact absurd rfl hback
    | 1 => exact .inl rfl
    | 2 => exact absurd rfl hsettings
    | 3 => exact .inl rfl
    | 4 => exact .inr rfl
    | _ + 5 => exact .inl rfl
  show trigger_nav_action answers _ _ w = w ∨ trigger_nav_action answers _ _ w = _
  unfold trigger_nav_action
  rw [hpage]
  rcases haction with hnothing | hconfirm
  · rw [hnothing]
    exact .inl rfl
  · rw [hconfirm]
    exact .inr rfl

theorem tick (h : Typing w down now typed) (answers : IoAnswers)
    (hshort : ∀ held ∈ down, now - held.2 < K_LONG_PRESS_MS.toNat) :
    Typing ((listeners answers).tick w) down now typed := by
  rcases tick_cases (w := w) answers with
    htick | ⟨⟨-, hdue⟩, htick | ⟨hmodal, w', hlistener, htick⟩⟩
  · rw [htick]
    exact h
  · rw [htick]
    exact h.sent
  · have hnone := h.not_due hshort hdue
    have hview : w.sent.uart_handle_long_key w.router.pressed_key = (w.sent, false) := by
      unfold Io.uart_handle_long_key
      dsimp only
      rw [decide_eq_true hnone]
      rfl
    have hescape : w.router.pressed_key ≠ LV_KEY_ESC := by
      intro hkey
      rw [hkey] at hnone
      cases hnone
    have hleft : long_key_listener w.router.pressed_key w.sent = w.sent := by
      unfold long_key_listener
      rw [if_neg (not_not.2 h.sent.page_), hview]
      dsimp only
      rw [if_neg Bool.false_ne_true, if_neg hescape]
    obtain rfl : w' = w.sent := by
      rcases hlistener with hcalled | hnot
      · exact hcalled.trans hleft
      · exact hnot
    rw [htick]
    rcases dispatch_long_press h.sent.page_ answers hnone with hnothing | hopens
    · exact hnothing.symm ▸ h.sent
    · exact hopens.symm ▸ h.sent.show_test_result_dialog_ hmodal hnone

/-- A step that loses nothing. -/
theorem next (h : Typing w down now typed) {e : IoEvent} {events : List IoEvent}
    (htyped : Typed down now (e :: events)) (hkept : ¬ Loses w e)
    (hroom : (typed ++ pressed_keys [e]).length ≤ K_MAX_INPUT_CHARS) :
    ∃ down' now', Typing (w.handle e) down' now' (typed ++ pressed_keys [e]) ∧
      Typed down' now' events := by
  obtain ⟨hshort, htyped⟩ := htyped
  have hready := h.ready e.elapsed
  unfold Loses at hkept
  unfold Io.handle pressed_keys at *
  cases haction : e.action with
  | tick =>
    rw [haction] at htyped
    simp only [List.filterMap_cons, haction, List.filterMap_nil, List.append_nil]
    exact ⟨down, _, hready.tick e.answers hshort, htyped⟩
  | key key pressed =>
    rw [haction] at htyped hkept
    cases pressed with
    | true =>
      obtain ⟨hprintable, hup, htyped⟩ := htyped
      simp only [List.filterMap_cons, haction, List.filterMap_nil, List.length_append] at hroom ⊢
      refine ⟨_, _, hready.press e.answers hprintable hup (fun hholding => ?_) (fun hused => ?_)
        hroom, htyped⟩
      · exact hkept (.inl ⟨hholding, fun hreleased => absurd hreleased.1.symm Bool.false_ne_true⟩)
      · exact hkept (.inr ⟨rfl, hused⟩)
    | false =>
      obtain ⟨-, htyped⟩ := htyped
      simp only [List.filterMap_cons, haction, List.filterMap_nil, List.append_nil] at hroom ⊢
      refine ⟨_, _, hready.release e.answers (fun hholding => ?_) hroom, htyped⟩
      by_contra hother
      exact hkept (.inl ⟨hholding, fun hreleased => hother hreleased.2⟩)

/-- When no key is down, all that was typed is in the buffer. -/
theorem buffer_of_up (h : Typing w [] now typed) :
    w.page.uart_view.input_buffer = characters typed := by
  refine h.buffer_of_not_holding fun hholding => ?_
  obtain ⟨-, t, -, hdown, -⟩ := h.held hholding.1
  exact absurd hdown List.not_mem_nil

/-- Either a run loses nothing to its end, or it lacks a character from some step on. -/
theorem run {c : Config Io IoObs} (h : Typing c.state down now typed) {events : List IoEvent}
    (htyped : Typed down now events)
    (hroom : (typed ++ pressed_keys events).length < K_MAX_INPUT_CHARS) :
    (io_test_page.run c events).state.page.uart_view.input_buffer =
        characters (typed ++ pressed_keys events) ↔
      io_test_page.Along (fun c e => ¬ Loses c.state e) c events := by
  induction events generalizing c down now typed with
  | nil =>
    obtain rfl : down = [] := htyped
    refine iff_of_true ?_ trivial
    rw [show pressed_keys [] = [] from rfl, List.append_nil]
    exact h.buffer_of_up
  | cons e events ih =>
    have hprintable := htyped.printable h.letters
    obtain ⟨he, hevents⟩ := List.forall_mem_cons.1 hprintable
    rw [pressed_keys_cons, ← List.append_assoc] at hroom ⊢
    by_cases hloses : Loses c.state e
    · refine iff_of_false (fun hbuffer => ?_) fun halong => halong.1 hloses
      obtain ⟨htracks, -, hlost⟩ := count_handle h.tracks he
      have hlacks := hlost hloses
      have hrest := count_run (c := io_test_page.next c e) htracks hevents
      have hlength := congrArg List.length hbuffer
      rw [h.count] at hlacks
      rw [characters, List.length_map, List.length_append, List.length_append] at hlength
      refine absurd hlength (Nat.ne_of_lt ?_)
      calc (io_test_page.run c (e :: events)).state.page.uart_view.input_buffer.length
          ≤ Io.count (io_test_page.run c (e :: events)).state := length_le_count _
        _ ≤ Io.count (c.state.handle e) + (pressed_keys events).length := hrest
        _ < typed.length + (pressed_keys [e]).length + (pressed_keys events).length :=
          Nat.add_lt_add_right hlacks _
    · have hone : (typed ++ pressed_keys [e]).length ≤ K_MAX_INPUT_CHARS := by
        have hprefix := List.prefix_append (typed ++ pressed_keys [e]) (pressed_keys events)
        exact hprefix.length_le.trans hroom.le
      obtain ⟨down', now', hnext, htyped'⟩ := h.next htyped hloses hone
      have hrest := ih (c := io_test_page.next c e) hnext htyped' hroom
      exact hrest.trans (and_iff_right hloses).symm

end Typing

theorem typing_start (app : TestSequence) (nav_direction_aliases_enabled : Bool) (now : ℕ) :
    Typing (.start .UART_TEST app nav_direction_aliases_enabled now) [] now [] where
  settled := by
    refine ⟨iff_of_false Bool.false_ne_true fun hmode => ?_, rfl, fun _ hor => ?_, fun _ _ => rfl⟩
    · cases hmode
    · rcases hor with hdialog | hlive
      · cases hdialog
      · cases hlive
  page_ := rfl
  closed := rfl
  releasing := rfl
  own := rfl
  clock := rfl
  letters held hheld := absurd hheld List.not_mem_nil
  buffer := rfl
  waits hholding := absurd hholding.1 Bool.false_ne_true
  held hfalse := absurd hfalse Bool.false_ne_true
  hold hhold := absurd rfl hhold

/-- In every run of presses and releases of printable keys on the UART page, in any order, with no
key down for a long press and fewer keys than fit, the buffer has the pressed characters in order
when all keys are up if and only if no step of the run loses one. -/
theorem typed_iff (app : TestSequence) (nav_direction_aliases_enabled : Bool) (now : ℕ)
    (events : List IoEvent) (htyped : Typed [] now events)
    (hfew : (pressed_keys events).length < K_MAX_INPUT_CHARS) :
    (io_test_page.run ⟨.start .UART_TEST app nav_direction_aliases_enabled now, []⟩
        events).state.page.uart_view.input_buffer = characters (pressed_keys events) ↔
      io_test_page.Along (fun c e => ¬ Loses c.state e)
        ⟨.start .UART_TEST app nav_direction_aliases_enabled now, []⟩ events :=
  (typing_start app nav_direction_aliases_enabled now).run
    (c := ⟨.start .UART_TEST app nav_direction_aliases_enabled now, []⟩) htyped hfew

/-- r and e, and e is pressed before r is released. -/
def rollover : List IoEvent :=
  [⟨0, .key 'r'.val true, ⟨⟨true, true⟩, true⟩⟩, ⟨60, .key 'e'.val true, ⟨⟨true, true⟩, true⟩⟩,
    ⟨60, .key 'r'.val false, ⟨⟨true, true⟩, true⟩⟩, ⟨60, .key 'e'.val false, ⟨⟨true, true⟩, true⟩⟩]

theorem typed_rollover : Typed [] 0 rollover := by decide +kernel

/-- Both sides are false there. -/
theorem typed_iff_rollover :
    (io_test_page.run ⟨.start .UART_TEST ⟨.CARDPUTER_ZERO, false, 0⟩ true 0, []⟩
        rollover).state.page.uart_view.input_buffer = characters (pressed_keys rollover) ↔
      io_test_page.Along (fun c e => ¬ Loses c.state e)
        ⟨.start .UART_TEST ⟨.CARDPUTER_ZERO, false, 0⟩ true 0, []⟩ rollover :=
  typed_iff ⟨.CARDPUTER_ZERO, false, 0⟩ true 0 rollover typed_rollover (by decide +kernel)

/-- The r gets lost. -/
theorem rollover_loses : ¬ ∀ (app : TestSequence) (nav_direction_aliases_enabled : Bool) (now : ℕ)
    (events : List IoEvent), Typed [] now events →
      (pressed_keys events).length < K_MAX_INPUT_CHARS →
      (io_test_page.run ⟨.start .UART_TEST app nav_direction_aliases_enabled now, []⟩
        events).state.page.uart_view.input_buffer = characters (pressed_keys events) := by
  intro h
  have hbuffer := h ⟨.CARDPUTER_ZERO, false, 0⟩ true 0 rollover typed_rollover (by decide +kernel)
  have hrun : (io_test_page.run ⟨.start .UART_TEST ⟨.CARDPUTER_ZERO, false, 0⟩ true 0, []⟩
      rollover).state.page.uart_view.input_buffer = characters ['e'.val] := by
    decide +kernel
  rw [hrun] at hbuffer
  exact absurd hbuffer (by decide)

end FactoryTest.View

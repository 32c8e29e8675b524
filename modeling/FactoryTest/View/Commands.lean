import FactoryTest.View.IoTestPage

/-!
# One press, one command

A press reaches the listener of the page, and then perhaps a button of the navigation bar. In
between the listener may have opened a dialog, closed one, or left the page.

**Calls** (`Ran`). Each function says which commands it runs, and keeps the modes of the router in
step with the dialogs (`Settled`). The listener runs one command at most, and if it runs one then
the button has nothing to run any more (`Quiet`): either the settings have opened, and buttons no
longer wait for clicks, or the key has no button.

**Theorem (`one_command_iff`).** The exception is 5 on the Link page. A press runs one command at
most if and only if 5 is not pressed there while its button can be clicked.
-/

namespace FactoryTest.View

open Input Session

/-! ## The property -/

/-- The event is a press. -/
def IoObs.presses (o : IoObs) : Bool :=
  match o.action with
  | .key _ pressed => pressed
  | .tick => false

/-- The command began an attempt of the test. -/
def Command.began : Command → Bool
  | .restart began => began
  | _ => false

/-- A press runs one command at most, also if what its hold runs before the next press counts, and
begins one attempt of the test at most. -/
def OneCommand (history : List IoObs) : Prop :=
  ∀ before press later after, history = before ++ press :: later ++ after →
    press.presses = true → (∀ o ∈ later, o.presses = false) →
      ((press :: later).flatMap IoObs.commands).length ≤ 1 ∧
        ((press :: later).flatMap IoObs.commands).countP Command.began ≤ 1

/-- 5 is pressed on the Link page while no dialog captures keys. It is not a repeat, and its button
can be clicked. -/
def BoundTwice (w : Io) (e : IoEvent) : Prop :=
  w.page.page_ = .LINK_TEST ∧ e.action = .key '5'.val true ∧
    w.dialog_visible = false ∧ w.router.config.modal_key_capture = false ∧
    w.router.config.nav_buttons 1 = true ∧
    (w.router.last_key_pressed = false ∨ w.router.pressed_key ≠ '5'.val) ∧
    (w.router.last_key_pressed = false ∨ w.router.last_key ≠ '5'.val)

/-! ## The router -/

theorem config_set_modal_key_capture (s : KeyRouterState) (enabled : Bool) :
    (s.set_modal_key_capture enabled).config =
      { s.config with modal_key_capture := enabled } := by
  unfold KeyRouterState.set_modal_key_capture
  by_cases hsame : s.config.modal_key_capture = enabled
  · rw [if_pos hsame, ← hsame]
  · rw [if_neg hsame]
    rfl

/-- The hold goes on, or the router has forgotten it. -/
def Lasts (s s' : KeyRouterState) : Prop :=
  (s'.pressed_key = s.pressed_key ∧ s'.long_press_sent = s.long_press_sent ∧
    s'.last_key_pressed = s.last_key_pressed ∧ s'.last_key = s.last_key) ∨
    s'.pressed_key = 0 ∧ s'.last_key_pressed = false

theorem Lasts.refl (s : KeyRouterState) : Lasts s s := .inl ⟨rfl, rfl, rfl, rfl⟩

theorem Lasts.trans {s s' s'' : KeyRouterState} (h : Lasts s s') (h' : Lasts s' s'') :
    Lasts s s'' := by
  rcases h' with ⟨hkey, hsent, hlast, hlast_key⟩ | hforgotten
  · unfold Lasts
    rwa [hkey, hsent, hlast, hlast_key]
  · exact .inr hforgotten

theorem lasts_set_modal_key_capture (s : KeyRouterState) (enabled : Bool) :
    Lasts s (s.set_modal_key_capture enabled) := by
  unfold KeyRouterState.set_modal_key_capture
  by_cases hsame : s.config.modal_key_capture = enabled
  · rw [if_pos hsame]
    exact .refl s
  · rw [if_neg hsame]
    exact .inr ⟨rfl, rfl⟩

theorem lasts_set_nav_trigger_mode (s : KeyRouterState) (mode : NavTriggerMode) :
    Lasts s (s.set_nav_trigger_mode mode) := .inr ⟨rfl, rfl⟩

/-! ## What a call does -/

/-- The dialog for the result takes keys. -/
def BaseScreen.live (s : BaseScreen) : Bool :=
  match s.test_result_dialog with
  | some dialog => dialog.visible && !dialog.action_triggered
  | none => false

/-- The modes of the router fit the dialogs. -/
structure Settled (w : Io) : Prop where
  modes : w.page.config_dialog.isSome = true ↔
    w.router.config.nav_trigger_mode = .LONG_PRESS
  listening : w.router.config.key_listener = true
  captured : w.page.page_ = .UART_TEST →
    w.page.config_dialog.isSome = true ∨ w.page.screen.live = true →
      w.router.config.modal_key_capture = true
  alone : w.page.page_ = .UART_TEST → w.page.config_dialog.isSome = true →
    w.page.screen.live = false

/-- The call runs these commands. -/
structure Ran (w w' : Io) (commands : List Command) : Prop where
  commands : w'.page.commands = w.page.commands ++ commands
  page_ : w'.page.page_ = w.page.page_
  lasts : Lasts w.router w'.router
  settled : Settled w'

theorem Ran.refl {w : Io} (h : Settled w) : Ran w w [] :=
  ⟨(List.append_nil _).symm, rfl, .refl _, h⟩

theorem Ran.trans {w w' w'' : Io} {commands commands' : List Command} (h : Ran w w' commands)
    (h' : Ran w' w'' commands') : Ran w w'' (commands ++ commands') :=
  ⟨by rw [h'.commands, h.commands, List.append_assoc], h'.page_.trans h.page_,
    h.lasts.trans h'.lasts, h'.settled⟩

variable {w : Io}

theorem ran_run (h : Settled w) (command : Command) : Ran w (w.run command) [command] :=
  ⟨rfl, rfl, .refl _, h.modes, h.listening, h.captured, h.alone⟩

theorem ran_set_uart_view (h : Settled w) (view : UartView) : Ran w (w.set_uart_view view) [] :=
  ⟨(List.append_nil _).symm, rfl, .refl _, h.modes, h.listening, h.captured, h.alone⟩

theorem ran_clear_nav_actions (h : Settled w) : Ran w w.clear_nav_actions [] :=
  ⟨(List.append_nil _).symm, rfl, .refl _, h.modes, h.listening, h.captured, h.alone⟩

theorem ran_request_back_or_quit (h : Settled w) : Ran w w.request_back_or_quit [.back] :=
  ⟨rfl, rfl, .refl _, h.modes, h.listening, h.captured, h.alone⟩

theorem ran_restart (h : Settled w) (answers : IoAnswers) :
    ∃ command, Ran w (LinkView.restart answers w) [command] := ⟨_, ran_run h _⟩

theorem ran_hide_config_dialog_ (h : Settled w)
    (hvisible : w.page.page_ = .UART_TEST → w.page.config_dialog.isSome = true) :
    Ran w w.hide_config_dialog_ [] where
  commands := (List.append_nil _).symm
  page_ := rfl
  lasts := .inr ⟨rfl, rfl⟩
  settled := by
    refine ⟨iff_of_false Bool.false_ne_true fun hmode => ?_, ?_, ?_, ?_⟩
    · cases hmode
    · show (w.router.set_modal_key_capture false).config.key_listener = true
      rw [config_set_modal_key_capture]
      exact h.listening
    · rintro hpage (hdialog | hlive)
      · cases hdialog
      · have hdead : w.page.screen.live = false := h.alone hpage (hvisible hpage)
        exact absurd (hdead.symm.trans hlive) Bool.false_ne_true
    · intro _ hdialog
      cases hdialog

theorem ran_open_dialog (h : Settled w)
    (hlive : w.page.page_ = .UART_TEST → w.page.screen.live = false) :
    Ran w w.open_dialog [] where
  commands := (List.append_nil _).symm
  page_ := rfl
  lasts := (lasts_set_nav_trigger_mode _ _).trans (lasts_set_modal_key_capture _ _)
  settled := by
    have hconfig : w.open_dialog.router.config =
        { w.router.config with nav_trigger_mode := .LONG_PRESS, modal_key_capture := true } :=
      config_set_modal_key_capture ..
    refine ⟨iff_of_true rfl ?_, ?_, fun _ _ => ?_, fun hpage _ => hlive hpage⟩ <;> rw [hconfig]
    exact h.listening

/-- The router forgets its hold when a dialog opens. -/
theorem pressed_key_open_dialog (w : Io) : w.open_dialog.router.pressed_key = 0 := by
  rcases lasts_set_modal_key_capture (w.router.set_nav_trigger_mode .LONG_PRESS) true with
    ⟨hkey, -⟩ | ⟨hforgotten, -⟩
  · exact hkey
  · exact hforgotten

/-- The settings open. On the UART page they do so only while keys are not captured, and then the
hold is forgotten. -/
theorem ran_show_config_dialog (h : Settled w)
    (hcalm : w.page.page_ = .UART_TEST → w.router.config.modal_key_capture = false) :
    Ran w w.show_config_dialog [.open_settings] ∧
      w.show_config_dialog.router.config.nav_trigger_mode = .LONG_PRESS ∧
      (w.page.page_ = .UART_TEST → w.show_config_dialog.router.pressed_key = 0) := by
  have hrun := ran_run h .open_settings
  have hfree (hpage : w.page.page_ = .UART_TEST) :
      w.page.config_dialog.isSome = false ∧ w.page.screen.live = false := by
    have hmodal := hcalm hpage
    refine ⟨Bool.eq_false_iff.2 fun hdialog => ?_, Bool.eq_false_iff.2 fun hlive => ?_⟩
    · exact absurd (h.captured hpage (.inl hdialog)) (by simp [hmodal])
    · exact absurd (h.captured hpage (.inr hlive)) (by simp [hmodal])
  unfold Io.show_config_dialog
  dsimp only
  by_cases hvisible : (w.run .open_settings).dialog_visible = true
  · rw [if_pos hvisible]
    refine ⟨hrun, h.modes.1 hvisible, fun hpage => ?_⟩
    exact absurd hvisible (by simpa [Io.dialog_visible, Io.run] using (hfree hpage).1)
  rw [if_neg hvisible]
  by_cases hpage : w.page.page_ = .LINK_TEST
  · rw [if_pos (show (w.run .open_settings).page.page_ = .LINK_TEST from hpage)]
    have hlink (huart : w.page.page_ = .UART_TEST) : False := by
      rw [hpage] at huart
      cases huart
    have hhide := ran_hide_config_dialog_ hrun.settled fun huart => (hlink huart).elim
    have hopen := ran_open_dialog hhide.settled fun huart => (hlink huart).elim
    exact ⟨hrun.trans (hhide.trans hopen), hopen.settled.modes.1 rfl, fun _ =>
      pressed_key_open_dialog _⟩
  · rw [if_neg (show ¬ (w.run .open_settings).page.page_ = .LINK_TEST from hpage)]
    have hopen := ran_open_dialog hrun.settled fun huart => (hfree huart).2
    exact ⟨hrun.trans hopen, hopen.settled.modes.1 rfl, fun _ => pressed_key_open_dialog _⟩

/-! ## The dialog for the result -/

/-- The screen changes. On the UART page a dialog that takes keys has them captured. -/
theorem ran_set_screen (h : Settled w) (screen : BaseScreen)
    (hcaptured : w.page.page_ = .UART_TEST →
      w.page.config_dialog.isSome = true ∨ screen.live = true → screen.modal_key_capture = true)
    (halone : w.page.page_ = .UART_TEST → w.page.config_dialog.isSome = true →
      screen.live = false) : Ran w (w.set_screen screen) [] where
  commands := (List.append_nil _).symm
  page_ := rfl
  lasts := lasts_set_modal_key_capture _ _
  settled := by
    have hconfig : (w.set_screen screen).router.config =
        { w.router.config with modal_key_capture := screen.modal_key_capture } :=
      config_set_modal_key_capture ..
    refine ⟨?_, ?_, ?_, halone⟩ <;> rw [hconfig]
    · exact h.modes
    · exact h.listening
    · exact hcaptured

theorem ran_show_test_result_dialog_ (h : Settled w)
    (hcalm : w.page.page_ = .UART_TEST → w.router.config.modal_key_capture = false) :
    Ran w w.show_test_result_dialog_ [.confirm] := by
  have hrun := ran_run h .confirm
  have hdialog (hpage : w.page.page_ = .UART_TEST) : ¬ w.page.config_dialog.isSome = true := by
    intro hdialog
    exact absurd (h.captured hpage (.inl hdialog)) (by simp [hcalm hpage])
  refine hrun.trans (ran_set_screen hrun.settled _ (fun hpage hor => ?_) fun hpage hd => ?_)
  · have hlive := hor.resolve_left (hdialog hpage)
    unfold BaseScreen.show_test_result_dialog_ at hlive ⊢
    by_cases hroot : (!w.screen.root) = true
    · rw [if_pos hroot] at hlive ⊢
      exact h.captured hpage (.inr hlive)
    by_cases hvisible : w.screen.visible = true
    · rw [if_neg hroot, if_pos hvisible] at hlive ⊢
      exact h.captured hpage (.inr hlive)
    · rw [if_neg hroot, if_neg hvisible]
  · exact absurd hd (hdialog hpage)

/-- Only a dialog that stays untouched by a button takes further keys. -/
theorem not_live_of_triggered {d : TestConfirmDialog} {role : ButtonRole}
    (h : (d.handle_key k).2.2 = some role) : (d.handle_key k).1.action_triggered = true := by
  unfold TestConfirmDialog.handle_key at h ⊢
  split at h
  · cases h
  split at h
  · cases h
  split at h
  · cases h
  split at h
  next hdead hprevious hnext henter =>
    rw [if_neg hdead, if_neg hprevious, if_neg hnext, if_pos henter]
    unfold TestConfirmDialog.trigger_focused_button_ at h ⊢
    cases hfocused : d.focused with
    | none => simp [hfocused] at h
    | some role => rfl
  split at h <;> cases h

/-- A dialog that takes no keys is left as it is. -/
theorem handle_not_live {s : BaseScreen} (h : s.live = false) (k : Key) (answers : SessionAnswers) :
    s.handle_test_result_dialog_key_ k answers = (s, false, []) := by
  unfold BaseScreen.handle_test_result_dialog_key_
  cases hdialog : s.test_result_dialog with
  | none => rfl
  | some d =>
    have hdead : (!d.visible || d.action_triggered) = true := by
      have hlive : (d.visible && !d.action_triggered) = false := by
        unfold BaseScreen.live at h
        rwa [hdialog] at h
      have hnot : (!d.visible || d.action_triggered) = !(d.visible && !d.action_triggered) := by
        rw [Bool.not_and, Bool.not_not]
      rw [hnot, hlive]
      rfl
    have hkey : d.handle_key k = (d, false, none) := by
      unfold TestConfirmDialog.handle_key
      rw [if_pos hdead]
    dsimp only
    rw [hkey, ← hdialog]
    rfl

/-- While the dialog goes on taking keys, they stay captured. -/
theorem modal_of_live {s : BaseScreen} {k : Key} {answers : SessionAnswers}
    (h : (s.handle_test_result_dialog_key_ k answers).1.live = true) :
    (s.handle_test_result_dialog_key_ k answers).1.modal_key_capture = s.modal_key_capture ∧
      s.live = true := by
  cases hlive : s.live with
  | false =>
    rw [handle_not_live hlive] at h
    exact absurd (hlive.symm.trans h) Bool.false_ne_true
  | true =>
    refine ⟨?_, rfl⟩
    unfold BaseScreen.handle_test_result_dialog_key_ at h ⊢
    cases hdialog : s.test_result_dialog with
    | none => rfl
    | some d =>
      rw [hdialog] at h
      dsimp only at h ⊢
      generalize hkey : d.handle_key k = handled at h ⊢
      obtain ⟨d', handled, triggered⟩ := handled
      cases triggered with
      | none =>
        dsimp only at h ⊢
        split at h
        · cases h
        next hstays => rw [if_neg hstays]
      | some role =>
        have htriggered : d'.action_triggered = true := by
          have hrole : (d.handle_key k).2.2 = some role := by rw [hkey]
          have hdead := not_live_of_triggered hrole
          rwa [hkey] at hdead
        exfalso
        dsimp only at h
        split at h
        · cases h
        · simp [BaseScreen.action, BaseScreen.live, htriggered] at h

theorem ran_handle_test_result_dialog_key_ (h : Settled w) (answers : IoAnswers) (k : Key) :
    Ran w (w.handle_test_result_dialog_key_ answers k).1 [] := by
  have hscreen : Ran w (w.set_screen
      (w.screen.handle_test_result_dialog_key_ k answers.session).1) [] := by
    refine ran_set_screen h _ (fun hpage hor => ?_) fun hpage hdialog => ?_
    · rcases hor with hdialog | hlive
      · have hdead : w.screen.live = false := h.alone hpage hdialog
        rw [handle_not_live hdead]
        exact h.captured hpage (.inl hdialog)
      · obtain ⟨hmodal, hwas⟩ := modal_of_live hlive
        exact hmodal.trans (h.captured hpage (.inr hwas))
    · have hdead : w.screen.live = false := h.alone hpage hdialog
      rw [handle_not_live hdead]
      exact hdead
  unfold Io.handle_test_result_dialog_key_
  dsimp only
  split
  · exact hscreen.trans (ran_clear_nav_actions hscreen.settled)
  · exact hscreen

/-! ## The views -/

theorem ran_handle_dialog_key_ (h : Settled w) {dialog : Dialog}
    (hdialog : w.page.config_dialog = some dialog) (k : Key) :
    Ran w (handle_dialog_key_ dialog k w) [] := by
  have hhide := ran_hide_config_dialog_ h fun _ => by rw [hdialog]; rfl
  unfold handle_dialog_key_
  split
  · exact .refl h
  split
  · exact .refl h
  split
  · exact hhide
  split
  · exact hhide
  split
  · exact hhide
  · exact .refl h

/-- The UART view runs no command, and leaves no hold key to the page. -/
theorem ran_uart_handle_key (h : Settled w) (k : Key) :
    Ran w (w.uart_handle_key k).1 [] ∧
      ((w.uart_handle_key k).2 = false → hold_action_for_key_ k.key = .NONE) := by
  unfold Io.uart_handle_key
  cases hdialog : w.page.config_dialog with
  | some dialog => exact ⟨ran_handle_dialog_key_ h hdialog k, fun hfalse => Bool.noConfusion hfalse⟩
  | none =>
    dsimp only
    cases hview : w.page.uart_view.type_key k with
    | some view => exact ⟨ran_set_uart_view h view, fun hfalse => Bool.noConfusion hfalse⟩
    | none =>
      refine ⟨.refl h, fun _ => ?_⟩
      by_contra hhold
      unfold UartView.type_key at hview
      split at hview
      · cases hview
      · cases hview

/-- The key has no button. -/
def Unmapped (key : UInt32) : Prop := ∀ s : KeyRouterState, K_NAV_KEY_COUNT ≤ s.nav_key_to_index key

theorem unmapped_of_find {key : UInt32} (h : K_NAV_KEY_MAP.find? (·.key = key) = none) :
    Unmapped key := by
  intro s
  unfold KeyRouterState.nav_key_to_index
  split
  · exact le_rfl
  · rw [h]

/-- A key that a dialog takes for OK has no button. -/
theorem unmapped_of_ok {key : UInt32} (h : Dialog.is_ok_key_ (named key) = true) :
    Unmapped key := by
  have hmap : ∀ entry ∈ K_NAV_KEY_MAP, Dialog.is_ok_key_ (named entry.key) = false := by
    decide +kernel
  refine unmapped_of_find (List.find?_eq_none.2 fun entry hentry hkey => ?_)
  rw [← of_decide_eq_true hkey, hmap entry hentry] at h
  cases h

/-- What a key may run before its button is clicked: one command at most, and the button is not
clicked afterwards, because the settings opened or the key has none. -/
def Quiet (w : Io) (key : UInt32) (commands : List Command) : Prop :=
  commands = [] ∨ (∃ command, commands = [command]) ∧
    (w.router.config.nav_trigger_mode = .LONG_PRESS ∨ Unmapped key)

theorem quiet_default_key (h : Settled w) (key : UInt32) :
    ∃ commands, Ran w (default_key key w) commands ∧ Quiet (default_key key w) key commands := by
  unfold default_key
  by_cases hr : (key = 'r'.val || key = 'R'.val) = true
  · rw [if_pos hr]
    refine ⟨_, ran_run h _, .inr ⟨⟨_, rfl⟩, .inr (unmapped_of_find ?_)⟩⟩
    rcases Bool.or_eq_true_iff.1 hr with hkey | hkey <;> rw [of_decide_eq_true hkey] <;> rfl
  · rw [if_neg hr]
    exact ⟨[], .refl h, .inl rfl⟩

theorem quiet_ext_io (h : Settled w) (hpage : w.page.page_ ≠ .UART_TEST) (key : UInt32) :
    ∃ commands, Ran w (w.ext_io_handle_key (named key)).1 commands ∧
      Quiet (w.ext_io_handle_key (named key)).1 key commands ∧
      ((w.ext_io_handle_key (named key)).2 = false → commands = []) := by
  unfold Io.ext_io_handle_key
  cases hdialog : w.page.config_dialog with
  | some dialog => exact ⟨[], ran_handle_dialog_key_ h hdialog _, .inl rfl, fun _ => rfl⟩
  | none =>
    dsimp only
    split
    · exact ⟨[], .refl h, .inl rfl, fun _ => rfl⟩
    split
    · exact ⟨[], .refl h, .inl rfl, fun _ => rfl⟩
    split
    · exact ⟨[], .refl h, .inl rfl, fun _ => rfl⟩
    split
    · obtain ⟨hshow, hmode, -⟩ := ran_show_config_dialog h fun huart => absurd huart hpage
      exact ⟨_, hshow, .inr ⟨⟨_, rfl⟩, .inl hmode⟩, fun hfalse => Bool.noConfusion hfalse⟩
    · exact ⟨[], .refl h, .inl rfl, fun _ => rfl⟩

theorem ok_of_handle_key {d : Dialog} {k : Key} (h : d.handle_key k = some .OK) :
    Dialog.is_ok_key_ k = true := by
  unfold Dialog.handle_key at h
  split at h
  · cases h
  split at h
  · cases h
  split at h
  next hok => exact hok
  · cases h

/-- The dialog of the Link page handles every key. -/
theorem quiet_link_dialog (h : Settled w) (hpage : w.page.page_ ≠ .UART_TEST) (answers : IoAnswers)
    (key : UInt32) {dialog : Dialog} (hdialog : w.page.config_dialog = some dialog) :
    (LinkView.handle_key answers (named key) w).2 = true ∧ ∃ commands,
      Ran w (LinkView.handle_key answers (named key) w).1 commands ∧
        Quiet (LinkView.handle_key answers (named key) w).1 key commands := by
  have hhide := ran_hide_config_dialog_ h fun hp => absurd hp hpage
  unfold LinkView.handle_key
  rw [hdialog]
  dsimp only
  split
  · exact ⟨rfl, [], .refl h, .inl rfl⟩
  split
  next hok =>
    obtain ⟨command, hrestart⟩ := ran_restart hhide.settled answers
    have hunmapped := unmapped_of_ok (ok_of_handle_key hok)
    exact ⟨rfl, [command], hhide.trans hrestart, .inr ⟨⟨_, rfl⟩, .inr hunmapped⟩⟩
  · exact ⟨rfl, [], hhide, .inl rfl⟩
  · exact ⟨rfl, [], .refl h, .inl rfl⟩

/-- The Link page. 5 is the key that is bound in two places. -/
theorem quiet_link_key (h : Settled w) (hpage : w.page.page_ ≠ .UART_TEST) (answers : IoAnswers)
    {key : UInt32} (hkey : key ≠ '5'.val ∨ w.page.config_dialog.isSome = true) :
    ∃ commands, Ran w (link_key answers key w) commands ∧
      Quiet (link_key answers key w) key commands := by
  unfold link_key
  dsimp only
  cases hdialog : w.page.config_dialog with
  | some dialog =>
    obtain ⟨hhandled, hquiet⟩ := quiet_link_dialog h hpage answers key hdialog
    rw [if_pos hhandled]
    exact hquiet
  | none =>
    have hne : key ≠ '5'.val := hkey.resolve_right (by simp [hdialog])
    have hunhandled : LinkView.handle_key answers (named key) w = (w, false) := by
      unfold LinkView.handle_key
      rw [hdialog]
    rw [hunhandled, if_neg Bool.false_ne_true]
    dsimp only
    split
    next hrestart_key =>
      obtain ⟨command, hrestart⟩ := ran_restart h answers
      refine ⟨[command], hrestart, .inr ⟨⟨_, rfl⟩, .inr (unmapped_of_find ?_)⟩⟩
      simp only [Bool.or_eq_true, decide_eq_true_eq] at hrestart_key
      rcases hrestart_key with (h5 | hr) | hr
      · exact absurd h5 hne
      · rw [hr]
        rfl
      · rw [hr]
        rfl
    split
    · obtain ⟨hshow, hmode, -⟩ := ran_show_config_dialog h fun hp => absurd hp hpage
      exact ⟨_, hshow, .inr ⟨⟨_, rfl⟩, .inl hmode⟩⟩
    · exact quiet_default_key h key

/-! ## The listener for keys -/

theorem config_dialog_of_test_result_key (answers : IoAnswers) (k : Key) :
    (w.handle_test_result_dialog_key_ answers k).1.page.config_dialog = w.page.config_dialog := by
  unfold Io.handle_test_result_dialog_key_
  dsimp only
  split <;> rfl

/-- On the UART page no key runs a command when it is pressed. -/
theorem ran_key_listener_uart (h : Settled w) (hpage : w.page.page_ = .UART_TEST)
    (answers : IoAnswers) (key : UInt32) : Ran w (key_listener answers key w) [] := by
  have hresult := ran_handle_test_result_dialog_key_ h answers (named key)
  unfold key_listener
  dsimp only
  split
  · exact hresult
  rw [hresult.page_.trans hpage]
  dsimp only
  obtain ⟨hview, hhold⟩ := ran_uart_handle_key hresult.settled (named key)
  split
  · exact hresult.trans hview
  next hunhandled =>
    have hnone := hhold (by simpa using hunhandled)
    unfold default_key
    rw [if_neg]
    · exact hresult.trans hview
    · intro hr
      rcases Bool.or_eq_true_iff.1 hr with hkey | hkey <;>
      · rw [show (named key).key = key from rfl, of_decide_eq_true hkey] at hnone
        cases hnone

/-- On the other pages the listener runs one command at most, and only 5 on the Link page has it in
its button too. -/
theorem quiet_key_listener (h : Settled w) (hpage : w.page.page_ ≠ .UART_TEST)
    (answers : IoAnswers) {key : UInt32}
    (hkey : w.page.page_ ≠ .LINK_TEST ∨ key ≠ '5'.val ∨ w.page.config_dialog.isSome = true) :
    ∃ commands, Ran w (key_listener answers key w) commands ∧
      Quiet (key_listener answers key w) key commands := by
  have hresult := ran_handle_test_result_dialog_key_ h answers (named key)
  unfold key_listener
  dsimp only
  split
  · exact ⟨[], hresult, .inl rfl⟩
  generalize hw' : (w.handle_test_result_dialog_key_ answers (named key)).1 = w' at hresult
  have hdialog : w'.page.config_dialog = w.page.config_dialog := by
    rw [← hw']
    exact config_dialog_of_test_result_key answers (named key)
  have hpage' : w'.page.page_ ≠ .UART_TEST := by rwa [hresult.page_]
  have hdefault : ∃ commands, Ran w (default_key key w') commands ∧
      Quiet (default_key key w') key commands := by
    obtain ⟨commands, hran, hquiet⟩ := quiet_default_key hresult.settled key
    exact ⟨commands, hresult.trans hran, hquiet⟩
  split
  next huart => exact absurd huart hpage'
  next hlink =>
    have hfive := hkey.resolve_left fun hne => hne (hresult.page_.symm.trans hlink)
    rw [← hdialog] at hfive
    obtain ⟨commands, hran, hquiet⟩ := quiet_link_key hresult.settled hpage' answers hfive
    exact ⟨commands, hresult.trans hran, hquiet⟩
  · obtain ⟨commands, hran, hquiet, hunhandled⟩ := quiet_ext_io hresult.settled hpage' key
    split
    · exact ⟨commands, hresult.trans hran, hquiet⟩
    next hfalse =>
      obtain rfl := hunhandled (by simpa using hfalse)
      obtain ⟨commands, hdef, hquiet⟩ := quiet_default_key hran.settled key
      exact ⟨commands, hresult.trans (hran.trans hdef), hquiet⟩
  · exact hdefault

/-! ## The buttons -/

/-- An action of the navigation bar waits for a click or for a long press, and on the UART page for
a long press. -/
theorem event_code_of_nav_action {page_ : IoAppPage} {index : ℕ} {action : NavAction}
    (h : update_nav_actions_ page_ index = some action) :
    (action.event_code = .LONG_PRESSED ∧ page_ = .UART_TEST) ∨
      (action.event_code = .CLICKED ∧ page_ ≠ .UART_TEST) := by
  unfold update_nav_actions_ at h
  dsimp only at h
  by_cases hpage : page_ = .UART_TEST
  · subst hpage
    refine .inl ⟨?_, rfl⟩
    split at h <;> cases h <;> rfl
  · refine .inr ⟨?_, hpage⟩
    rw [if_neg hpage] at h
    split at h
    · cases h
      rfl
    · split at h <;> cases h
      rfl
    · rw [if_neg hpage] at h
      split at h <;> cases h
      rfl
    · split at h <;> cases h
      rfl
    · cases h
      rfl
    · cases h

/-- The event that the actions of a page wait for. -/
def nav_event (page_ : IoAppPage) : EventCode :=
  if page_ = .UART_TEST then .LONG_PRESSED else .CLICKED

/-- Another event than the one that its actions wait for does nothing. -/
theorem trigger_nav_action_other {answers : IoAnswers} {index : ℕ} {event_code : EventCode}
    (hcode : event_code ≠ nav_event w.page.page_) :
    trigger_nav_action answers index event_code w = w := by
  unfold trigger_nav_action
  cases haction : update_nav_actions_ w.page.page_ index with
  | none => rfl
  | some action =>
    dsimp only
    rw [if_pos]
    intro hsame
    rcases event_code_of_nav_action haction with ⟨hlong, hpage⟩ | ⟨hclick, hpage⟩
    · exact hcode (by rw [nav_event, if_pos hpage, ← hsame, hlong])
    · exact hcode (by rw [nav_event, if_neg hpage, ← hsame, hclick])

/-- A button runs one command at most. On the UART page it does so only while keys are not
captured. -/
theorem ran_trigger_nav_action (h : Settled w) (answers : IoAnswers) (index : ℕ)
    (event_code : EventCode)
    (hcalm : w.page.page_ = .UART_TEST → w.router.config.modal_key_capture = false) :
    ∃ commands, Ran w (trigger_nav_action answers index event_code w) commands ∧
      commands.length ≤ 1 := by
  unfold trigger_nav_action
  split
  · exact ⟨[], .refl h, Nat.zero_le _⟩
  split
  · exact ⟨[], .refl h, Nat.zero_le _⟩
  split
  · exact ⟨_, ran_request_back_or_quit h, le_rfl⟩
  · obtain ⟨command, hrestart⟩ := ran_restart h answers
    exact ⟨_, hrestart, le_rfl⟩
  · exact ⟨_, (ran_show_config_dialog h hcalm).1, le_rfl⟩
  · exact ⟨_, ran_show_test_result_dialog_ h hcalm, le_rfl⟩

section Dispatch

variable (answers : IoAnswers) (key : UInt32)

theorem dispatch_nav_key_other {event_code : EventCode}
    (hcode : event_code ≠ nav_event w.page.page_) :
    (listeners answers).dispatch_nav_key w key event_code = w := by
  unfold Listeners.dispatch_nav_key
  dsimp only
  split
  · rfl
  split
  · rfl
  · exact trigger_nav_action_other hcode

theorem dispatch_nav_key_unmapped (hkey : Unmapped key) (event_code : EventCode) :
    (listeners answers).dispatch_nav_key w key event_code = w := by
  unfold Listeners.dispatch_nav_key
  dsimp only
  rw [if_pos (hkey w.router)]

theorem ran_dispatch_nav_key (h : Settled w) (event_code : EventCode)
    (hcalm : w.page.page_ = .UART_TEST → w.router.config.modal_key_capture = false) :
    ∃ commands, Ran w ((listeners answers).dispatch_nav_key w key event_code) commands ∧
      commands.length ≤ 1 := by
  unfold Listeners.dispatch_nav_key
  dsimp only
  split
  · exact ⟨[], .refl h, Nat.zero_le _⟩
  split
  · exact ⟨[], .refl h, Nat.zero_le _⟩
  · exact ran_trigger_nav_action h answers _ event_code hcalm

end Dispatch

/-! ## Presses, releases and the timer -/

theorem emit_global_page (w : Io) (key : UInt32) (long_pressed : Bool) (answers : IoAnswers) :
    ((listeners answers).emit_global w key long_pressed).1 = w := by
  unfold Listeners.emit_global
  split
  · show (global_key_listener key long_pressed w).1 = w
    unfold global_key_listener
    dsimp only
    split
    · rfl
    split
    · rfl
    split <;> rfl
  · rfl

theorem Settled.router (h : Settled w) {router : KeyRouterState}
    (hconfig : router.config = w.router.config) : Settled { w with router } := by
  refine ⟨?_, ?_, ?_, h.alone⟩ <;> rw [hconfig]
  · exact h.modes
  · exact h.listening
  · exact h.captured

/-- The event runs these commands, and the modes still fit. -/
structure Steps (w w' : Io) (commands : List Command) : Prop where
  commands : w'.page.commands = w.page.commands ++ commands
  page_ : w'.page.page_ = w.page.page_
  settled : Settled w'

theorem Ran.steps {w w' : Io} {commands : List Command} (h : Ran w w' commands) :
    Steps w w' commands := ⟨h.commands, h.page_, h.settled⟩

/-- 5 on the Link page, while its settings are closed. -/
def Restarts (w : Io) (key : UInt32) : Prop :=
  w.page.page_ = .LINK_TEST ∧ key = '5'.val ∧ w.page.config_dialog.isSome = false

theorem pressed_ne_nav_event (page_ : IoAppPage) : EventCode.PRESSED ≠ nav_event page_ := by
  unfold nav_event
  split <;> exact EventCode.noConfusion

theorem released_ne_nav_event (page_ : IoAppPage) : EventCode.RELEASED ≠ nav_event page_ := by
  unfold nav_event
  split <;> exact EventCode.noConfusion

/-- A new hold runs what the listener runs; the button only learns that it is pressed. -/
theorem new_hold_eq (answers : IoAnswers) (w : Io) (key : UInt32) (modal_capture : Bool) :
    (listeners answers).new_hold w key modal_capture =
      let w' : Io := { w with router := { w.router with
        pressed_key := key
        press_started_at := w.router.lv_tick_get
        long_press_sent := false
        pressed_key_consumed_by_global := false } }
      let emitted := (listeners answers).emit_key w' key
      { emitted.1 with router := { emitted.1.router with
        pressed_key_consumed_by_global := emitted.2 } } := by
  unfold Listeners.new_hold
  dsimp only
  split
  · exact dispatch_nav_key_other answers key (pressed_ne_nav_event _)
  · rfl

/-- A new hold, except of 5 on the Link page. -/
theorem new_hold_spec (h : Settled w) (answers : IoAnswers) {key : UInt32}
    (hfive : ¬ Restarts w key) (modal_capture : Bool) :
    ∃ commands, Steps w ((listeners answers).new_hold w key modal_capture) commands ∧
      Quiet ((listeners answers).new_hold w key modal_capture) key commands ∧
      (w.page.page_ = .UART_TEST → commands = []) := by
  rw [new_hold_eq]
  dsimp only
  generalize hw' : ({ w with router := { w.router with
    pressed_key := key
    press_started_at := w.router.lv_tick_get
    long_press_sent := false
    pressed_key_consumed_by_global := false } } : Io) = w'
  have hsettled : Settled w' := hw' ▸ h.router rfl
  have hpage : w'.page = w.page := hw' ▸ rfl
  have hemit : ∃ commands, Steps w ((listeners answers).emit_key w' key).1 commands ∧
      Quiet ((listeners answers).emit_key w' key).1 key commands ∧
      (w.page.page_ = .UART_TEST → commands = []) := by
    have hnothing : Steps w w' [] := ⟨by rw [hpage, List.append_nil], by rw [hpage], hsettled⟩
    have hsteps {w'' : Io} {commands : List Command} (hran : Ran w' w'' commands) :
        Steps w w'' commands :=
      ⟨by rw [hran.commands, hpage], by rw [hran.page_, hpage], hran.settled⟩
    unfold Listeners.emit_key
    dsimp only
    rw [emit_global_page]
    split
    · exact ⟨[], hnothing, .inl rfl, fun _ => rfl⟩
    split
    · by_cases huart : w.page.page_ = .UART_TEST
      · have hran := ran_key_listener_uart hsettled (by rwa [hpage]) answers key
        exact ⟨[], hsteps hran, .inl rfl, fun _ => rfl⟩
      · have hkey : w'.page.page_ ≠ .LINK_TEST ∨ key ≠ '5'.val ∨
            w'.page.config_dialog.isSome = true := by
          rw [hpage]
          by_contra hnot
          simp only [not_or, not_not, Bool.not_eq_true] at hnot
          exact hfive hnot
        obtain ⟨commands, hran, hquiet⟩ :=
          quiet_key_listener hsettled (by rwa [hpage]) answers hkey
        exact ⟨commands, hsteps hran, hquiet, fun hp => absurd hp huart⟩
    · exact ⟨[], hnothing, .inl rfl, fun _ => rfl⟩
  obtain ⟨commands, hsteps, hquiet, huart⟩ := hemit
  exact ⟨commands, ⟨hsteps.commands, hsteps.page_, hsteps.settled.router rfl⟩, hquiet, huart⟩

/-- The end of a press clicks the button, unless a command was run before. -/
theorem finish_press_spec {w' : Io} (answers : IoAnswers) {key : UInt32} (modal_capture : Bool)
    {commands : List Command} (hsteps : Steps w w' commands) (hquiet : Quiet w' key commands)
    (huart : w.page.page_ = .UART_TEST → commands = []) :
    ∃ commands, Steps w ((listeners answers).finish_press w' key modal_capture) commands ∧
      commands.length ≤ 1 ∧ (w.page.page_ = .UART_TEST → commands = []) := by
  have hsteps' : Steps w { w' with router := { w'.router with
      last_key_activity_at := w'.router.lv_tick_get
      long_press_timer := some true } } commands :=
    ⟨hsteps.commands, hsteps.page_, hsteps.settled.router rfl⟩
  have hlength : commands.length ≤ 1 := by
    rcases hquiet with rfl | ⟨⟨command, rfl⟩, -⟩
    · exact Nat.zero_le _
    · exact le_rfl
  unfold Listeners.finish_press
  dsimp only
  split
  next hclick =>
    by_cases hpage : w.page.page_ = .UART_TEST
    · have hcode : EventCode.CLICKED ≠ nav_event w'.page.page_ := by
        rw [hsteps.page_, nav_event, if_pos hpage]
        exact EventCode.noConfusion
      refine ⟨commands, ?_, hlength, huart⟩
      rw [dispatch_nav_key_other answers key]
      · exact hsteps'
      · exact hcode
    · rcases hquiet with rfl | ⟨-, hmode | hunmapped⟩
      · obtain ⟨clicked, hran, hone⟩ := ran_dispatch_nav_key answers key hsteps'.settled .CLICKED
          fun hp => absurd (hsteps.page_.symm.trans hp) hpage
        exact ⟨clicked, ⟨by rw [hran.commands, hsteps'.commands, List.append_nil],
          hran.page_.trans hsteps'.page_, hran.settled⟩, hone, fun hp => absurd hp hpage⟩
      · simp [hmode] at hclick
      · rw [dispatch_nav_key_unmapped answers key hunmapped]
        exact ⟨commands, hsteps', hlength, huart⟩
  · exact ⟨commands, hsteps', hlength, huart⟩

/-- A press runs one command at most, and none on the UART page, unless it restarts the Link test
with a new hold. -/
theorem on_press_spec (h : Settled w) (answers : IoAnswers) {key : UInt32}
    (hfive : Restarts w key → w.router.last_key_pressed = true ∧ w.router.pressed_key = key) :
    ∃ commands, Steps w ((listeners answers).on_press w key) commands ∧ commands.length ≤ 1 ∧
      (w.page.page_ = .UART_TEST → commands = []) := by
  unfold Listeners.on_press
  dsimp only
  by_cases hnew : (!w.router.last_key_pressed || decide (key ≠ w.router.pressed_key)) = true
  · rw [if_pos hnew]
    have hnot : ¬ Restarts w key := by
      intro hrestarts
      obtain ⟨hlast, hkey⟩ := hfive hrestarts
      simp [hlast, hkey] at hnew
    obtain ⟨commands, hsteps, hquiet, huart⟩ :=
      new_hold_spec h answers hnot w.router.config.modal_key_capture
    exact finish_press_spec answers _ hsteps hquiet huart
  · rw [if_neg hnew]
    exact finish_press_spec answers _ (Ran.refl h).steps (.inl rfl) fun _ => rfl

/-! ## 5 on the Link page -/

/-- The dialog for the result has no use for the key. -/
def Key.ignored (k : Key) : Bool :=
  !k.is_previous_key_ && !k.is_next_key_ && !k.is_enter_key_ && !k.is_cancel_key_

theorem handle_ignored {k : Key} (h : k.ignored = true) (s : BaseScreen)
    (answers : SessionAnswers) : s.handle_test_result_dialog_key_ k answers = (s, false, []) := by
  simp only [Key.ignored, Bool.and_eq_true, Bool.not_eq_true'] at h
  obtain ⟨⟨⟨hprevious, hnext⟩, henter⟩, hcancel⟩ := h
  unfold BaseScreen.handle_test_result_dialog_key_
  cases hdialog : s.test_result_dialog with
  | none => rfl
  | some d =>
    have hkey : d.handle_key k = (d, false, none) := by
      unfold TestConfirmDialog.handle_key
      rw [hprevious, hnext, henter, hcancel]
      split <;> rfl
    dsimp only
    rw [hkey, ← hdialog]
    rfl

/-- A key that the dialog leaves to the page. -/
theorem handle_test_result_dialog_key_unused {k : Key} {answers : IoAnswers}
    (h : w.screen.handle_test_result_dialog_key_ k answers.session = (w.screen, false, [])) :
    w.handle_test_result_dialog_key_ answers k =
      ({ w with page := { w.page with screen := w.screen } }, false) := by
  have hscreen : w.set_screen w.screen = { w with page := { w.page with screen := w.screen } } := by
    unfold Io.set_screen KeyRouterState.set_modal_key_capture
    rw [if_pos (show w.router.config.modal_key_capture = w.screen.modal_key_capture from rfl)]
  unfold Io.handle_test_result_dialog_key_
  dsimp only
  rw [h, ← hscreen]
  rfl

theorem key_listener_five {key : UInt32} (h : Restarts w key) (answers : IoAnswers) :
    key_listener answers key w =
      LinkView.restart answers { w with page := { w.page with screen := w.screen } } := by
  obtain ⟨hpage, rfl, hdialog⟩ := h
  have hnone : w.page.config_dialog = none := by simpa using hdialog
  unfold key_listener
  rw [handle_test_result_dialog_key_unused (handle_ignored (by decide +kernel) _ _)]
  dsimp only
  rw [if_neg Bool.false_ne_true, hpage]
  dsimp only
  unfold link_key LinkView.handle_key
  rw [hnone]
  rfl

theorem emit_key_five (h : Settled w) {key : UInt32} (hfive : Restarts w key)
    (answers : IoAnswers) : (listeners answers).emit_key w key =
      (LinkView.restart answers { w with page := { w.page with screen := w.screen } }, false) := by
  have hglobal : ((listeners answers).emit_global w key false).2 = false := by
    obtain ⟨-, rfl, -⟩ := hfive
    unfold Listeners.emit_global
    split
    · show (global_key_listener '5'.val false w).2 = false
      unfold global_key_listener
      rw [if_neg (by simp)]
      rfl
    · rfl
  unfold Listeners.emit_key
  dsimp only
  rw [hglobal, emit_global_page, if_neg Bool.false_ne_true, h.listening, if_pos rfl]
  exact congrArg (·, false) (key_listener_five hfive answers)

/-- A click of 5 restarts the test. -/
theorem dispatch_nav_key_five (hpage : w.page.page_ = .LINK_TEST) (answers : IoAnswers) :
    (listeners answers).dispatch_nav_key w '5'.val .CLICKED =
      if w.router.config.nav_buttons 1 = true then LinkView.restart answers w else w := by
  have hindex : w.router.nav_key_to_index '5'.val = 1 := by
    unfold KeyRouterState.nav_key_to_index
    have halias : ('5'.val = 'z'.val || '5'.val = 'Z'.val || '5'.val = 'c'.val ||
        '5'.val = 'C'.val || '5'.val = LV_KEY_LEFT || '5'.val = LV_KEY_RIGHT : Bool) = false := by
      decide
    rw [halias, Bool.and_false, if_neg Bool.false_ne_true]
    show (if _ then 1 else 1) = 1
    rw [ite_self]
  unfold Listeners.dispatch_nav_key
  dsimp only
  rw [hindex, if_neg (by decide)]
  by_cases hbutton : w.router.config.nav_buttons 1 = true
  · rw [if_neg (by simp [hbutton]), if_pos hbutton]
    show trigger_nav_action answers 1 .CLICKED w = _
    unfold trigger_nav_action
    rw [hpage]
    rfl
  · rw [if_pos (by simpa using hbutton), if_neg hbutton]

/-- The test is restarted. -/
theorem new_hold_five (h : Settled w) {key : UInt32} (hfive : Restarts w key)
    (answers : IoAnswers) (modal_capture : Bool) :
    ∃ command screen, (listeners answers).new_hold w key modal_capture =
      { router := { w.router with
          pressed_key := key
          press_started_at := w.router.lv_tick_get
          long_press_sent := false
          pressed_key_consumed_by_global := false }
        page := { w.page with screen, commands := w.page.commands ++ [command] } } ∧
      screen.live = w.page.screen.live := by
  have hemit := emit_key_five (w := { w with router := { w.router with
    pressed_key := key
    press_started_at := w.router.lv_tick_get
    long_press_sent := false
    pressed_key_consumed_by_global := false } }) (h.router rfl) hfive answers
  rw [new_hold_eq]
  dsimp only at hemit ⊢
  rw [hemit]
  exact ⟨_, _, rfl, rfl⟩

/-- A new hold of 5 restarts the test once in the listener, and once more if its button is
clicked. -/
theorem on_press_five (h : Settled w) (answers : IoAnswers) {key : UInt32}
    (hfive : Restarts w key)
    (hnew : w.router.last_key_pressed = false ∨ w.router.pressed_key ≠ key) :
    ∃ commands, Steps w ((listeners answers).on_press w key) commands ∧
      commands.length = if w.router.config.modal_key_capture = false ∧
          w.router.config.nav_buttons 1 = true ∧
          (w.router.last_key_pressed = false ∨ w.router.last_key ≠ key) then 2 else 1 := by
  have hmode : w.router.config.nav_trigger_mode = .CLICK := by
    cases hm : w.router.config.nav_trigger_mode with
    | CLICK => rfl
    | LONG_PRESS => exact absurd (h.modes.2 hm) (by simp [hfive.2.2])
  obtain ⟨command, screen, hheld, hlive⟩ :=
    new_hold_five h hfive answers w.router.config.modal_key_capture
  have hnewhold : (!w.router.last_key_pressed || decide (key ≠ w.router.pressed_key)) = true := by
    rcases hnew with hlast | hkey
    · rw [hlast]
      rfl
    · rw [decide_eq_true (Ne.symm hkey), Bool.or_true]
  unfold Listeners.on_press
  dsimp only
  rw [if_pos hnewhold, hheld]
  obtain ⟨hpage, rfl, hdialog⟩ := hfive
  have hsteps (router : KeyRouterState) (hconfig : router.config = w.router.config) : Steps w
      ⟨router, { w.page with screen, commands := w.page.commands ++ [command] }⟩ [command] := by
    refine ⟨rfl, rfl, ?_, ?_, ?_, ?_⟩
    · rw [hconfig]
      exact h.modes
    · rw [hconfig]
      exact h.listening
    · rw [hconfig]
      exact fun huart => absurd (hpage.symm.trans huart) (by decide)
    · exact fun huart => absurd (hpage.symm.trans huart) (by decide)
  unfold Listeners.finish_press
  dsimp only
  by_cases hclick : w.router.config.modal_key_capture = false ∧
      (w.router.last_key_pressed = false ∨ w.router.last_key ≠ '5'.val)
  · have hcondition : (!w.router.config.modal_key_capture && !false &&
        decide (w.router.config.nav_trigger_mode = .CLICK) &&
        (!w.router.last_key_pressed || decide (w.router.last_key ≠ '5'.val))) = true := by
      rw [hclick.1, hmode]
      rcases hclick.2 with hlast | hkey
      · rw [hlast]
        rfl
      · rw [decide_eq_true hkey, Bool.or_true]
        rfl
    rw [if_pos hcondition, dispatch_nav_key_five]
    · dsimp only
      by_cases hbutton : w.router.config.nav_buttons 1 = true
      · rw [if_pos hbutton, if_pos ⟨hclick.1, hbutton, hclick.2⟩]
        refine ⟨[command, _], ⟨List.append_assoc .., rfl, ?_⟩, rfl⟩
        have hsettled := (hsteps w.router rfl).settled
        exact ⟨hsettled.modes, hsettled.listening, hsettled.captured, hsettled.alone⟩
      · rw [if_neg hbutton, if_neg fun hall => hbutton hall.2.1]
        exact ⟨_, hsteps _ rfl, rfl⟩
    · exact hpage
  · rw [if_neg, if_neg fun hall => hclick ⟨hall.1, hall.2.2⟩]
    · exact ⟨_, hsteps _ rfl, rfl⟩
    · intro hcondition
      simp only [Bool.and_eq_true, Bool.not_eq_true', Bool.or_eq_true, decide_eq_true_eq]
        at hcondition
      exact hclick ⟨hcondition.1.1.1, hcondition.2⟩

/-! ## Releases and the timer -/

/-- A release runs no command. -/
theorem on_release_spec (h : Settled w) (answers : IoAnswers) (key : UInt32) :
    Steps w ((listeners answers).on_release w key) [] ∧
      ((listeners answers).on_release w key).router.pressed_key = 0 := by
  have hlistener : ∃ view, key_release_listener key w = w.set_uart_view view := by
    unfold key_release_listener
    split
    · exact ⟨_, rfl⟩
    · exact ⟨w.page.uart_view, rfl⟩
  have hrelease : ∃ view, (if (!w.router.pressed_key_consumed_by_global) = true then
      (listeners answers).emit_key_release w key else w) = w.set_uart_view view := by
    unfold Listeners.emit_key_release
    split
    · split
      · exact hlistener
      · exact ⟨w.page.uart_view, rfl⟩
    · exact ⟨w.page.uart_view, rfl⟩
  obtain ⟨view, hview⟩ := hrelease
  unfold Listeners.on_release
  dsimp only
  rw [dispatch_nav_key_other answers key (released_ne_nav_event _), ite_self, hview]
  have hset := (ran_set_uart_view h view).steps
  exact ⟨⟨hset.commands, hset.page_, hset.settled.router rfl⟩, rfl⟩

/-- The key of no hold has no button. -/
theorem unmapped_zero : Unmapped 0 := unmapped_of_find rfl

/-- The UART view opens its settings, or leaves the router alone. -/
theorem ran_uart_handle_long_key (h : Settled w) (hpage : w.page.page_ = .UART_TEST)
    (hmodal : w.router.config.modal_key_capture = false) (key : UInt32) :
    (Ran w (w.uart_handle_long_key key).1 [] ∧ (w.uart_handle_long_key key).1.router = w.router) ∨
      (w.uart_handle_long_key key).2 = true ∧
        ∃ command, Ran w (w.uart_handle_long_key key).1 [command] ∧
          (w.uart_handle_long_key key).1.router.pressed_key = 0 := by
  unfold Io.uart_handle_long_key
  dsimp only
  split
  · exact .inl ⟨.refl h, rfl⟩
  have hset := ran_set_uart_view h { w.page.uart_view with pending_hold_consumed := true }
  split
  · exact .inl ⟨hset.trans (ran_set_uart_view hset.settled _), rfl⟩
  · obtain ⟨hshow, -, hforgotten⟩ := ran_show_config_dialog hset.settled fun _ => hmodal
    exact .inr ⟨rfl, _, hset.trans hshow, hforgotten hpage⟩
  · exact .inl ⟨hset, rfl⟩
  · exact .inl ⟨hset, rfl⟩
  · exact .inl ⟨hset, rfl⟩
  · exact .inl ⟨hset, rfl⟩

/-- The listener for long presses leaves the router alone, or runs a command on the UART page. Then
the hold is forgotten, or the buttons can no longer be clicked. -/
theorem ran_long_key_listener (h : Settled w)
    (hmodal : w.router.config.modal_key_capture = false) (key : UInt32) :
    (Ran w (long_key_listener key w) [] ∧ (long_key_listener key w).router = w.router) ∨
      w.page.page_ = .UART_TEST ∧ ∃ command, Ran w (long_key_listener key w) [command] ∧
        ((long_key_listener key w).router.pressed_key = 0 ∨
          (long_key_listener key w).router.config.nav_buttons = fun _ => false) := by
  unfold long_key_listener
  by_cases hpage : w.page.page_ = .UART_TEST
  · rw [if_neg (not_not.2 hpage)]
    dsimp only
    rcases ran_uart_handle_long_key h hpage hmodal key with
      ⟨hran, hrouter⟩ | ⟨hhandled, command, hran, hkey⟩
    · split
      · exact .inl ⟨hran, hrouter⟩
      split
      · exact .inr ⟨hpage, .back, hran.trans (ran_request_back_or_quit hran.settled), .inr rfl⟩
      · exact .inl ⟨hran, hrouter⟩
    · rw [if_pos hhandled]
      exact .inr ⟨hpage, command, hran, .inl hkey⟩
  · rw [if_pos hpage]
    exact .inl ⟨.refl h, rfl⟩

/-- A long press runs one command at most, and only on the UART page. -/
theorem long_press_spec (h : Settled w) (hmodal : w.router.config.modal_key_capture = false)
    (answers : IoAnswers) {w' : Io} (hlistener : w' = long_key_listener w.router.pressed_key w ∨
      w' = w) :
    ∃ commands, Ran w ((listeners answers).dispatch_nav_key w' w'.router.pressed_key .LONG_PRESSED)
      commands ∧ commands.length ≤ 1 ∧ (commands ≠ [] → w.page.page_ = .UART_TEST) := by
  have hcases : (Ran w w' [] ∧ w'.router = w.router) ∨ w.page.page_ = .UART_TEST ∧
      ∃ command, Ran w w' [command] ∧
        (w'.router.pressed_key = 0 ∨ w'.router.config.nav_buttons = fun _ => false) := by
    rcases hlistener with rfl | rfl
    · exact ran_long_key_listener h hmodal _
    · exact .inl ⟨.refl h, rfl⟩
  rcases hcases with ⟨hran, hrouter⟩ | ⟨hpage, command, hran, hquiet⟩
  · by_cases hpage : w.page.page_ = .UART_TEST
    · obtain ⟨commands, hdispatch, hone⟩ := ran_dispatch_nav_key answers w'.router.pressed_key
        hran.settled .LONG_PRESSED fun _ => by rw [hrouter, hmodal]
      exact ⟨commands, hran.trans hdispatch, hone, fun _ => hpage⟩
    · have hcode : EventCode.LONG_PRESSED ≠ nav_event w'.page.page_ := by
        rw [hran.page_, nav_event, if_neg hpage]
        exact EventCode.noConfusion
      rw [dispatch_nav_key_other answers _ hcode]
      exact ⟨[], hran, Nat.zero_le _, fun hne => absurd rfl hne⟩
  · refine ⟨[command], ?_, le_rfl, fun _ => hpage⟩
    rcases hquiet with hkey | hbuttons
    · rwa [hkey, dispatch_nav_key_unmapped answers 0 unmapped_zero]
    · unfold Listeners.dispatch_nav_key
      dsimp only
      split
      · exact hran
      · rw [hbuttons]
        exact hran

theorem emit_long_key_cases (w : Io) (answers : IoAnswers) (key : UInt32) :
    (listeners answers).emit_long_key w key = (w, true) ∨ ∃ w',
      (listeners answers).emit_long_key w key = (w', false) ∧
        (w' = long_key_listener key w ∨ w' = w) := by
  have hglobal := emit_global_page w key true answers
  unfold Listeners.emit_long_key
  generalize (listeners answers).emit_global w key true = emitted at hglobal ⊢
  obtain ⟨w', consumed⟩ := emitted
  obtain rfl : w' = w := hglobal
  dsimp only
  split
  · exact .inl rfl
  split
  · exact .inr ⟨_, rfl, .inl rfl⟩
  · exact .inr ⟨_, rfl, .inr rfl⟩

/-- The hold has had its long press, or there is none. -/
def Spent (s : KeyRouterState) : Prop := s.long_press_sent = true ∨ s.pressed_key = 0

theorem Lasts.spent {s s' : KeyRouterState} (hlasts : Lasts s s') (h : Spent s) : Spent s' := by
  rcases hlasts with ⟨hkey, hsent, -⟩ | ⟨hforgotten, -⟩
  · unfold Spent
    rwa [hkey, hsent]
  · exact .inr hforgotten

/-- The timer runs a command only on the UART page and once for a hold. -/
theorem tick_spec (h : Settled w) (answers : IoAnswers) :
    ∃ commands, Steps w ((listeners answers).tick w) commands ∧ commands.length ≤ 1 ∧
      (commands ≠ [] → w.page.page_ = .UART_TEST ∧ ¬ Spent w.router) ∧
      (Spent w.router ∨ commands ≠ [] → Spent ((listeners answers).tick w).router) := by
  have hnothing : ∃ commands, Steps w w commands ∧ commands.length ≤ 1 ∧
      (commands ≠ [] → w.page.page_ = .UART_TEST ∧ ¬ Spent w.router) ∧
      (Spent w.router ∨ commands ≠ [] → Spent w.router) :=
    ⟨[], (Ran.refl h).steps, Nat.zero_le _, fun hne => absurd rfl hne,
      fun hor => hor.resolve_right fun hne => hne rfl⟩
  unfold Listeners.tick Listeners.long_press_timer_cb
  split
  swap
  · exact hnothing
  split
  · exact hnothing
  next hpending =>
  split
  · exact hnothing
  have hunspent : ¬ Spent w.router := by
    rintro (hsent | hkey)
    · simp [hsent] at hpending
    · simp [hkey] at hpending
  dsimp only
  have hsent : Settled { w with router := { w.router with long_press_sent := true } } :=
    h.router rfl
  have hsteps {w' : Io} {commands : List Command}
      (hran : Ran { w with router := { w.router with long_press_sent := true } } w' commands)
      (hone : commands.length ≤ 1) (hpage : commands ≠ [] → w.page.page_ = .UART_TEST) :
      ∃ commands, Steps w w' commands ∧ commands.length ≤ 1 ∧
        (commands ≠ [] → w.page.page_ = .UART_TEST ∧ ¬ Spent w.router) ∧
        (Spent w.router ∨ commands ≠ [] → Spent w'.router) :=
    ⟨commands, ⟨hran.commands, hran.page_, hran.settled⟩, hone, fun hne => ⟨hpage hne, hunspent⟩,
      fun _ => hran.lasts.spent (.inl rfl)⟩
  have hidle := hsteps (.refl hsent) (Nat.zero_le _) fun hne => absurd rfl hne
  split
  · exact hidle
  next hmodal =>
  split
  · exact hidle
  have hcalm : w.router.config.modal_key_capture = false := by simpa using hmodal
  rcases emit_long_key_cases { w with router := { w.router with long_press_sent := true } } answers
    w.router.pressed_key with hemit | ⟨w', hemit, hlistener⟩
  · rw [hemit]
    exact hidle
  · rw [hemit]
    obtain ⟨commands, hran, hone, hpage⟩ := long_press_spec hsent hcalm answers hlistener
    exact hsteps hran hone hpage

/-! ## Events -/

/-- The page before an event, with the time of the event. -/
def Io.ready (w : Io) (elapsed : ℕ) : Io :=
  Routing.elapse { w with page := { w.page with commands := [] } } elapsed

theorem Settled.ready (h : Settled w) (elapsed : ℕ) : Settled (w.ready elapsed) :=
  ⟨h.modes, h.listening, h.captured, h.alone⟩

theorem steps_of_ready {w' : Io} {elapsed : ℕ} {commands : List Command}
    (h : Steps (w.ready elapsed) w' commands) (router : KeyRouterState)
    (hconfig : router.config = w'.router.config) :
    Settled { w' with router } ∧ w'.page.page_ = w.page.page_ ∧ w'.page.commands = commands :=
  ⟨h.settled.router hconfig, h.page_, h.commands⟩

/-- A press runs one command at most, and none on the UART page, unless 5 is bound twice. -/
theorem press_spec (h : Settled w) {e : IoEvent} {key : UInt32} (he : e.action = .key key true)
    (htwice : ¬ BoundTwice w e) :
    Settled (w.handle e) ∧ (w.handle e).page.page_ = w.page.page_ ∧
      (w.handle e).page.commands.length ≤ 1 ∧
      (w.page.page_ = .UART_TEST → (w.handle e).page.commands = []) := by
  have hpress : ∃ commands,
      Steps (w.ready e.elapsed) ((listeners e.answers).on_press (w.ready e.elapsed) key) commands ∧
        commands.length ≤ 1 ∧ (w.page.page_ = .UART_TEST → commands = []) := by
    by_cases hheld : w.router.last_key_pressed = true ∧ w.router.pressed_key = key
    · exact on_press_spec (h.ready _) e.answers fun _ => hheld
    by_cases hfive : Restarts w key
    · have hnew : w.router.last_key_pressed = false ∨ w.router.pressed_key ≠ key := by
        rwa [not_and_or, Bool.not_eq_true] at hheld
      obtain ⟨commands, hsteps, hlength⟩ := on_press_five (h.ready e.elapsed) e.answers hfive hnew
      refine ⟨commands, hsteps, ?_, fun huart => ?_⟩
      · rw [hlength, if_neg]
        rintro ⟨hmodal, hbutton, hlast⟩
        obtain ⟨hpage, rfl, hdialog⟩ := hfive
        exact htwice ⟨hpage, he, hdialog, hmodal, hbutton, hnew, hlast⟩
      · exact absurd (hfive.1.symm.trans huart) (by decide)
    · exact on_press_spec (h.ready _) e.answers fun hrestarts => absurd hrestarts hfive
  obtain ⟨commands, hsteps, hone, huart⟩ := hpress
  unfold Io.handle
  rw [he]
  obtain ⟨hsettled, hpage, hcommands⟩ := steps_of_ready hsteps
    { ((listeners e.answers).on_press (w.ready e.elapsed) key).router with
      last_key := key
      last_key_pressed := true } rfl
  exact ⟨hsettled, hpage, hcommands.symm ▸ hone, fun hp => hcommands.trans (huart hp)⟩

/-- Where 5 is bound twice, it runs two commands. -/
theorem press_twice (h : Settled w) {e : IoEvent} (htwice : BoundTwice w e) :
    (w.handle e).page.commands.length = 2 := by
  obtain ⟨hpage, he, hdialog, hmodal, hbutton, hnew, hlast⟩ := htwice
  obtain ⟨commands, hsteps, hlength⟩ :=
    on_press_five (h.ready e.elapsed) e.answers ⟨hpage, rfl, hdialog⟩ hnew
  unfold Io.handle
  rw [he]
  refine (congrArg List.length hsteps.commands).trans (hlength.trans (if_pos ?_))
  exact ⟨hmodal, hbutton, hlast⟩

/-- What an event does that is no press: it may run a command on the UART page, once for a
hold. -/
structure Between (w w' : Io) : Prop where
  settled : Settled w'
  page_ : w'.page.page_ = w.page.page_
  one : w'.page.commands.length ≤ 1
  uart : w'.page.commands ≠ [] → w.page.page_ = .UART_TEST ∧ ¬ Spent w.router
  spent : Spent w.router ∨ w'.page.commands ≠ [] → Spent w'.router

/-- No command is run. -/
theorem between_of_nothing {w' : Io} {elapsed : ℕ} (hsteps : Steps (w.ready elapsed) w' [])
    (hspent : Spent w.router → Spent w'.router) (key : UInt32) :
    Between w { w' with router := { w'.router with last_key := key, last_key_pressed := false } } :=
  have hcommands : w'.page.commands = [] := hsteps.commands
  { settled := hsteps.settled.router rfl
    page_ := hsteps.page_
    one := hcommands ▸ Nat.zero_le _
    uart := fun hne => absurd hcommands hne
    spent := fun hor => hspent (hor.resolve_right fun hne => hne hcommands) }

theorem between_spec (h : Settled w) {e : IoEvent} (he : ∀ key, e.action ≠ .key key true) :
    Between w (w.handle e) := by
  cases haction : e.action with
  | tick =>
    have hhandle : w.handle e = (listeners e.answers).tick (w.ready e.elapsed) := by
      unfold Io.handle
      rw [haction]
      rfl
    obtain ⟨commands, hsteps, hone, huart, hspent⟩ := tick_spec (h.ready e.elapsed) e.answers
    obtain rfl : (w.handle e).page.commands = commands := by
      rw [hhandle]
      exact hsteps.commands
    rw [hhandle] at hone huart hspent ⊢
    exact ⟨hsteps.settled, hsteps.page_, hone, huart, hspent⟩
  | key key pressed =>
    cases pressed with
    | true => exact absurd haction (he key)
    | false =>
      have hhandle : w.handle e =
          (listeners e.answers).route_key_state (w.ready e.elapsed) key false := by
        unfold Io.handle
        rw [haction]
        rfl
      rw [hhandle]
      unfold Listeners.route_key_state
      rw [if_neg Bool.false_ne_true]
      split
      · obtain ⟨hsteps, hreleased⟩ := on_release_spec (h.ready e.elapsed) e.answers key
        exact between_of_nothing hsteps (fun _ => .inr hreleased) key
      · exact between_of_nothing (Ran.refl (h.ready e.elapsed)).steps (fun hspent => hspent) key

/-! ## Runs -/

theorem OneCommand.concat {history : List IoObs} (h : OneCommand history) {o : IoObs}
    (hone : o.commands.length ≤ 1)
    (hlater : ∀ before press later, history = before ++ press :: later → press.presses = true →
      (∀ o' ∈ later ++ [o], o'.presses = false) →
        (press :: later).flatMap IoObs.commands ≠ [] → o.commands = []) :
    OneCommand (history ++ [o]) := by
  intro before press later after heq hpress hquiet
  have hcount {commands : List Command} (hlength : commands.length ≤ 1) :
      commands.length ≤ 1 ∧ commands.countP Command.began ≤ 1 :=
    ⟨hlength, List.countP_le_length.trans hlength⟩
  rcases List.eq_nil_or_concat after with rfl | ⟨rest, last, rfl⟩
  · rw [List.append_nil] at heq
    rcases concat_eq_append_cons heq with ⟨rfl, -, rfl⟩ | ⟨rest, rfl, hhistory⟩
    · refine hcount ?_
      rwa [List.flatMap_singleton]
    · have hrest := h before press rest [] (by rw [hhistory, List.append_nil]) hpress fun o' ho' =>
        hquiet o' (List.mem_append_left _ ho')
      refine hcount ?_
      rw [← List.cons_append, List.flatMap_append, List.flatMap_singleton, List.length_append]
      by_cases hnone : (press :: rest).flatMap IoObs.commands = []
      · rw [hnone, List.length_nil, Nat.zero_add]
        exact hone
      · rw [hlater before press rest hhistory hpress hquiet hnone, List.length_nil]
        exact hrest.1
  · rw [List.concat_eq_append, ← List.append_assoc] at heq
    obtain ⟨hhistory, -⟩ := List.append_inj' heq rfl
    exact h before press later rest hhistory hpress hquiet

/-- Every press has run one command at most, and on the UART page a hold that ran one has no
further one. -/
structure Orderly (c : Config Io IoObs) : Prop where
  settled : Settled c.state
  one : OneCommand c.history
  spent : c.state.page.page_ = .UART_TEST → ∀ before press later,
    c.history = before ++ press :: later → press.presses = true →
      (∀ o ∈ later, o.presses = false) → (press :: later).flatMap IoObs.commands ≠ [] →
        Spent c.state.router

theorem Orderly.next {c : Config Io IoObs} (h : Orderly c) {e : IoEvent}
    (he : ¬ BoundTwice c.state e) : Orderly (io_test_page.next c e) := by
  by_cases hpress : ∃ key, e.action = .key key true
  · obtain ⟨key, hkey⟩ := hpress
    obtain ⟨hsettled, hpage, hone, huart⟩ := press_spec h.settled hkey he
    have hpresses : IoObs.presses ⟨e.action, (c.state.handle e).page.commands⟩ = true := by
      rw [hkey]
      rfl
    refine ⟨hsettled, h.one.concat hone fun before press later _ _ hquiet _ => ?_,
      fun hp before press later heq _ hquiet hne => ?_⟩
    · have hnot := hquiet _ (List.mem_append_right _ (List.mem_singleton.2 rfl))
      exact absurd (hpresses.symm.trans hnot) Bool.false_ne_true.symm
    · rcases concat_eq_append_cons heq with ⟨rfl, -, rfl⟩ | ⟨rest, rfl, -⟩
      · rw [List.flatMap_singleton] at hne
        exact absurd (huart (hpage.symm.trans hp)) hne
      · have hnot := hquiet _ (List.mem_append_right _ (List.mem_singleton.2 rfl))
        exact absurd (hpresses.symm.trans hnot) Bool.false_ne_true.symm
  · have hbetween := between_spec h.settled (e := e) fun key hkey => hpress ⟨key, hkey⟩
    have hpresses : IoObs.presses ⟨e.action, (c.state.handle e).page.commands⟩ = false := by
      unfold IoObs.presses
      cases haction : e.action with
      | tick => rfl
      | key key pressed => exact Bool.eq_false_iff.2 fun hp => hpress ⟨key, hp ▸ haction⟩
    refine ⟨hbetween.settled, h.one.concat hbetween.one
      fun before press later heq hp hquiet hne => ?_,
      fun hp before press later heq hpress' hquiet hne => ?_⟩
    · by_contra hran
      obtain ⟨huart, hunspent⟩ := hbetween.uart hran
      exact hunspent (h.spent huart before press later heq hp
        (fun o ho => hquiet o (List.mem_append_left _ ho)) hne)
    · rcases concat_eq_append_cons heq with ⟨-, -, rfl⟩ | ⟨rest, rfl, hhistory⟩
      · exact absurd (hpresses.symm.trans hpress') Bool.false_ne_true
      · refine hbetween.spent ?_
        by_cases hran : (c.state.handle e).page.commands = []
        · refine .inl (h.spent (hbetween.page_.symm.trans hp) before press rest hhistory hpress'
            (fun o ho => hquiet o (List.mem_append_left _ ho)) fun hnone => hne ?_)
          rw [← List.cons_append, List.flatMap_append, hnone, List.flatMap_singleton]
          exact hran
        · exact .inr hran

theorem BoundTwice.not_one {c : Config Io IoObs} (h : Settled c.state) {e : IoEvent}
    (he : BoundTwice c.state e) : ¬ OneCommand (io_test_page.next c e).history := by
  intro hone
  have hpresses : IoObs.presses ⟨e.action, (c.state.handle e).page.commands⟩ = true := by
    rw [he.2.1]
    rfl
  have hlength := (hone c.history _ [] [] (List.append_nil _).symm hpresses
    fun o ho => absurd ho List.not_mem_nil).1
  rw [List.flatMap_singleton, press_twice h he] at hlength
  exact absurd hlength (by decide)

/-- On every connectivity page, in and out of a sequence, a press runs one command at most, in every
run of presses, releases and ticks of the timer, if and only if no step of the run presses 5 on the
Link page where it is bound twice. -/
theorem one_command_iff (page_ : IoAppPage) (app : TestSequence)
    (nav_direction_aliases_enabled : Bool) (now : ℕ) (events : List IoEvent) :
    (∀ before after, events = before ++ after → OneCommand
      (io_test_page.run ⟨.start page_ app nav_direction_aliases_enabled now, []⟩ before).history) ↔
      io_test_page.Along (fun c e => ¬ BoundTwice c.state e)
        ⟨.start page_ app nav_direction_aliases_enabled now, []⟩ events := by
  have hstart : Orderly ⟨.start page_ app nav_direction_aliases_enabled now, []⟩ := by
    refine ⟨⟨iff_of_false Bool.false_ne_true fun hmode => ?_, rfl, fun _ hor => ?_,
      fun _ _ => rfl⟩, fun before press later after heq => ?_, fun _ before press later heq => ?_⟩
    · cases hmode
    · rcases hor with hdialog | hlive
      · cases hdialog
      · cases hlive
    · simp at heq
    · simp at heq
  rw [Machine.everywhere_iff_along (P := fun c => OneCommand c.history) hstart.one]
  refine Machine.along_iff (I := Orderly) (fun c e hc hnext => hc.next fun htwice => ?_)
    (fun c e hc => ⟨fun hnext htwice => ?_, fun he => (hc.next he).one⟩) hstart events
  · exact htwice.not_one hc.settled hnext
  · exact htwice.not_one hc.settled hnext

/-- 5 on the Link page of a full sequence. -/
def link_restart : List IoEvent := [⟨0, .key '5'.val true, ⟨⟨true, true⟩, true⟩⟩]

/-- The one press restarts the test twice, and begins two attempts. -/
theorem link_restarts_twice : ¬ ∀ before after, link_restart = before ++ after → OneCommand
    (io_test_page.run ⟨.start .LINK_TEST ⟨.CARDPUTER_ZERO, true, 8⟩ true 0, []⟩
      before).history := by
  intro h
  have hrun : (io_test_page.run ⟨.start .LINK_TEST ⟨.CARDPUTER_ZERO, true, 8⟩ true 0, []⟩
      link_restart).history = [⟨.key '5'.val true, [.restart true, .restart true]⟩] := by
    decide +kernel
  have hone := h link_restart [] (List.append_nil _).symm
  rw [hrun] at hone
  have hattempts := (hone [] _ [] [] rfl rfl fun o ho => absurd ho List.not_mem_nil).2
  exact absurd hattempts (by decide)

end FactoryTest.View

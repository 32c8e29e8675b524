import FactoryTest.App.ScreenManager
import FactoryTest.ViewModel.Calls

/-!
# Evidence goes to the test of its page

What a handler of the loaded page records is stored for the current test of the view model. A
verdict moves that one on at once, and the page follows only when the flush comes.

**The property** (`OnOwnTest`). Every record that changes is that of the test which the loaded page
is loaded for.

**Theorem (`on_own_test_iff`).** Verdicts always have the property. In between, a key can still
reach the old page, whose dialog no longer takes it, and then what the page records is stored for
the next test: all evidence of a run has the property if and only if none is stored while another
page than the loaded one is requested.
-/

namespace FactoryTest.App

open Session (Answers TestRecord TestResult modify_test sampleNow)
open ViewModel
open Input (LV_KEY_ENTER)
open View (Key TestConfirmDialog ButtonRole)

/-! ## What is stored, and for which test -/

/-- Every record that is changed is that of the test which the page is loaded for. -/
def OnOwnTest (s : ScreenManager) (tests : List TestRecord) : Prop :=
  ∀ (i : ℕ) (t : TestRecord), s.app_view_model.records[i]? = some t → tests[i]? ≠ some t →
    ∃ p item, s.current_screen = some p ∧ p.item = some item ∧ t.id = item.id

/-- The loaded page is the one that was requested. -/
def Settled (s : ScreenManager) : Prop :=
  ∀ p ∈ s.current_screen, s.requested_page = p.page

instance (s : ScreenManager) : Decidable (Settled s) := by
  unfold Settled
  infer_instance

section

variable (cJSON : CJsonLibrary) (directory : String) (product_model : ProductModel)

/-- What the event records is stored for the own test of the page. -/
def StoresForOwnTest (s : ScreenManager) (e : Event) : Prop :=
  ∀ c ∈ e.call s, Records c →
    OnOwnTest s (step cJSON directory product_model s e).1.app_view_model.records

/-- If the event stores evidence, the loaded page is the one that was requested. -/
def StoresWhenSettled (s : ScreenManager) (e : Event) : Prop :=
  ∀ c ∈ e.call s, RecordsEvidence c →
    (step cJSON directory product_model s e).1.app_view_model.records ≠ s.app_view_model.records →
      Settled s

instance (s : ScreenManager) (e : Event) :
    Decidable (StoresWhenSettled cJSON directory product_model s e) := by
  unfold StoresWhenSettled
  infer_instance

end

/-! ## Keys -/

/-- The verdict has been chosen in the dialog, which is still there. -/
def Screen.Judged (p : Screen) : Prop :=
  ∃ dialog, p.test_result_dialog = some dialog ∧ dialog.visible = true ∧
    dialog.action_triggered = true

/-- The dialog lets a key pass and stays as it is; or it takes the key, and if a button is triggered
it stays there. -/
theorem handle_key_cases (dialog : TestConfirmDialog) (k : Key) :
    dialog.handle_key k = (dialog, false, none) ∨
      (dialog.visible && dialog.action_triggered) = false ∧
        ∃ dialog' triggered, dialog.handle_key k = (dialog', true, triggered) ∧
          (triggered ≠ none → dialog'.visible = true ∧ dialog'.action_triggered = true) := by
  unfold TestConfirmDialog.handle_key
  split_ifs with hpass
  · exact .inl rfl
  all_goals
    obtain ⟨hvisible, htriggered⟩ : dialog.visible = true ∧ dialog.action_triggered = false := by
      simpa using hpass
  · exact .inr ⟨by rw [htriggered, Bool.and_false], _, _, rfl, fun hnone => absurd rfl hnone⟩
  · exact .inr ⟨by rw [htriggered, Bool.and_false], _, _, rfl, fun hnone => absurd rfl hnone⟩
  · refine .inr ⟨by rw [htriggered, Bool.and_false], _, _, rfl, fun hrole => ?_⟩
    unfold TestConfirmDialog.trigger_focused_button_ at hrole ⊢
    cases hfocused : dialog.focused with
    | none =>
      rw [hfocused] at hrole
      exact absurd rfl hrole
    | some role => exact ⟨hvisible, rfl⟩
  · exact .inr ⟨by rw [htriggered, Bool.and_false], _, _, rfl, fun hnone => absurd rfl hnone⟩
  · exact .inl rfl

/-- What a key does on a page: its dialog takes it, and maybe gives a verdict; or the page may
record that the fixture is started. -/
inductive Screen.Keyed (p : Screen) (a b : Answers) : Screen × Option Call → Prop
  | taken (p' : Screen) (hpage : p'.page = p.page) (hitem : p'.item = p.item)
    (hdialog : p.test_result_dialog ≠ none) (hjudged : ¬ p.Judged) : Keyed p a b (p', none)
  | verdict (p' : Screen) (result : TestResult) (hpage : p'.page = p.page)
    (hitem : p'.item = p.item) (hdialog : p.test_result_dialog ≠ none) (hjudged : ¬ p.Judged)
    (hjudged' : p'.Judged) : Keyed p a b (p', some (.complete_current_test result a b))
  | passed : Keyed p a b (p, none)
  | started : Keyed p a b ({ p with fixture := .RUNNING },
      some (.record_current_test_value "fixture_started" (.boolean true) a))

theorem key_listener_cases (p : Screen) (k : Key) (a b : Answers) :
    p.Keyed a b (p.key_listener k a b) := by
  -- the page's own keys
  have hown : p.Keyed a b (if p.page = .IR_FIXTURE_TEST && is_enter k then p.start a
      else (p, none)) := by
    unfold Screen.start
    split_ifs
    · exact .started
    · exact .passed
    · exact .passed
  unfold Screen.key_listener Screen.handle_test_result_dialog_key
  cases hdialog : p.test_result_dialog with
  | none => exact hown
  | some dialog =>
    have hsome : p.test_result_dialog ≠ none := by
      rw [hdialog]
      exact Option.some_ne_none dialog
    dsimp only
    rcases handle_key_cases dialog k with hpass | ⟨hfresh, dialog', triggered, htake, hthere⟩
    · rw [hpass]
      dsimp only
      have hsame : { p with test_result_dialog := some dialog } = p := by
        rw [← hdialog]
      rw [hsame]
      exact hown
    · have hjudged : ¬ p.Judged := by
        rintro ⟨d, hd, hvisible, htriggered⟩
        obtain rfl : dialog = d := Option.some.inj (hdialog.symm.trans hd)
        rw [hvisible, htriggered] at hfresh
        cases hfresh
      rw [htake]
      dsimp only
      cases triggered with
      | none => split_ifs <;> exact .taken _ rfl rfl hsome hjudged
      | some role =>
        obtain ⟨hvisible, htriggered⟩ := hthere (Option.some_ne_none role)
        have hstays : (true && k.is_dialog_cancel_key &&
            !{ p with test_result_dialog := some dialog' }.visible) = false := by
          have hseen : { p with test_result_dialog := some dialog' }.visible = true := hvisible
          rw [hseen, Bool.not_true, Bool.and_false]
        rw [hstays]
        exact .verdict _ role.result rfl rfl hsome hjudged ⟨dialog', rfl, hvisible, htriggered⟩

/-! ## The invariant -/

section

variable {cJSON : CJsonLibrary} {directory : String} {product_model : ProductModel}

/-- A loaded page, beside the view model and the page that is requested. -/
structure Loaded (product_model : ProductModel) (app : AppViewModel) (requested : AppPage)
    (p : Screen) : Prop where
  item : ∀ item, p.item = some item →
    (∃ index, sequence_item product_model index = some item) ∧ item.page = p.page
  /-- Only on the start page a test gets current with no page loaded for one. -/
  no_item : p.item = none → app.current_item product_model = none ∨ p.page = .START
  start : p.page = .START → p.test_result_dialog = none
  /-- While another page is requested for a test, the loaded page has given its verdict. -/
  judged : app.current_item product_model ≠ none → requested ≠ p.page →
    p.page = .START ∨ p.Judged

/-- What holds between the events. -/
structure Inv (product_model : ProductModel) (s : ScreenManager) : Prop where
  requested : s.requested_page = s.app_view_model.current_page
  shown : Shown product_model s.app_view_model
  loaded : ∀ p, s.current_screen = some p →
    Loaded product_model s.app_view_model s.requested_page p

section

variable {app : AppViewModel} {p : Screen} {requested : AppPage}

/-- Away from the start page a handler changes the session, or it ends the sequence. -/
theorem call_of_by {c : Call} (hby : Call.By p.page c) (hpage : p.page ≠ .START) :
    (∃ w, (ViewModel.call cJSON directory product_model app c).1 = { app with session := w }) ∨
      (ViewModel.call cJSON directory product_model app c).1.current_item product_model = none := by
  cases c with
  | begin_current_test_attempt a =>
    dsimp only [ViewModel.call, AppViewModel.begin_current_test_attempt]
    cases app.current_item product_model with
    | none => exact .inl ⟨app.session, rfl⟩
    | some item => exact .inl ⟨_, rfl⟩
  | record_current_test_evidence evidence a =>
    dsimp only [ViewModel.call, AppViewModel.record_current_test_evidence]
    cases app.current_item product_model with
    | none => exact .inl ⟨app.session, rfl⟩
    | some item => exact .inl ⟨_, rfl⟩
  | record_current_test_value key value a =>
    dsimp only [ViewModel.call, AppViewModel.record_current_test_value]
    cases app.current_item product_model with
    | none => exact .inl ⟨app.session, rfl⟩
    | some item => exact .inl ⟨_, rfl⟩
  | show_start_page => exact .inr (current_item_of_inactive rfl)
  | start_full_test_sequence metadata a b => exact absurd hby hpage
  | resume_full_test_sequence listing a => exact absurd hby hpage
  | load_recoverable_test_session listing => exact absurd hby hpage
  | show_single_test_page page => exact absurd hby hpage
  | _ => exact hby.elim

theorem Loaded.call (h : Loaded product_model app app.current_page p) {c : Call}
    (hby : Call.By p.page c) {app' : AppViewModel}
    (happ : app' = (ViewModel.call cJSON directory product_model app c).1) :
    Loaded product_model app' app'.current_page p := by
  by_cases hpage : p.page = .START
  · exact ⟨h.item, fun _ => .inr hpage, h.start, fun _ _ => .inl hpage⟩
  rcases @call_of_by cJSON directory product_model app p c hby hpage with ⟨w, hsame⟩ | hnone
  · rw [happ, hsame]
    exact ⟨h.item, h.no_item, h.start, h.judged⟩
  · rw [← happ] at hnone
    exact ⟨h.item, fun _ => .inl hnone, h.start, fun hne => absurd hnone hne⟩

/-- No test gets current with a verdict, if none was before. -/
theorem complete_current_item (result : TestResult) {a b : Answers}
    (h : app.current_item product_model = none) :
    (app.complete_current_test cJSON product_model result a b).current_item product_model =
      none := by
  unfold AppViewModel.complete_current_test
  by_cases hactive : app.test_sequence_active = true
  · rw [if_pos hactive]
    rw [AppViewModel.current_item, if_pos hactive] at h
    rw [h]
    exact (if_pos hactive).trans h
  · rw [if_neg hactive, AppViewModel.advance_test_sequence, if_pos (by simpa using hactive)]
    exact current_item_of_inactive rfl

theorem Loaded.complete (h : Loaded product_model app app.current_page p) {p' : Screen}
    (hpage : p'.page = p.page) (hitem : p'.item = p.item) (hdialog : p.test_result_dialog ≠ none)
    (hjudged : p'.Judged) (result : TestResult) {a b : Answers} {app' : AppViewModel}
    (happ : app' = app.complete_current_test cJSON product_model result a b) :
    Loaded product_model app' app'.current_page p' := by
  refine ⟨?_, fun hnone => ?_, fun hstart => ?_, fun _ _ => .inr hjudged⟩
  · rw [hpage, hitem]
    exact h.item
  · rw [happ, hpage]
    exact (h.no_item (hitem ▸ hnone)).imp_left (complete_current_item result)
  · exact absurd (h.start (hpage ▸ hstart)) hdialog

/-- The page keeps its test, and a verdict once it is given. -/
theorem Loaded.congr (h : Loaded product_model app requested p) {p' : Screen}
    (hpage : p'.page = p.page) (hitem : p'.item = p.item)
    (hstart : p.page = .START → p'.test_result_dialog = none) (hjudged : p.Judged → p'.Judged) :
    Loaded product_model app requested p' := by
  refine ⟨?_, ?_, ?_, ?_⟩
  · rw [hpage, hitem]
    exact h.item
  · rw [hpage, hitem]
    exact h.no_item
  · rw [hpage]
    exact hstart
  · rw [hpage]
    exact fun hcurrent hne => (h.judged hcurrent hne).imp_right hjudged

end

section

variable {s : ScreenManager}

/-- The page that a call shows is requested. -/
theorem call_spec (h : s.requested_page = s.app_view_model.current_page) (c : Call) (ok : Bool) :
    (s.call cJSON directory product_model c ok).1.app_view_model =
        (ViewModel.call cJSON directory product_model s.app_view_model c).1 ∧
      (s.call cJSON directory product_model c ok).1.requested_page =
        (ViewModel.call cJSON directory product_model s.app_view_model c).1.current_page ∧
      (s.call cJSON directory product_model c ok).1.current_screen = s.current_screen := by
  unfold ScreenManager.call ScreenManager.request_page
  dsimp only
  by_cases hpage : (ViewModel.call cJSON directory product_model s.app_view_model c).1.current_page
      = s.app_view_model.current_page
  · rw [if_pos hpage]
    exact ⟨rfl, h.trans hpage.symm, rfl⟩
  · rw [if_neg hpage]
    split_ifs <;> exact ⟨rfl, rfl, rfl⟩

/-- A call is made with a page that stays as it should. -/
theorem inv_call {p : Screen} (hrequested : s.requested_page = s.app_view_model.current_page)
    (hshown : Shown product_model s.app_view_model) (c : Call) (ok : Bool)
    (h : ∀ app', app' = (ViewModel.call cJSON directory product_model s.app_view_model c).1 →
      Loaded product_model app' app'.current_page p) :
    Inv product_model
      ({ s with current_screen := some p }.call cJSON directory product_model c ok).1 := by
  obtain ⟨happ, hpage, hscreen⟩ := @call_spec cJSON directory product_model
    { s with current_screen := some p } hrequested c ok
  refine ⟨hpage.trans (congrArg _ happ.symm), happ ▸ shown_call hshown c, fun q hq => ?_⟩
  obtain rfl : p = q := Option.some.inj (hscreen.symm.trans hq)
  rw [happ, hpage]
  exact h _ rfl

/-- The page that is requested is made. -/
theorem inv_load_screen (h : Inv product_model s) :
    Inv product_model (s.load_screen product_model) := by
  refine ⟨h.requested, h.shown, fun p hp => ?_⟩
  obtain rfl : _ = p := Option.some.inj hp
  refine ⟨fun item hitem => ⟨?_, ?_⟩, fun hnone => .inl hnone, fun _ => rfl, fun _ hne => ?_⟩
  · exact ⟨_, (current_item_eq_some hitem).2⟩
  · exact (h.shown item hitem).symm.trans h.requested.symm
  · exact absurd rfl hne

theorem inv_step (h : Inv product_model s) {e : Event} (hallowed : e.Allowed s) :
    Inv product_model (step cJSON directory product_model s e).1 := by
  have hrequested := h.requested
  cases e with
  | handler c ok =>
    cases hscreen : s.current_screen with
    | none =>
      unfold Event.Allowed at hallowed
      rw [hscreen] at hallowed
      exact hallowed.elim
    | some p =>
      have hby : Call.By p.page c := by
        unfold Event.Allowed at hallowed
        rw [hscreen] at hallowed
        exact hallowed
      have hloaded := h.loaded p hscreen
      rw [hrequested] at hloaded
      have hsame : { s with current_screen := some p } = s := by
        rw [← hscreen]
      rw [step, ← hsame]
      exact inv_call hrequested h.shown c ok fun app' happ => hloaded.call hby happ
  | show_test_result_dialog =>
    refine ⟨hrequested, h.shown, fun p' hp' => ?_⟩
    obtain ⟨p, hp, rfl⟩ := Option.map_eq_some_iff.1 hp'
    have hpage : p.page ≠ .START := by
      unfold Event.Allowed at hallowed
      rw [hp] at hallowed
      exact hallowed
    unfold Screen.show_test_result_dialog
    split_ifs with hvisible
    · exact h.loaded p hp
    · refine (h.loaded p hp).congr rfl rfl (fun hstart => absurd hstart hpage) ?_
      rintro ⟨dialog, hdialog, hseen, -⟩
      rw [Screen.visible, hdialog] at hvisible
      exact absurd hseen hvisible
  | key k a b ok =>
    dsimp only [step]
    cases hscreen : s.current_screen with
    | none => exact h
    | some p =>
      have hloaded := h.loaded p hscreen
      have hcases := key_listener_cases p k a b
      dsimp only
      generalize p.key_listener k a b = r at hcases ⊢
      cases hcases with
      | taken p' hpage hitem hdialog hjudged =>
        refine ⟨hrequested, h.shown, fun q hq => ?_⟩
        obtain rfl : p' = q := Option.some.inj hq
        exact hloaded.congr hpage hitem (fun hstart => absurd (hloaded.start hstart) hdialog)
          fun hbefore => absurd hbefore hjudged
      | passed =>
        refine ⟨hrequested, h.shown, fun q hq => ?_⟩
        obtain rfl : p = q := Option.some.inj hq
        exact hloaded
      | verdict _ result hpage hitem hdialog hjudged hjudged' =>
        rw [hrequested] at hloaded
        exact inv_call hrequested h.shown (.complete_current_test result a b) ok fun app' happ =>
          hloaded.complete hpage hitem hdialog hjudged' result happ
      | started =>
        rw [hrequested] at hloaded
        refine inv_call hrequested h.shown
          (.record_current_test_value "fixture_started" (.boolean true) a) ok fun app' happ => ?_
        have hby : Call.By p.page
            (.record_current_test_value "fixture_started" (.boolean true) a) := trivial
        have hcall := hloaded.call hby happ
        exact hcall.congr rfl rfl hcall.start id
  | fixture state =>
    refine ⟨hrequested, h.shown, fun p' hp' => ?_⟩
    obtain ⟨p, hp, rfl⟩ := Option.map_eq_some_iff.1 hp'
    exact (h.loaded p hp).congr rfl rfl (h.loaded p hp).start id
  | refresh_current_page ok =>
    dsimp only [step, ScreenManager.request_page]
    split_ifs
    · exact ⟨rfl, h.shown, hrequested ▸ h.loaded⟩
    · exact ⟨rfl, h.shown, hrequested ▸ h.loaded⟩
  | flush_requested_page =>
    have hunscheduled : Inv product_model { s with page_switch_scheduled := false } :=
      ⟨hrequested, h.shown, h.loaded⟩
    dsimp only [step, ScreenManager.flush_requested_page]
    split
    · split_ifs
      · exact hunscheduled
      · exact inv_load_screen hunscheduled
    · exact inv_load_screen hunscheduled

/-! ## Where records are stored -/

/-- The records after an event are those after its call. -/
theorem step_records {e : Event} {c : Call} (h : e.call s = some c) :
    (step cJSON directory product_model s e).1.app_view_model.records =
      (ViewModel.call cJSON directory product_model s.app_view_model c).1.records := by
  have hcall : ∀ (s' : ScreenManager) (ok : Bool), s'.app_view_model = s.app_view_model →
      (s'.call cJSON directory product_model c ok).1.app_view_model.records =
        (ViewModel.call cJSON directory product_model s.app_view_model c).1.records := by
    intro s' ok happ
    unfold ScreenManager.call ScreenManager.request_page
    dsimp only
    rw [happ]
    split_ifs <;> rfl
  cases e with
  | handler c' ok =>
    obtain rfl : c' = c := Option.some.inj h
    exact hcall s ok rfl
  | key k a b ok =>
    obtain ⟨p, hscreen, hlistener⟩ := Option.bind_eq_some_iff.1 h
    dsimp only [step]
    rw [hscreen]
    dsimp only
    rw [hlistener]
    exact hcall _ ok rfl
  | _ => cases h

/-- A handler of a page gives no verdict. -/
theorem evidence_of_by {page : AppPage} {c : Call} (hby : Call.By page c) (h : Records c) :
    RecordsEvidence c := by
  cases c with
  | complete_current_test result a b => exact hby.elim
  | _ => exact h

/-- What is recorded is evidence, or a verdict from a dialog that had none yet. -/
theorem loaded_of_call {e : Event} (hallowed : e.Allowed s) {c : Call} (hcall : e.call s = some c)
    (h : Records c) : ∃ p, s.current_screen = some p ∧
      (RecordsEvidence c ∨ p.test_result_dialog ≠ none ∧ ¬ p.Judged) := by
  cases e with
  | handler c' ok =>
    obtain rfl : c' = c := Option.some.inj hcall
    unfold Event.Allowed at hallowed
    cases hscreen : s.current_screen with
    | none =>
      rw [hscreen] at hallowed
      exact hallowed.elim
    | some p =>
      rw [hscreen] at hallowed
      exact ⟨p, rfl, .inl (evidence_of_by hallowed h)⟩
  | key k a b ok =>
    obtain ⟨p, hscreen, hlistener⟩ := Option.bind_eq_some_iff.1 hcall
    refine ⟨p, hscreen, ?_⟩
    have hcases := key_listener_cases p k a b
    generalize p.key_listener k a b = r at hcases hlistener
    cases hcases with
    | taken _ _ _ _ _ => cases hlistener
    | passed => cases hlistener
    | verdict _ _ _ _ hdialog hjudged _ => exact .inr ⟨hdialog, hjudged⟩
    | started =>
      obtain rfl : _ = c := Option.some.inj hlistener
      exact .inl trivial
  | _ => cases hcall

/-- On the page that was requested, the current test is its own. -/
theorem own_of_settled (h : Inv product_model s) {p : Screen} (hscreen : s.current_screen = some p)
    (hpage : s.requested_page = p.page) {item : TestSequenceItem}
    (hitem : s.app_view_model.current_item product_model = some item) : p.item = some item := by
  have hloaded := h.loaded p hscreen
  obtain ⟨-, hindex⟩ := current_item_eq_some hitem
  have hshown : p.page = item.page := by
    rw [← hpage, h.requested, h.shown item hitem]
  cases hown : p.item with
  | none =>
    rcases hloaded.no_item hown with hnone | hstart
    · cases hnone.symm.trans hitem
    · exact absurd (hshown.symm.trans hstart) (item_page_ne_start hindex)
  | some own =>
    obtain ⟨⟨i, hi⟩, hown'⟩ := hloaded.item own hown
    rw [item_eq_of_page hi hindex (hown'.trans hshown)]

/-- On another page, it is not. -/
theorem settled_of_own (h : Inv product_model s) {p : Screen} (hscreen : s.current_screen = some p)
    {item own : TestSequenceItem} (hitem : s.app_view_model.current_item product_model = some item)
    (hown : p.item = some own) (hid : item.id = own.id) : s.requested_page = p.page := by
  obtain ⟨⟨i, hi⟩, hpage⟩ := (h.loaded p hscreen).item own hown
  obtain ⟨-, hindex⟩ := current_item_eq_some hitem
  rw [h.requested, h.shown item hitem, item_eq_of_id hindex hi hid, hpage]

/-- A verdict is given on the page that was requested. -/
theorem settled_of_verdict (h : Inv product_model s) {p : Screen}
    (hscreen : s.current_screen = some p) {item : TestSequenceItem}
    (hitem : s.app_view_model.current_item product_model = some item)
    (hdialog : p.test_result_dialog ≠ none) (hjudged : ¬ p.Judged) :
    s.requested_page = p.page := by
  have hloaded := h.loaded p hscreen
  by_contra hne
  have hcurrent : s.app_view_model.current_item product_model ≠ none := by
    rw [hitem]
    exact Option.some_ne_none item
  rcases hloaded.judged hcurrent hne with hstart | hyes
  · exact hdialog (hloaded.start hstart)
  · exact hjudged hyes

/-- What an event records is stored for the own test of its page iff the page is the one that was
requested, or nothing is stored, or it is a verdict. -/
theorem on_own_test_step (h : Inv product_model s) {e : Event} (hallowed : e.Allowed s) :
    StoresForOwnTest cJSON directory product_model s e ↔
      StoresWhenSettled cJSON directory product_model s e := by
  unfold StoresForOwnTest StoresWhenSettled
  generalize htests : (step cJSON directory product_model s e).1.app_view_model.records = tests
  replace htests := htests.symm
  cases hcall : e.call s with
  | none => exact iff_of_true (fun c hc => nomatch hc) fun c hc => nomatch hc
  | some c =>
    rw [step_records hcall] at htests
    by_cases hrecords : Records c
    swap
    · refine iff_of_true (fun c' hc' hc => ?_) fun c' hc' hc => ?_
      · exact absurd (Option.some.inj hc' ▸ hc) hrecords
      · exact absurd (Option.some.inj hc' ▸ hc.records) hrecords
    obtain ⟨p, hscreen, hfrom⟩ := loaded_of_call hallowed hcall hrecords
    by_cases hne : tests = s.app_view_model.records
    · -- nothing is stored
      refine iff_of_true (fun _ _ _ i t ht hchanged => ?_) fun _ _ _ hne' => absurd hne hne'
      exact absurd (hne ▸ ht) hchanged
    obtain ⟨item, f, hitem, hmodify⟩ :=
      (@call_records cJSON directory product_model s.app_view_model c hrecords).resolve_left
        fun hsame => hne (htests.trans hsame)
    rw [hmodify] at htests
    constructor
    · intro hown c' hc' hevidence _ q hq
      obtain rfl : p = q := Option.some.inj (hscreen.symm.trans hq)
      obtain ⟨i, t, ht, hchanged⟩ := exists_changed (htests ▸ hne)
      obtain ⟨q, own, hq', hitem', hid⟩ := hown c rfl hrecords i t ht (htests ▸ hchanged)
      obtain rfl : p = q := Option.some.inj (hscreen.symm.trans hq')
      exact settled_of_own h hscreen hitem hitem'
        ((id_of_modify_test_ne ht hchanged).symm.trans hid)
    · intro hsettled c' hc' hc i t ht hchanged
      have hpage : s.requested_page = p.page := by
        rcases hfrom with hevidence | ⟨hdialog, hjudged⟩
        · exact hsettled c rfl hevidence hne p hscreen
        · exact settled_of_verdict h hscreen hitem hdialog hjudged
      exact ⟨p, item, hscreen, own_of_settled h hscreen hpage hitem,
        id_of_modify_test_ne ht (htests ▸ hchanged)⟩

end

theorem inv_launched (session : Session.World) :
    Inv product_model (launched session).state :=
  ⟨rfl, shown_of_inactive rfl, fun _ hp => nomatch hp⟩

end

/-! ## Runs -/

/-- In a run, all evidence and all verdicts are stored for the own test of the page that is loaded
if and only if no evidence is stored while another page is requested. -/
theorem on_own_test_iff (cJSON : CJsonLibrary) (directory : String) (product_model : ProductModel)
    (session : Session.World) {events : List Event}
    (hevents : (program cJSON directory product_model).Along (fun c e => e.Allowed c.state)
      (launched session) events) :
    (program cJSON directory product_model).Along
        (fun c e => StoresForOwnTest cJSON directory product_model c.state e)
        (launched session) events ↔
      (program cJSON directory product_model).Along
        (fun c e => StoresWhenSettled cJSON directory product_model c.state e)
        (launched session) events := by
  refine Machine.along_iff_along (I := fun c => Inv product_model c.state) ?_ ?_
    (inv_launched session) hevents
  · exact fun c e hc he => inv_step hc he
  · exact fun c e hc he => on_own_test_step hc he

def enter : Key := ⟨LV_KEY_ENTER, some "Enter"⟩

/-- A test passes. -/
def pass : List Event :=
  [.show_test_result_dialog, .key enter { now := sampleNow } { now := sampleNow } true]

/-- A sequence is started, and five tests pass; after the fifth no page is made. -/
def fiveVerdicts : List Event :=
  [.flush_requested_page,
    .handler (.start_full_test_sequence {} { now := sampleNow } { now := sampleNow }) true,
    .flush_requested_page] ++
  (List.replicate 4 (pass ++ [.flush_requested_page])).flatten ++ pass

theorem on_own_test_iff_five :
    (program JsonText.jsonText "/sessions" .CARDPUTER_ZERO).Along (fun c e =>
      StoresForOwnTest JsonText.jsonText "/sessions" .CARDPUTER_ZERO c.state e) (launched {})
        fiveVerdicts :=
  (on_own_test_iff JsonText.jsonText "/sessions" .CARDPUTER_ZERO {} (by decide +kernel)).2
    (by decide +kernel)

/-- Enter, once more. -/
def again : Event := .key enter { now := sampleNow } { now := sampleNow } true

/-- The page of the IR fixture is loaded, and that of the Wi-Fi test is requested. -/
def afterFive : ScreenManager :=
  ((program JsonText.jsonText "/sessions" .CARDPUTER_ZERO).run (launched {}) fiveVerdicts).state

/-- The Wi-Fi test gets what the page of the IR fixture records. -/
theorem second_enter_misplaces :
    ¬ ∀ (cJSON : CJsonLibrary) (directory : String) (product_model : ProductModel)
      (session : Session.World) (events : List Event),
      (program cJSON directory product_model).Along (fun c e => e.Allowed c.state)
        (launched session) events →
      (program cJSON directory product_model).Along
        (fun c e => StoresForOwnTest cJSON directory product_model c.state e)
        (launched session) events := by
  intro hclaim
  have hallowed : (program JsonText.jsonText "/sessions" .CARDPUTER_ZERO).Along
      (fun c e => e.Allowed c.state) (launched {}) (fiveVerdicts ++ [again]) := by
    decide +kernel
  have hlast := (Machine.along_append.1 (hclaim _ _ _ _ _ hallowed)).2.1
  obtain ⟨c, hcall, hrecords⟩ : ∃ c ∈ again.call afterFive, Records c := by
    decide +kernel
  obtain ⟨t, ht, hid, hne⟩ : ∃ t ∈ afterFive.app_view_model.records[5]?, t.id = "wifi" ∧
      (step JsonText.jsonText "/sessions" .CARDPUTER_ZERO afterFive
        again).1.app_view_model.records[5]? ≠ some t := by
    decide +kernel
  obtain ⟨p, item, hp, hitem, hown⟩ := hlast c hcall hrecords 5 t ht hne
  have hpage : ∀ p ∈ afterFive.current_screen, ∀ item ∈ p.item, item.id = "ir_fixture" := by
    decide +kernel
  have heq := hid.symm.trans (hown.trans (hpage p hp item hitem))
  exact absurd heq (by decide)

end FactoryTest.App

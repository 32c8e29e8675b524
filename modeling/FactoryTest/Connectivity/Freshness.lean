import FactoryTest.Connectivity.Link

/-!
# Evidence of the link test is fresh

The model outlives the pages and keeps its last snapshot, and while a test runs it starts no other
one. The view begins an attempt with every page and every restart, and records the next result.

**The property** (`Recorded.Fresh`). The result that is recorded for an attempt is that of a test
which was started after the attempt began, with the settings of that time.

**Theorem (`fresh_iff_clear`).** That is so if and only if each attempt with evidence began with
nothing left that could be taken for it (`Attempt.Clear`): a restart while no test runs, or the
opening of the page before the first test of the program.
-/

namespace FactoryTest.Connectivity

open Session ViewModel

/-- The test was started after the attempt began, with the settings of that time. -/
def Attempt.Has (a : Attempt) (test : LinkTest) : Prop :=
  a.began < test.started ∧ test.settings = a.model.settings

/-- What was recorded for the attempt comes from such a test. -/
def Recorded.Fresh (r : Recorded) : Prop := ∃ test ∈ r.test, r.attempt.Has test

/-- There is nothing that could be taken for a result of the attempt: the page is opened and no
test has ever been started, or the test is restarted and none runs. -/
def Attempt.Clear (a : Attempt) : Prop :=
  if a.opened then a.model.refresh_task = none ∧ a.model.snapshot.internet.status = .IDLE
  else ∀ task ∈ a.model.refresh_task, task.ready.isSome = true

instance (r : Recorded) : Decidable r.Fresh := by
  unfold Recorded.Fresh Attempt.Has
  infer_instance

instance (a : Attempt) : Decidable a.Clear := by
  unfold Attempt.Clear
  infer_instance

/-! ## The model -/

/-- Every test that the model knows of has the property. -/
structure LinkConnectivityModel.Of (P : LinkTest → Prop) (m : LinkConnectivityModel) : Prop where
  task : ∀ task ∈ m.refresh_task, P task.test
  snapshot : ∀ test ∈ m.snapshot.test, P test

/-- What holds of the model between the events. -/
structure LinkConnectivityModel.Sound (m : LinkConnectivityModel) : Prop where
  running : m.snapshot.running = m.refresh_task.isSome
  busy : m.refresh_task.isSome = true → m.snapshot.internet.status ≠ .IDLE
  result : m.snapshot.running = false → m.snapshot.has_result = true → m.snapshot.test.isSome = true
  ready : ∀ task ∈ m.refresh_task, ∀ result ∈ task.ready, result.running = false ∧
    result.test = some task.test ∧ result.internet.status ≠ .IDLE

namespace LinkConnectivityModel

variable {m : LinkConnectivityModel} {P Q : LinkTest → Prop} {now : ℕ} {force : Bool}

theorem Of.mono (h : m.Of P) (hPQ : ∀ test, P test → Q test) : m.Of Q :=
  ⟨fun task htask => hPQ _ (h.task task htask), fun test htest => hPQ _ (h.snapshot test htest)⟩

/-- A snapshot replaces one that is running, or that is not when it is. -/
theorem set_snapshot_of_ne {snapshot : LinkTestSnapshot}
    (h : m.snapshot.running ≠ snapshot.running) :
    m.set_snapshot snapshot = { m with snapshot } := by
  unfold set_snapshot same_link_snapshot
  rw [decide_eq_false h, Bool.and_false]
  rfl

/-- Taking a result: there is none yet, or it is shown and nothing runs. -/
theorem take_result_cases (h : m.Sound) :
    m.take_result = m ∧ (∀ task ∈ m.refresh_task, task.ready = none) ∨
      ∃ task result, m.refresh_task = some task ∧ task.ready = some result ∧
        m.take_result = { m with refresh_task := none, snapshot := result } := by
  unfold take_result
  rcases htask : m.refresh_task with _ | ⟨test, _ | result⟩
  · exact .inl ⟨rfl, fun _ hnone => nomatch hnone⟩
  · refine .inl ⟨rfl, fun task hsome => ?_⟩
    obtain rfl : _ = task := Option.some.inj hsome
    rfl
  · refine .inr ⟨_, result, rfl, rfl, ?_⟩
    obtain ⟨hrunning, -⟩ := h.ready _ htask result rfl
    refine set_snapshot_of_ne ?_
    show m.snapshot.running ≠ result.running
    rw [h.running, htask, hrunning]
    exact Bool.noConfusion

theorem sound_take_result (h : m.Sound) : m.take_result.Sound := by
  rcases take_result_cases h with ⟨hsame, -⟩ | ⟨task, result, htask, hready, htake⟩
  · rw [hsame]
    exact h
  · obtain ⟨hrunning, htest, -⟩ := h.ready task htask result hready
    rw [htake]
    refine ⟨hrunning, fun hsome => (nomatch hsome), fun _ _ => ?_, fun _ hnone => (nomatch hnone)⟩
    show result.test.isSome = true
    rw [htest]
    rfl

theorem of_take_result (h : m.Sound) (hP : m.Of P) : m.take_result.Of P := by
  rcases take_result_cases h with ⟨hsame, -⟩ | ⟨task, result, htask, hready, htake⟩
  · rw [hsame]
    exact hP
  · obtain ⟨-, htest, -⟩ := h.ready task htask result hready
    rw [htake]
    refine ⟨fun _ hnone => (nomatch hnone), fun test hsome => ?_⟩
    obtain rfl : task.test = test := Option.some.inj (htest.symm.trans hsome)
    exact hP.task task htask

theorem settings_take_result (h : m.Sound) : m.take_result.settings = m.settings := by
  rcases take_result_cases h with ⟨hsame, -⟩ | ⟨task, result, -, -, htake⟩
  · rw [hsame]
  · rw [htake]

/-- Once a test has been started, the model is not idle again. -/
theorem status_take_result (h : m.Sound) (hstatus : m.snapshot.internet.status ≠ .IDLE) :
    m.take_result.snapshot.internet.status ≠ .IDLE := by
  rcases take_result_cases h with ⟨hsame, -⟩ | ⟨task, result, htask, hready, htake⟩
  · rw [hsame]
    exact hstatus
  · rw [htake]
    exact (h.ready task htask result hready).2.2

/-- A refresh takes a result; then it starts a test if none runs, and if it has to or none has been
started before. -/
theorem refresh_cases (h : m.Sound) (now : ℕ) (force : Bool) :
    m.refresh now force = m.take_result ∧ (m.take_result.refresh_task.isSome = true ∨
        force = false ∧ m.take_result.snapshot.internet.status ≠ .IDLE) ∨
      m.refresh now force = { m.take_result with
          refresh_task := some { test := ⟨now, m.settings⟩ }
          snapshot := m.take_result.running_snapshot } ∧
        m.take_result.refresh_task = none ∧
        (force = true ∨ m.take_result.snapshot.internet.status = .IDLE) := by
  have hsound := sound_take_result h
  have hsettings := settings_take_result h
  unfold refresh
  dsimp only
  generalize m.take_result = taken at hsound hsettings ⊢
  split_ifs with hstart
  · rw [Bool.and_eq_true_iff, Bool.or_eq_true, Option.isNone_iff_eq_none, decide_eq_true_eq]
      at hstart
    refine .inr ⟨?_, hstart.1, hstart.2⟩
    rw [hsettings]
    refine set_snapshot_of_ne ?_
    show taken.snapshot.running ≠ true
    rw [hsound.running, hstart.1]
    exact Bool.noConfusion
  · refine .inl ⟨rfl, ?_⟩
    cases htask : taken.refresh_task with
    | some task => exact .inl rfl
    | none => simpa [htask] using hstart

theorem sound_refresh (h : m.Sound) : (m.refresh now force).Sound := by
  rcases refresh_cases h now force with ⟨hsame, -⟩ | ⟨hstarted, -⟩
  · rw [hsame]
    exact sound_take_result h
  · rw [hstarted]
    refine ⟨rfl, fun _ hidle => (nomatch hidle), fun hrunning => (nomatch hrunning), ?_⟩
    intro task hsome result hresult
    obtain rfl : _ = task := Option.some.inj hsome
    cases hresult

theorem settings_refresh (h : m.Sound) : (m.refresh now force).settings = m.settings := by
  rcases refresh_cases h now force with ⟨hsame, -⟩ | ⟨hstarted, -⟩
  · rw [hsame, settings_take_result h]
  · rw [hstarted]
    exact settings_take_result h

/-- A test that was started is the only one that the model knows of. -/
theorem of_refresh (h : m.Sound) (hP : m.Of P) (hnow : P ⟨now, m.settings⟩) :
    (m.refresh now force).Of P := by
  rcases refresh_cases h now force with ⟨hsame, -⟩ | ⟨hstarted, -⟩
  · rw [hsame]
    exact of_take_result h hP
  · rw [hstarted]
    refine ⟨fun task hsome => ?_, fun _ hnone => nomatch hnone⟩
    obtain rfl : _ = task := Option.some.inj hsome
    exact hnow

theorem sound_finish (h : m.Sound) (result : LinkTestResult) : (m.finish result).Sound := by
  unfold finish
  rcases htask : m.refresh_task with _ | ⟨test, _ | ready⟩
  · exact h
  · have hsome : m.refresh_task.isSome = true := by
      rw [htask]
      rfl
    refine ⟨h.running.trans hsome, fun _ => h.busy hsome, h.result, fun task htask' => ?_⟩
    obtain rfl : _ = task := Option.some.inj htask'
    intro snapshot hsnapshot
    obtain rfl : _ = snapshot := Option.some.inj hsnapshot
    refine ⟨rfl, rfl, ?_⟩
    show (if result.internet.success = true then LinkTestStatus.SUCCESS else .FAILED) ≠ .IDLE
    split_ifs <;> exact LinkTestStatus.noConfusion
  · exact h

theorem of_finish (hP : m.Of P) (result : LinkTestResult) : (m.finish result).Of P := by
  unfold finish
  rcases htask : m.refresh_task with _ | ⟨test, _ | ready⟩
  · exact hP
  · refine ⟨fun task htask' => ?_, hP.snapshot⟩
    obtain rfl : _ = task := Option.some.inj htask'
    exact hP.task ⟨test, none⟩ htask
  · exact hP

theorem snapshot_finish (result : LinkTestResult) : (m.finish result).snapshot = m.snapshot ∧
    (m.finish result).settings = m.settings := by
  unfold finish
  split <;> exact ⟨rfl, rfl⟩

theorem sound_set_settings (h : m.Sound) (settings : LinkTestSettings) :
    (m.set_settings settings).Sound :=
  ⟨h.running, h.busy, h.result, h.ready⟩

theorem of_set_settings (hP : m.Of P) (settings : LinkTestSettings) :
    (m.set_settings settings).Of P :=
  ⟨hP.task, hP.snapshot⟩

theorem sound_empty : Sound {} :=
  ⟨rfl, fun hsome => (nomatch hsome), fun _ hresult => (nomatch hresult),
    fun _ hnone => (nomatch hnone)⟩

end LinkConnectivityModel

/-! ## Attempts -/

/-- The tests that the model knows of, during an attempt: all are its own if it began clear, and
all are older if not. -/
structure Attempt.Tied (a : Attempt) (m : LinkConnectivityModel) : Prop where
  clear : a.Clear → m.Of a.Has ∧ m.settings = a.model.settings
  unclear : ¬ a.Clear →
    m.Of (fun test => test.started < a.began) ∧ m.snapshot.internet.status ≠ .IDLE

section

variable {a : Attempt} {m : LinkConnectivityModel} {now : ℕ}

/-- No test is started within an attempt that did not begin clear. -/
theorem Attempt.Tied.refresh (h : a.Tied m) (hm : m.Sound) (hnow : a.began < now) :
    a.Tied (m.refresh now false) := by
  refine ⟨fun hclear => ?_, fun hunclear => ?_⟩
  · obtain ⟨hof, hsettings⟩ := h.clear hclear
    exact ⟨LinkConnectivityModel.of_refresh hm hof ⟨hnow, hsettings⟩,
      (LinkConnectivityModel.settings_refresh hm).trans hsettings⟩
  · obtain ⟨hof, hstatus⟩ := h.unclear hunclear
    have htaken := LinkConnectivityModel.status_take_result hm hstatus
    rcases LinkConnectivityModel.refresh_cases hm now false with
      ⟨hsame, -⟩ | ⟨-, -, hforce | hidle⟩
    · rw [hsame]
      exact ⟨LinkConnectivityModel.of_take_result hm hof, htaken⟩
    · cases hforce
    · exact absurd hidle htaken

theorem Attempt.Tied.finish (h : a.Tied m) (result : LinkTestResult) :
    a.Tied (m.finish result) := by
  obtain ⟨hsnapshot, hsettings⟩ := @LinkConnectivityModel.snapshot_finish m result
  refine ⟨fun hclear => ?_, fun hunclear => ?_⟩
  · exact ⟨LinkConnectivityModel.of_finish (h.clear hclear).1 result,
      hsettings.trans (h.clear hclear).2⟩
  · rw [hsnapshot]
    exact ⟨LinkConnectivityModel.of_finish (h.unclear hunclear).1 result, (h.unclear hunclear).2⟩

/-- An attempt begins clear iff once a result is taken none runs, and on an opened page none has
been started before. -/
theorem clear_iff (hm : m.Sound) {opened : Bool} :
    Attempt.Clear ⟨now, opened, m⟩ ↔ m.take_result.refresh_task = none ∧
      ((!opened) = true ∨ m.take_result.snapshot.internet.status = .IDLE) := by
  unfold Attempt.Clear
  rcases LinkConnectivityModel.take_result_cases hm with
    ⟨htake, hready⟩ | ⟨task, result, htask, hready, htake⟩
  · rw [htake]
    cases opened with
    | true => exact and_congr_right fun _ => (or_iff_right Bool.false_ne_true).symm
    | false =>
      refine Iff.trans ⟨fun h => ?_, fun h task htask => ?_⟩ (and_iff_left (.inl rfl)).symm
      · refine Option.eq_none_iff_forall_ne_some.2 fun task htask => ?_
        have hsome := h task htask
        rw [hready task htask] at hsome
        cases hsome
      · rw [h] at htask
        cases htask
  · rw [htake]
    have hstatus : result.internet.status ≠ .IDLE := (hm.ready task htask result hready).2.2
    cases opened with
    | true =>
      refine iff_of_false (fun h => ?_) fun h => hstatus (h.2.resolve_left Bool.false_ne_true)
      cases htask.symm.trans h.1
    | false =>
      refine iff_of_true (fun task' htask' => ?_) ⟨rfl, .inl rfl⟩
      obtain rfl : task = task' := Option.some.inj (htask.symm.trans htask')
      exact Option.isSome_iff_exists.2 ⟨result, hready⟩

/-- An attempt that begins clear starts a test at once, and no other attempt does. -/
theorem tied_begin (hm : m.Sound) (hof : m.Of fun test => test.started < now) (opened : Bool) :
    Attempt.Tied ⟨now, opened, m⟩ (m.refresh (now + 1) (!opened)) := by
  rcases LinkConnectivityModel.refresh_cases hm (now + 1) (!opened) with
    ⟨hsame, hnot⟩ | ⟨hstarted, hstart⟩
  · have hunclear : ¬ Attempt.Clear ⟨now, opened, m⟩ := by
      rw [clear_iff hm]
      rintro ⟨hnone, hwhy⟩
      rcases hnot with hsome | ⟨hforce, hstatus⟩
      · rw [hnone] at hsome
        cases hsome
      · rw [hforce] at hwhy
        exact hstatus (hwhy.resolve_left Bool.false_ne_true)
    refine ⟨fun hclear => absurd hclear hunclear, fun _ => ?_⟩
    rw [hsame]
    refine ⟨LinkConnectivityModel.of_take_result hm hof, ?_⟩
    rcases hnot with hsome | ⟨-, hstatus⟩
    · exact (LinkConnectivityModel.sound_take_result hm).busy hsome
    · exact hstatus
  · have hclear : Attempt.Clear ⟨now, opened, m⟩ := (clear_iff hm).2 hstart
    refine ⟨fun _ => ?_, fun hunclear => absurd hclear hunclear⟩
    rw [hstarted]
    refine ⟨⟨fun task hsome => ?_, fun _ hnone => nomatch hnone⟩,
      LinkConnectivityModel.settings_take_result hm⟩
    obtain rfl : _ = task := Option.some.inj hsome
    exact ⟨Nat.lt_succ_self now, rfl⟩

end

/-! ## The invariant -/

/-- What holds between the events. -/
structure State.Inv (s : State) : Prop where
  sound : s.model.Sound
  /-- No test is from the future; the clock has been past the last event. -/
  started : s.model.Of fun test => test.started ≤ s.clock + 1
  began : ∀ v ∈ s.view, v.attempt.began ≤ s.clock
  tied : ∀ v ∈ s.view, v.attempt.Tied s.model

/-- Evidence is fresh iff its attempt began clear. -/
def Recorded.Exact (r : Recorded) : Prop := r.Fresh ↔ r.attempt.Clear

section

variable {cJSON : CJsonLibrary} {product_model : ProductModel} {directory : String} {s : State}

/-- The result that is shown tells whether the attempt began clear. -/
theorem exact_of_tied {a : Attempt} {m : LinkConnectivityModel} (hm : m.Sound) (h : a.Tied m)
    (hrunning : m.snapshot.running = false) (hresult : m.snapshot.has_result = true)
    (evidence : TestEvidence) : Recorded.Exact ⟨evidence, a, m.snapshot.test⟩ := by
  obtain ⟨test, htest⟩ := Option.isSome_iff_exists.1 (hm.result hrunning hresult)
  unfold Recorded.Exact
  constructor
  · rintro ⟨test', htest', hbegan, -⟩
    by_contra hunclear
    have hold := (h.unclear hunclear).1.snapshot test' htest'
    exact absurd hbegan (Nat.lt_asymm hold)
  · intro hclear
    exact ⟨test, htest, (h.clear hclear).1.snapshot test htest⟩

theorem record_evidence_spec (h : s.Inv) {v : LinkConnectivityView} (hv : s.view = some v)
    (b : Answers) :
    (s.record_evidence cJSON product_model v b).1.Inv ∧
      ∀ r ∈ (s.record_evidence cJSON product_model v b).2, r.Exact := by
  unfold State.record_evidence
  dsimp only
  split_ifs with hrecorded hnot hok
  · exact ⟨h, fun _ hr => nomatch hr⟩
  · exact ⟨h, fun _ hr => nomatch hr⟩
  all_goals
    have hinv : ∀ app_view_model recorded, State.Inv { s with
        app_view_model := app_view_model
        view := some { v with evidence_recorded := recorded } } := by
      refine fun _ _ => ⟨h.sound, h.started, fun w hw => ?_, fun w hw => ?_⟩
      · obtain rfl : _ = w := Option.some.inj hw
        exact h.began v hv
      · obtain rfl : _ = w := Option.some.inj hw
        exact h.tied v hv
    refine ⟨hinv _ _, fun r hr => ?_⟩
  · obtain rfl := List.mem_singleton.1 hr
    rw [Bool.or_eq_true, not_or, Bool.not_eq_true, Bool.not_eq_true', Bool.not_eq_false] at hnot
    exact exact_of_tied h.sound (h.tied v hv) hnot.1 hnot.2 _
  · cases hr

/-- A refresh, where the attempt is tied to what it makes of the model. -/
theorem refresh_spec (hsound : s.model.Sound)
    (hstarted : s.model.Of fun test => test.started ≤ s.clock + 1)
    (hview : ∀ v ∈ s.view, v.attempt.began ≤ s.clock ∧
      v.attempt.Tied (s.model.refresh (s.clock + 1) false)) (b : Answers) :
    (s.refresh cJSON product_model b).1.Inv ∧
      ∀ r ∈ (s.refresh cJSON product_model b).2, r.Exact := by
  unfold State.refresh
  cases hv : s.view with
  | none =>
    refine ⟨⟨hsound, hstarted, fun v hsome => ?_, fun v hsome => ?_⟩, fun _ hr => nomatch hr⟩
    · cases hv.symm.trans hsome
    · cases hv.symm.trans hsome
  | some v =>
    have hinv : State.Inv
        { s with model := s.model.refresh (s.clock + 1) false, view := some v } := by
      refine ⟨LinkConnectivityModel.sound_refresh hsound,
        LinkConnectivityModel.of_refresh hsound hstarted le_rfl, fun w hw => ?_, fun w hw => ?_⟩
      · obtain rfl : _ = w := Option.some.inj hw
        exact (hview v hv).1
      · obtain rfl : _ = w := Option.some.inj hw
        exact (hview v hv).2
    dsimp only
    split_ifs
    · exact ⟨hinv, fun _ hr => nomatch hr⟩
    · exact record_evidence_spec hinv rfl b

/-- An attempt begins, and the model is refreshed with force. -/
theorem restart_spec (hsound : s.model.Sound)
    (hstarted : s.model.Of fun test => test.started < s.clock) (a : Answers) :
    (s.restart cJSON product_model a).Inv := by
  have hold : s.model.Of fun test => test.started ≤ s.clock + 1 :=
    hstarted.mono fun test h => h.le.trans (Nat.le_succ _)
  unfold State.restart
  cases hv : s.view with
  | none =>
    refine ⟨hsound, hold, fun v hsome => ?_, fun v hsome => ?_⟩
    · cases hv.symm.trans hsome
    · cases hv.symm.trans hsome
  | some v =>
    refine ⟨LinkConnectivityModel.sound_refresh hsound,
      LinkConnectivityModel.of_refresh hsound hold le_rfl, fun w hw => ?_, fun w hw => ?_⟩
    · obtain rfl : _ = w := Option.some.inj hw
      exact le_rfl
    · obtain rfl : _ = w := Option.some.inj hw
      exact tied_begin hsound hstarted false

/-- The page is opened: an attempt begins, and the model is refreshed. -/
theorem build_spec (hsound : s.model.Sound)
    (hstarted : s.model.Of fun test => test.started < s.clock) (a b : Answers) :
    (s.build cJSON product_model a b).1.Inv ∧
      ∀ r ∈ (s.build cJSON product_model a b).2, r.Exact := by
  refine refresh_spec (s := s.begin_attempt cJSON product_model ⟨⟨s.clock, true, s.model⟩, false,
    false⟩ true a) hsound (hstarted.mono fun test h => h.le.trans (Nat.le_succ _)) ?_ b
  intro w hw
  obtain rfl : _ = w := Option.some.inj hw
  exact ⟨le_rfl, tied_begin hsound hstarted true⟩

/-- Every event keeps the invariant, and what it records is fresh iff its attempt began clear. -/
theorem step_spec (h : s.Inv) (e : Event) :
    (step cJSON product_model directory s e).1.Inv ∧
      ∀ r ∈ (step cJSON product_model directory s e).2, r.Exact := by
  have hbefore : s.model.Of fun test => test.started < s.clock + 2 :=
    h.started.mono fun test => Nat.lt_succ_of_le
  have hbegan : ∀ v ∈ s.view, v.attempt.began ≤ s.clock + 2 := fun v hv =>
    (h.began v hv).trans (Nat.le_add_right _ 2)
  have hstarted : s.model.Of fun test => test.started ≤ s.clock + 2 + 1 :=
    hbefore.mono fun test h => h.le.trans (Nat.le_succ _)
  let s' : State := { s with clock := s.clock + 2 }
  cases e with
  | app c => exact ⟨⟨h.sound, hstarted, hbegan, h.tied⟩, fun _ hr => nomatch hr⟩
  | build a b => exact build_spec (s := s') h.sound hbefore a b
  | close =>
    exact ⟨⟨h.sound, hstarted, fun _ hnone => (nomatch hnone), fun _ hnone => (nomatch hnone)⟩,
      fun _ hr => nomatch hr⟩
  | refresh_timer b =>
    refine refresh_spec (s := s') h.sound hstarted (fun v hv => ⟨hbegan v hv, ?_⟩) b
    exact (h.tied v hv).refresh h.sound (Nat.lt_succ_of_le (hbegan v hv))
  | restart a => exact ⟨restart_spec (s := s') h.sound hbefore a, fun _ hr => nomatch hr⟩
  | show_config_dialog =>
    refine ⟨⟨h.sound, hstarted, fun w hw => ?_, fun w hw => ?_⟩, fun _ hr => nomatch hr⟩
    · obtain ⟨v, hv, rfl⟩ := Option.map_eq_some_iff.1 hw
      exact hbegan v hv
    · obtain ⟨v, hv, rfl⟩ := Option.map_eq_some_iff.1 hw
      exact h.tied v hv
  | hide_config_dialog =>
    refine ⟨⟨h.sound, hstarted, fun w hw => ?_, fun w hw => ?_⟩, fun _ hr => nomatch hr⟩
    · obtain ⟨v, hv, rfl⟩ := Option.map_eq_some_iff.1 hw
      exact hbegan v hv
    · obtain ⟨v, hv, rfl⟩ := Option.map_eq_some_iff.1 hw
      exact h.tied v hv
  | apply_config_dialog iperf_host a =>
    dsimp only [step]
    split_ifs
    · refine ⟨restart_spec ?_ ?_ a, fun _ hr => nomatch hr⟩
      · exact LinkConnectivityModel.sound_set_settings h.sound _
      · exact LinkConnectivityModel.of_set_settings hbefore _
    · exact ⟨⟨h.sound, hstarted, hbegan, h.tied⟩, fun _ hr => nomatch hr⟩
  | finish result =>
    refine ⟨⟨LinkConnectivityModel.sound_finish h.sound result,
      LinkConnectivityModel.of_finish hstarted result, hbegan, fun v hv => ?_⟩,
      fun _ hr => nomatch hr⟩
    exact (h.tied v hv).finish result

theorem inv_launched (app_view_model : AppViewModel) (settings : LinkTestSettings) :
    (launched app_view_model settings).state.Inv :=
  ⟨LinkConnectivityModel.sound_set_settings LinkConnectivityModel.sound_empty settings,
    LinkConnectivityModel.of_set_settings
      ⟨fun _ hnone => (nomatch hnone), fun _ hnone => (nomatch hnone)⟩ settings,
    fun _ hnone => (nomatch hnone), fun _ hnone => (nomatch hnone)⟩

end

/-! ## Runs -/

/-- Through whatever happens: all evidence that was recorded is fresh if and only if each attempt
that it was recorded for began clear. -/
theorem fresh_iff_clear (cJSON : CJsonLibrary) (product_model : ProductModel) (directory : String)
    (app_view_model : AppViewModel) (settings : LinkTestSettings) (events : List Event) :
    let recorded :=
      ((link cJSON product_model directory).run (launched app_view_model settings) events).history
    (∀ r ∈ recorded, r.Fresh) ↔ ∀ r ∈ recorded, r.attempt.Clear := by
  have hexact : ∀ r ∈ ((link cJSON product_model directory).run
      (launched app_view_model settings) events).history, r.Exact := by
    refine (Machine.run_invariant (M := link cJSON product_model directory)
      (I := fun c => c.state.Inv ∧ ∀ r ∈ c.history, r.Exact) (fun c e hc => ?_)
      ⟨inv_launched app_view_model settings, fun _ hr => nomatch hr⟩ events).2
    obtain ⟨hinv, hrecorded⟩ := @step_spec cJSON product_model directory c.state hc.1 e
    refine ⟨hinv, fun r hr => ?_⟩
    rcases List.mem_append.1 hr with hr | hr
    · exact hc.2 r hr
    · exact hrecorded r hr
  exact forall₂_congr hexact

/-- The link is tested outside a sequence; and then a sequence comes to the link test. -/
def secondOpening : List Event :=
  let a : Answers := { now := sampleNow }
  [.build a a, .finish { internet := { success := true, latency_ms := .ofNat 12 } },
    .refresh_timer a, .close, .app (.start_full_test_sequence {} a a)] ++
  List.replicate 8 (.app (.complete_current_test .PASS a a)) ++ [.build a a]

/-- The second attempt gets the result of the first one. -/
theorem second_opening_stale :
    ¬ ∀ (cJSON : CJsonLibrary) (product_model : ProductModel) (directory : String)
      (app_view_model : AppViewModel) (settings : LinkTestSettings) (events : List Event),
      ∀ r ∈ ((link cJSON product_model directory).run (launched app_view_model settings)
        events).history, r.Fresh := by
  intro hclaim
  obtain ⟨r, hr, hstale⟩ : ∃ r ∈ ((link JsonText.jsonText .CARDPUTER_ZERO "/sessions").run
      (launched {} {}) secondOpening).history, ¬ r.Fresh := by
    decide +kernel
  exact hstale (hclaim _ _ _ _ _ _ r hr)

end FactoryTest.Connectivity

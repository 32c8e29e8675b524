import FactoryTest.View.LcdPage

/-!
# Brightness of the LCD test

**What is kept** (`Lit`, `Visual`). What is written to the backlight stays between 1 and 100
percent and goes on in steps of two percent or less. While no timer runs the backlight has the
brightness that was chosen. The colour that is shown is the one of the model.

**Theorem (`lcd_brightness`).** This holds in every run, whatever is read of the backlight and
whether or not equal values are notified. Left alone, the page brings the backlight to the
brightness that was chosen last, in fifty steps at most.
-/

namespace FactoryTest.View

variable {p q : LcdTestPage} {notifies : Bool}

/-- The brightness that is chosen, wanted and there. -/
structure Lit (p : LcdTestPage) : Prop where
  percent : 1 ≤ p.model.brightness_percent ∧ p.model.brightness_percent ≤ 100
  subject : p.brightness_percent_subject = p.model.brightness_percent
  requested : p.requested_brightness_percent = p.model.brightness_percent
  target : 1 ≤ p.target_brightness_percent ∧ p.target_brightness_percent ≤ 100
  hardware : 0 ≤ p.hardware_brightness_percent ∧ p.hardware_brightness_percent ≤ 100
  committing : p.brightness_commit_timer = true → p.brightness_smooth_timer = false
  committed : p.brightness_commit_timer = false →
    p.target_brightness_percent = p.requested_brightness_percent
  arrived : p.brightness_commit_timer = false → p.brightness_smooth_timer = false →
    p.hardware_brightness_percent = p.target_brightness_percent
  moving : p.brightness_smooth_timer = true → p.hardware_brightness_loaded = true ∧
    p.hardware_brightness_percent ≠ p.target_brightness_percent
  unknown : p.hardware_brightness_loaded = false → p.writes = []
  written : ∀ percent ∈ p.writes, 1 ≤ percent ∧ percent ≤ 100
  last : ∀ percent ∈ p.writes.head?, percent = p.hardware_brightness_percent
  smoothly : p.writes.IsChain fun later earlier => |later - earlier| ≤ K_BRIGHTNESS_SMOOTH_STEP

/-- What the brightness is about, but for the model. -/
def light (p : LcdTestPage) :=
  (p.brightness_percent_subject, p.requested_brightness_percent, p.target_brightness_percent,
    p.hardware_brightness_percent, p.brightness_commit_timer, p.brightness_smooth_timer,
    p.hardware_brightness_loaded, p.writes)

theorem Lit.congr (h : Lit p) (hlight : light q = light p)
    (hmodel : q.model.brightness_percent = p.model.brightness_percent) : Lit q := by
  simp only [light, Prod.mk.injEq] at hlight
  obtain ⟨hsubject, hrequested, htarget, hhardware, hcommit, hsmooth, hloaded, hwrites⟩ := hlight
  constructor
  · rw [hmodel]
    exact h.percent
  · rw [hsubject, hmodel]
    exact h.subject
  · rw [hrequested, hmodel]
    exact h.requested
  · rw [htarget]
    exact h.target
  · rw [hhardware]
    exact h.hardware
  · rw [hcommit, hsmooth]
    exact h.committing
  · rw [hcommit, htarget, hrequested]
    exact h.committed
  · rw [hcommit, hsmooth, hhardware, htarget]
    exact h.arrived
  · rw [hsmooth, hloaded, hhardware, htarget]
    exact h.moving
  · rw [hloaded, hwrites]
    exact h.unknown
  · rw [hwrites]
    exact h.written
  · rw [hwrites, hhardware]
    exact h.last
  · rw [hwrites]
    exact h.smoothly

theorem clamp_of_mem {value low high : ℤ} (hlow : low ≤ value) (hhigh : value ≤ high) :
    clamp value low high = value := by
  unfold clamp
  rw [if_neg (by omega), if_neg (by omega)]

theorem clamp_mem {low high : ℤ} (h : low ≤ high) (value : ℤ) :
    low ≤ clamp value low high ∧ clamp value low high ≤ high := by
  unfold clamp
  split_ifs <;> omega

/-! ## Publishing -/

theorem set_color_index_subject_light (notifies : Bool) (p : LcdTestPage) (value : ℤ) :
    light (p.set_color_index_subject notifies value) = light p ∧
      (p.set_color_index_subject notifies value).model = p.model := by
  unfold LcdTestPage.set_color_index_subject LcdTestPage.apply_color_index_
  dsimp only
  split_ifs <;> exact ⟨rfl, rfl⟩

theorem set_brightness_test_active_subject_light (notifies : Bool) (p : LcdTestPage)
    (value : Bool) : light (p.set_brightness_test_active_subject notifies value) = light p ∧
      (p.set_brightness_test_active_subject notifies value).model = p.model := by
  unfold LcdTestPage.set_brightness_test_active_subject LcdTestPage.apply_brightness_active_
  dsimp only
  split_ifs <;> exact ⟨rfl, rfl⟩

/-- The brightness of the model has changed, which it does only while it is tested. -/
theorem set_brightness_percent_subject_lit (h : Lit p) (hlight : light q = light p)
    (hpercent : 1 ≤ q.model.brightness_percent ∧ q.model.brightness_percent ≤ 100)
    (hactive : q.model.brightness_percent = p.model.brightness_percent ∨
      q.model.brightness_test_active = true) :
    Lit (q.set_brightness_percent_subject notifies q.model.brightness_percent) := by
  have hfields := hlight
  simp only [light, Prod.mk.injEq] at hfields
  obtain ⟨hsubject, hrequested, -⟩ := hfields
  have hclamp : clamp q.model.brightness_percent K_MIN_BRIGHTNESS_PERCENT 100 =
      q.model.brightness_percent := clamp_of_mem hpercent.1 hpercent.2
  unfold LcdTestPage.set_brightness_percent_subject
  split_ifs with hnotified
  · unfold LcdTestPage.apply_brightness_percent_
    dsimp only
    rw [hclamp]
    split_ifs with htested
    · -- What is left of the last choice is given up.
      have hold : Lit { q with model := p.model } := h.congr hlight rfl
      exact ⟨hpercent, rfl, rfl, hold.target, hold.hardware, fun _ => rfl, nofun, nofun, nofun,
        hold.unknown, hold.written, hold.last, hold.smoothly⟩
    · have hsame := hactive.resolve_right htested
      refine h.congr ?_ ?_
      · rw [← hlight]
        unfold light
        rw [hsubject, hrequested, h.subject, h.requested, ← hsame]
      · exact hsame
  · simp only [Bool.or_eq_true, decide_eq_true_eq, not_or, not_not] at hnotified
    apply h.congr hlight
    rw [← hnotified.2, hsubject, h.subject]

theorem publish_all_lit (h : Lit p) {model : LcdTestModel}
    (hpercent : 1 ≤ model.brightness_percent ∧ model.brightness_percent ≤ 100)
    (hactive : model.brightness_percent = p.model.brightness_percent ∨
      model.brightness_test_active = true) :
    Lit (LcdTestPage.publish_all_ notifies { p with model }) := by
  unfold LcdTestPage.publish_all_
  dsimp only
  obtain ⟨hlight, hmodel⟩ :=
    set_color_index_subject_light notifies { p with model } model.color_index
  generalize LcdTestPage.set_color_index_subject notifies { p with model } model.color_index = u
    at hlight hmodel ⊢
  have hset : Lit (u.set_brightness_percent_subject notifies u.model.brightness_percent) := by
    apply set_brightness_percent_subject_lit h hlight
    · rw [hmodel]
      exact hpercent
    · rw [hmodel]
      exact hactive
  generalize u.set_brightness_percent_subject notifies u.model.brightness_percent = lit at hset ⊢
  obtain ⟨hlight', hmodel'⟩ :=
    set_brightness_test_active_subject_light notifies lit lit.model.brightness_test_active
  exact hset.congr hlight' (by rw [hmodel'])

/-! ## Moving the backlight -/

/-- The transition begins where the backlight is. -/
theorem begins_lit (h : Lit p) {hardware : ℤ} (hmem : 0 ≤ hardware ∧ hardware ≤ 100)
    (hlast : ∀ percent ∈ p.writes.head?, percent = hardware) :
    Lit (if hardware = p.requested_brightness_percent then
      { p with
        brightness_commit_timer := false
        brightness_smooth_timer := false
        target_brightness_percent := p.requested_brightness_percent
        hardware_brightness_percent := hardware
        hardware_brightness_loaded := true
        writes := p.requested_brightness_percent :: p.writes }
    else
      { p with
        brightness_commit_timer := false
        brightness_smooth_timer := true
        target_brightness_percent := p.requested_brightness_percent
        hardware_brightness_percent := hardware
        hardware_brightness_loaded := true }) := by
  have hrequested : 1 ≤ p.requested_brightness_percent ∧ p.requested_brightness_percent ≤ 100 := by
    rw [h.requested]
    exact h.percent
  split_ifs with hequal
  · refine ⟨h.percent, h.subject, h.requested, hrequested, hmem, nofun, fun _ => rfl,
      fun _ _ => hequal, nofun, nofun, ?_, ?_, ?_⟩
    · rintro percent (_ | ⟨_, hpercent⟩)
      · exact hrequested
      · exact h.written percent hpercent
    · rintro percent ⟨⟩
      exact hequal.symm
    · refine h.smoothly.cons fun percent hpercent => ?_
      rw [hlast percent hpercent, hequal]
      simp [K_BRIGHTNESS_SMOOTH_STEP]
  · exact ⟨h.percent, h.subject, h.requested, hrequested, hmem, nofun, fun _ => rfl, nofun,
      fun _ => ⟨rfl, hequal⟩, nofun, h.written, hlast, h.smoothly⟩

theorem begin_brightness_transition_lit (h : Lit p) (hcommit : p.brightness_commit_timer = true)
    (read : Option ℤ) :
    Lit (LcdTestPage.begin_brightness_transition_ { p with brightness_commit_timer := false }
      read) := by
  have hsmooth := h.committing hcommit
  have hclamp : clamp p.requested_brightness_percent K_MIN_BRIGHTNESS_PERCENT 100 =
      p.requested_brightness_percent := by
    rw [h.requested]
    exact clamp_of_mem h.percent.1 h.percent.2
  unfold LcdTestPage.begin_brightness_transition_
  dsimp only
  rw [hclamp]
  cases hloaded : p.hardware_brightness_loaded with
  | true =>
    have hbegins := begins_lit h h.hardware h.last
    simpa [hloaded, hsmooth] using hbegins
  | false =>
    have hnone : ∀ hardware, ∀ percent ∈ p.writes.head?, percent = hardware := by
      rw [h.unknown hloaded]
      exact fun _ _ hpercent => nomatch hpercent
    cases read with
    | some current =>
      have hbegins := begins_lit h (clamp_mem (by decide : (0 : ℤ) ≤ 100) current) (hnone _)
      simpa [hsmooth] using hbegins
    | none =>
      have hrequested := h.percent
      rw [← h.requested] at hrequested
      have hbegins := begins_lit h ⟨by omega, hrequested.2⟩ (hnone p.requested_brightness_percent)
      simpa [hsmooth] using hbegins

/-- How far the backlight is from where it goes. -/
def distance (p : LcdTestPage) : ℤ :=
  |p.target_brightness_percent - p.hardware_brightness_percent|

/-- Where a step goes: towards the target, and not beyond it. -/
theorem stepped {hardware target : ℤ} (hhardware : 0 ≤ hardware ∧ hardware ≤ 100)
    (htarget : 1 ≤ target ∧ target ≤ 100) (hne : hardware ≠ target) :
    ∃ next, clamp (hardware + min |target - hardware| K_BRIGHTNESS_SMOOTH_STEP *
        if 0 < target - hardware then 1 else -1) K_MIN_BRIGHTNESS_PERCENT 100 = next ∧
      1 ≤ next ∧ next ≤ 100 ∧ |next - hardware| ≤ K_BRIGHTNESS_SMOOTH_STEP ∧
      |target - next| ≤ max 0 (|target - hardware| - K_BRIGHTNESS_SMOOTH_STEP) := by
  unfold K_BRIGHTNESS_SMOOTH_STEP K_MIN_BRIGHTNESS_PERCENT
  rcases lt_or_gt_of_ne hne with hless | hgreater
  · rw [abs_of_pos (by omega : 0 < target - hardware), if_pos (by omega), Int.mul_one,
      clamp_of_mem (by omega) (by omega)]
    refine ⟨_, rfl, by omega, by omega, ?_, ?_⟩
    · rw [abs_of_nonneg (by omega)]
      omega
    · rw [abs_of_nonneg (by omega)]
      omega
  · rw [abs_of_neg (by omega : target - hardware < 0), if_neg (by omega), Int.mul_neg, Int.mul_one,
      clamp_of_mem (by omega) (by omega)]
    refine ⟨_, rfl, by omega, by omega, ?_, ?_⟩
    · rw [abs_of_nonpos (by omega)]
      omega
    · rw [abs_of_nonpos (by omega)]
      omega

/-- A step of the transition is two percent, or what is left. -/
theorem step_brightness_transition_spec (h : Lit p) (hsmooth : p.brightness_smooth_timer = true) :
    Lit p.step_brightness_transition_ ∧
      p.step_brightness_transition_.brightness_commit_timer = p.brightness_commit_timer ∧
      p.step_brightness_transition_.requested_brightness_percent =
        p.requested_brightness_percent ∧
      p.step_brightness_transition_.writes ≠ [] ∧
      distance p.step_brightness_transition_ ≤
        max 0 (distance p - K_BRIGHTNESS_SMOOTH_STEP) := by
  obtain ⟨hloaded, hne⟩ := h.moving hsmooth
  have hcommit : p.brightness_commit_timer = false := by
    cases hcommit : p.brightness_commit_timer with
    | false => rfl
    | true => exact absurd (hsmooth.symm.trans (h.committing hcommit)) (by decide)
  obtain ⟨next, hnext, hlow, hhigh, hsmall, hcloser⟩ := stepped h.hardware h.target hne
  unfold LcdTestPage.step_brightness_transition_
  dsimp only
  rw [if_neg (fun hzero => hne (by omega)), hnext, hsmooth, Bool.true_and]
  have hpositive : 0 ≤ next := by omega
  refine ⟨⟨h.percent, h.subject, h.requested, h.target, ⟨hpositive, hhigh⟩, ?_, h.committed, ?_,
    ?_, ?_, ?_, ?_, ?_⟩, rfl, rfl, List.cons_ne_nil _ _, hcloser⟩
  · intro hcommitting
    exact absurd (hcommit.symm.trans hcommitting) (by decide)
  · intro _ harrived
    simpa using harrived
  · intro hmoving
    exact ⟨hloaded, by simpa using hmoving⟩
  · intro hunknown
    exact absurd (hloaded.symm.trans hunknown) (by decide)
  · rintro percent (_ | ⟨_, hpercent⟩)
    · exact ⟨hlow, hhigh⟩
    · exact h.written percent hpercent
  · rintro percent ⟨⟩
    rfl
  · refine h.smoothly.cons fun percent hpercent => ?_
    rw [h.last percent hpercent]
    exact hsmall

/-! ## Runs -/

theorem LcdTestModel.percent_range {m : LcdTestModel}
    (h : 1 ≤ m.brightness_percent ∧ m.brightness_percent ≤ 100) :
    (1 ≤ m.increase_brightness.brightness_percent ∧
      m.increase_brightness.brightness_percent ≤ 100) ∧
    1 ≤ m.decrease_brightness.brightness_percent ∧
      m.decrease_brightness.brightness_percent ≤ 100 := by
  unfold LcdTestModel.increase_brightness LcdTestModel.decrease_brightness
  unfold K_BRIGHTNESS_STEP_PERCENT K_MIN_BRIGHTNESS_PERCENT
  split_ifs
  · exact ⟨h, h⟩
  · dsimp only
    omega

/-- The brightness of the model changes only while it is tested. -/
theorem LcdTestModel.percent_of_inactive {m : LcdTestModel}
    (h : m.brightness_test_active = false) :
    m.increase_brightness = m ∧ m.decrease_brightness = m := by
  unfold LcdTestModel.increase_brightness LcdTestModel.decrease_brightness
  simp [h]

theorem advance_color_index_percent (m : LcdTestModel) :
    m.advance_color_index.brightness_percent = m.brightness_percent := by
  unfold LcdTestModel.advance_color_index
  split_ifs <;> rfl

theorem publish_same_lit (h : Lit p) {model : LcdTestModel}
    (hmodel : model.brightness_percent = p.model.brightness_percent) :
    Lit (LcdTestPage.publish_all_ notifies { p with model }) := by
  apply publish_all_lit h _ (.inl hmodel)
  rw [hmodel]
  exact h.percent

theorem show_tile_lit (h : Lit p) (index : LcdTile) : Lit (p.show_tile_ notifies index) := by
  unfold LcdTestPage.show_tile_
  split_ifs
  · exact publish_same_lit h rfl
  · exact h.congr rfl rfl

theorem step_lit (h : Lit p) (event : LcdEvent) : Lit (LcdTestPage.step notifies p event) := by
  cases event with
  | enter =>
    unfold LcdTestPage.step LcdTestPage.advance_color_step_
    dsimp only
    split_ifs
    · exact h
    · have hstarted : Lit { p with visual_test_started := p.visual_test_started + 1 } :=
        h.congr rfl rfl
      exact publish_same_lit hstarted (advance_color_index_percent _)
    · exact publish_same_lit h (advance_color_index_percent _)
  | tab =>
    unfold LcdTestPage.step LcdTestPage.switch_to_next_tile_
    dsimp only
    split_ifs
    · exact show_tile_lit h _
    · exact show_tile_lit h _
    · exact show_tile_lit h _
  | increase =>
    unfold LcdTestPage.step
    dsimp only
    split_ifs
    · cases hactive : p.model.brightness_test_active with
      | false => exact publish_same_lit h (by rw [(LcdTestModel.percent_of_inactive hactive).1])
      | true =>
        apply publish_all_lit h (LcdTestModel.percent_range h.percent).1 (.inr _)
        simp [LcdTestModel.increase_brightness, hactive]
    · exact h
  | decrease =>
    unfold LcdTestPage.step
    dsimp only
    split_ifs
    · cases hactive : p.model.brightness_test_active with
      | false => exact publish_same_lit h (by rw [(LcdTestModel.percent_of_inactive hactive).2])
      | true =>
        apply publish_all_lit h (LcdTestModel.percent_range h.percent).2 (.inr _)
        simp [LcdTestModel.decrease_brightness, hactive]
    · exact h
  | tile_scroll_end index => exact h.congr rfl rfl
  | brightness_commit read =>
    unfold LcdTestPage.step
    dsimp only
    split_ifs with hcommit
    · exact begin_brightness_transition_lit h hcommit read
    · exact h
  | brightness_smooth =>
    unfold LcdTestPage.step
    dsimp only
    split_ifs with hsmooth
    · exact (step_brightness_transition_spec h hsmooth).1
    · exact h

theorem run_cons (notifies : Bool) (p : LcdTestPage) (event : LcdEvent)
    (events : List LcdEvent) : LcdTestPage.run notifies p (event :: events) =
      LcdTestPage.run notifies (LcdTestPage.step notifies p event) events := rfl

theorem run_lit (h : Lit p) (events : List LcdEvent) : Lit (LcdTestPage.run notifies p events) := by
  induction events generalizing p with
  | nil => exact h
  | cons event events ih => exact ih (step_lit h event)

theorem build_lit (read : Option ℤ) : Lit (LcdTestPage.build read) := by
  cases read with
  | none =>
    exact ⟨by decide, rfl, rfl, by decide, by decide, nofun, fun _ => rfl, fun _ _ => rfl, nofun,
      fun _ => rfl, nofun, nofun, .nil⟩
  | some current =>
    unfold LcdTestPage.build LcdTestPage.apply_brightness_percent_
      LcdTestModel.set_brightness_percent
    dsimp only
    obtain ⟨hlow, hhigh⟩ := clamp_mem (by decide : K_MIN_BRIGHTNESS_PERCENT ≤ 100)
      (clamp current 0 100)
    generalize clamp (clamp current 0 100) K_MIN_BRIGHTNESS_PERCENT 100 = percent at hlow hhigh ⊢
    rw [clamp_of_mem hlow hhigh, if_neg Bool.false_ne_true]
    have hpositive : 0 ≤ percent := Int.le_trans (by decide) hlow
    exact ⟨⟨hlow, hhigh⟩, rfl, rfl, ⟨hlow, hhigh⟩, ⟨hpositive, hhigh⟩, nofun, fun _ => rfl,
      fun _ _ => rfl, nofun, nofun, nofun, nofun, .nil⟩

/-! ## Left alone -/

/-- The page is at rest with what was requested. -/
structure Rests (requested : ℤ) (p : LcdTestPage) : Prop where
  hardware : p.hardware_brightness_percent = requested
  commit : p.brightness_commit_timer = false
  smooth : p.brightness_smooth_timer = false

theorem distance_nonneg (p : LcdTestPage) : 0 ≤ distance p := abs_nonneg _

theorem distance_le (h : Lit p) : distance p ≤ 100 := by
  obtain ⟨hlow, hhigh⟩ := h.hardware
  obtain ⟨hlow', hhigh'⟩ := h.target
  unfold distance
  apply abs_le.2
  omega

/-- By induction over the steps that are left. -/
theorem smooth_run (notifies : Bool) (n : ℕ) (h : Lit p)
    (hcommit : p.brightness_commit_timer = false) (hdistance : distance p ≤ 2 * n) :
    Rests p.requested_brightness_percent
        (LcdTestPage.run notifies p (List.replicate n .brightness_smooth)) ∧
      (p.brightness_smooth_timer = true ∨ p.writes ≠ [] →
        (LcdTestPage.run notifies p (List.replicate n .brightness_smooth)).writes ≠ []) := by
  induction n generalizing p with
  | zero =>
    have hzero : distance p = 0 := Int.le_antisymm (by simpa using hdistance) (distance_nonneg p)
    have hequal : p.target_brightness_percent = p.hardware_brightness_percent :=
      sub_eq_zero.1 (abs_eq_zero.1 hzero)
    have hsmooth : p.brightness_smooth_timer = false := by
      cases hsmooth : p.brightness_smooth_timer with
      | false => rfl
      | true => exact absurd hequal.symm (h.moving hsmooth).2
    refine ⟨⟨hequal.symm.trans (h.committed hcommit), hcommit, hsmooth⟩, ?_⟩
    rintro (hmoving | hwrites)
    · exact absurd (hsmooth.symm.trans hmoving) (by decide)
    · exact hwrites
  | succ n ih =>
    rw [List.replicate_succ, run_cons]
    unfold LcdTestPage.step
    dsimp only
    cases hsmooth : p.brightness_smooth_timer with
    | true =>
      obtain ⟨hlit, hsame, hrequested, hwrites, hcloser⟩ :=
        step_brightness_transition_spec h hsmooth
      rw [if_pos rfl, ← hrequested]
      unfold K_BRIGHTNESS_SMOOTH_STEP at hcloser
      obtain ⟨hrests, hwritten⟩ := ih hlit (hsame.trans hcommit) (by omega)
      exact ⟨hrests, fun _ => hwritten (.inr hwrites)⟩
    | false =>
      rw [if_neg Bool.false_ne_true]
      have hzero : distance p = 0 := by
        unfold distance
        rw [h.arrived hcommit hsmooth, sub_self, abs_zero]
      obtain ⟨hrests, hwritten⟩ := ih h hcommit (by omega)
      exact ⟨hrests, fun hor => hwritten (.inr (hor.resolve_left Bool.false_ne_true))⟩

theorem begin_brightness_transition_starts (p : LcdTestPage) (read : Option ℤ) :
    (p.begin_brightness_transition_ read).brightness_commit_timer = p.brightness_commit_timer ∧
      (p.begin_brightness_transition_ read).requested_brightness_percent =
        p.requested_brightness_percent ∧
      ((p.begin_brightness_transition_ read).brightness_smooth_timer = true ∨
        (p.begin_brightness_transition_ read).writes ≠ []) := by
  unfold LcdTestPage.begin_brightness_transition_
  dsimp only
  split_ifs
  · exact ⟨rfl, rfl, .inr (List.cons_ne_nil _ _)⟩
  · exact ⟨rfl, rfl, .inl rfl⟩
  · exact ⟨rfl, rfl, .inr (List.cons_ne_nil _ _)⟩
  · exact ⟨rfl, rfl, .inl rfl⟩

/-- The timers fire, and nothing else happens. -/
theorem settles (h : Lit p) (read : Option ℤ) :
    let q := LcdTestPage.run notifies p
      (.brightness_commit read :: List.replicate 50 .brightness_smooth)
    Rests p.model.brightness_percent q ∧
      (p.brightness_commit_timer = true ∨ p.brightness_smooth_timer = true →
        q.writes.head? = some p.model.brightness_percent) := by
  intro q
  have hlit : Lit q := run_lit h _
  have hall : Rests p.model.brightness_percent q ∧
      (p.brightness_commit_timer = true ∨ p.brightness_smooth_timer = true → q.writes ≠ []) := by
    rw [← h.requested]
    have hq : q = LcdTestPage.run notifies
        (LcdTestPage.step notifies p (.brightness_commit read))
        (List.replicate 50 .brightness_smooth) := run_cons ..
    unfold LcdTestPage.step at hq
    dsimp only at hq
    cases hcommit : p.brightness_commit_timer with
    | true =>
      rw [hcommit, if_pos rfl] at hq
      have hbegun := begin_brightness_transition_lit h hcommit read
      obtain ⟨hsame, hrequested, hstarts⟩ := begin_brightness_transition_starts
        { p with brightness_commit_timer := false } read
      obtain ⟨hrests, hwrites⟩ := smooth_run notifies 50 hbegun hsame
        (distance_le hbegun)
      rw [hrequested] at hrests
      rw [hq]
      exact ⟨hrests, fun _ => hwrites hstarts⟩
    | false =>
      rw [hcommit, if_neg Bool.false_ne_true] at hq
      obtain ⟨hrests, hwrites⟩ := smooth_run notifies 50 h hcommit (distance_le h)
      rw [hq]
      exact ⟨hrests, fun hor => hwrites (.inl (hor.resolve_left Bool.false_ne_true))⟩
  refine ⟨hall.1, fun hor => ?_⟩
  obtain ⟨percent, hpercent⟩ := Option.ne_none_iff_exists'.1
    (mt List.head?_eq_none_iff.1 (hall.2 hor))
  rw [hpercent, hlit.last percent hpercent, hall.1.hardware]

/-! ## Colours -/

/-- The colour that is shown is the one of the model, and that the test was started is recorded once
at most. -/
structure Visual (p : LcdTestPage) : Prop where
  index : 0 ≤ p.model.color_index ∧ p.model.color_index ≤ K_TOTAL_VISUAL_STEP_COUNT + 1
  subject : p.color_index_subject = p.model.color_index
  current : p.current_color_index = p.model.color_index
  started : p.visual_test_started ≤ 1
  unstarted : p.model.color_index = 0 → p.visual_test_started = 0

/-- What the colours are about, but for the model. -/
def colours (p : LcdTestPage) :=
  (p.color_index_subject, p.current_color_index, p.visual_test_started)

theorem Visual.congr (h : Visual p) (hcolours : colours q = colours p)
    (hmodel : q.model.color_index = p.model.color_index) : Visual q := by
  simp only [colours, Prod.mk.injEq] at hcolours
  obtain ⟨hsubject, hcurrent, hstarted⟩ := hcolours
  constructor
  · rw [hmodel]
    exact h.index
  · rw [hsubject, hmodel]
    exact h.subject
  · rw [hcurrent, hmodel]
    exact h.current
  · rw [hstarted]
    exact h.started
  · rw [hmodel, hstarted]
    exact h.unstarted

theorem set_brightness_percent_subject_colours (notifies : Bool) (p : LcdTestPage) (value : ℤ) :
    colours (p.set_brightness_percent_subject notifies value) = colours p ∧
      (p.set_brightness_percent_subject notifies value).model = p.model := by
  unfold LcdTestPage.set_brightness_percent_subject LcdTestPage.apply_brightness_percent_
  dsimp only
  split_ifs <;> exact ⟨rfl, rfl⟩

theorem set_brightness_test_active_subject_colours (notifies : Bool) (p : LcdTestPage)
    (value : Bool) : colours (p.set_brightness_test_active_subject notifies value) = colours p ∧
      (p.set_brightness_test_active_subject notifies value).model = p.model := by
  unfold LcdTestPage.set_brightness_test_active_subject LcdTestPage.apply_brightness_active_
  dsimp only
  split_ifs <;> exact ⟨rfl, rfl⟩

theorem publish_all_visual (hsame : p.color_index_subject = p.current_color_index)
    {model : LcdTestModel}
    (hindex : 0 ≤ model.color_index ∧ model.color_index ≤ K_TOTAL_VISUAL_STEP_COUNT + 1)
    (hstarted : p.visual_test_started ≤ 1)
    (hunstarted : model.color_index = 0 → p.visual_test_started = 0) :
    Visual (LcdTestPage.publish_all_ notifies { p with model }) := by
  have hset : Visual (LcdTestPage.set_color_index_subject notifies { p with model }
      model.color_index) := by
    unfold LcdTestPage.set_color_index_subject LcdTestPage.apply_color_index_
    dsimp only
    split_ifs with hnotified htested
    · exact ⟨hindex, rfl, rfl, hstarted, hunstarted⟩
    · exact ⟨hindex, rfl, rfl, hstarted, hunstarted⟩
    · simp only [Bool.or_eq_true, decide_eq_true_eq, not_or, not_not] at hnotified
      exact ⟨hindex, hnotified.2, hsame.symm.trans hnotified.2, hstarted, hunstarted⟩
  unfold LcdTestPage.publish_all_
  dsimp only
  generalize LcdTestPage.set_color_index_subject notifies { p with model } model.color_index = u
    at hset ⊢
  obtain ⟨hcolours, hmodel⟩ :=
    set_brightness_percent_subject_colours notifies u u.model.brightness_percent
  generalize u.set_brightness_percent_subject notifies u.model.brightness_percent = lit
    at hcolours hmodel ⊢
  obtain ⟨hcolours', hmodel'⟩ :=
    set_brightness_test_active_subject_colours notifies lit lit.model.brightness_test_active
  exact hset.congr (hcolours'.trans hcolours) (by rw [hmodel', hmodel])

theorem Visual.publish (h : Visual p) {model : LcdTestModel}
    (hmodel : model.color_index = p.model.color_index) :
    Visual (LcdTestPage.publish_all_ notifies { p with model }) := by
  apply publish_all_visual (h.subject.trans h.current.symm) _ h.started
  · rw [hmodel]
    exact h.unstarted
  · rw [hmodel]
    exact h.index

theorem show_tile_visual (h : Visual p) (index : LcdTile) :
    Visual (p.show_tile_ notifies index) := by
  unfold LcdTestPage.show_tile_
  split_ifs
  · have hindex : 0 ≤ K_TOTAL_VISUAL_STEP_COUNT + 1 ∧
        K_TOTAL_VISUAL_STEP_COUNT + 1 ≤ K_TOTAL_VISUAL_STEP_COUNT + 1 := by decide
    have hlast : K_TOTAL_VISUAL_STEP_COUNT + 1 ≠ 0 := by decide
    exact publish_all_visual (h.subject.trans h.current.symm) hindex h.started
      fun hzero => absurd hzero hlast
  · exact h.congr rfl rfl

theorem change_brightness_color_index (m : LcdTestModel) :
    m.increase_brightness.color_index = m.color_index ∧
      m.decrease_brightness.color_index = m.color_index := by
  unfold LcdTestModel.increase_brightness LcdTestModel.decrease_brightness
  split_ifs <;> exact ⟨rfl, rfl⟩

/-- The colours only go on. -/
theorem advance_color_index_spec {m : LcdTestModel} (hactive : m.brightness_test_active = false)
    (h : 0 ≤ m.color_index ∧ m.color_index ≤ K_TOTAL_VISUAL_STEP_COUNT + 1) :
    0 < m.advance_color_index.color_index ∧
      m.advance_color_index.color_index ≤ K_TOTAL_VISUAL_STEP_COUNT + 1 := by
  unfold LcdTestModel.advance_color_index
  unfold K_TOTAL_VISUAL_STEP_COUNT K_CROSS_HATCH_STEP_COUNT K_COLOR_STEP_COUNT at h ⊢
  rw [hactive, if_neg Bool.false_ne_true]
  split_ifs with hless
  · dsimp only
    omega
  · dsimp only
    omega

theorem step_visual (h : Visual p) (event : LcdEvent) :
    Visual (LcdTestPage.step notifies p event) := by
  have hsame := h.subject.trans h.current.symm
  cases event with
  | enter =>
    unfold LcdTestPage.step LcdTestPage.advance_color_step_
    dsimp only
    by_cases hskipped : (decide (p.active_tile_index ≠ .COLOR) ||
        p.model.brightness_test_active) = true
    · rw [if_pos hskipped]
      exact h
    · rw [if_neg hskipped]
      simp only [Bool.or_eq_true, decide_eq_true_eq, not_or, Bool.not_eq_true] at hskipped
      obtain ⟨hlow, hhigh⟩ := advance_color_index_spec hskipped.2 h.index
      have hnew : p.model.advance_color_index.color_index ≠ 0 := hlow.ne'
      split_ifs with hfirst
      · have hnone := h.unstarted (h.current.symm.trans hfirst)
        let first : LcdTestPage := { p with visual_test_started := p.visual_test_started + 1 }
        have hstarted : first.visual_test_started ≤ 1 := by simp [first, hnone]
        exact publish_all_visual (p := first) hsame ⟨hlow.le, hhigh⟩ hstarted
          fun hzero => absurd hzero hnew
      · exact publish_all_visual hsame ⟨hlow.le, hhigh⟩ h.started fun hzero => absurd hzero hnew
  | tab =>
    unfold LcdTestPage.step LcdTestPage.switch_to_next_tile_
    dsimp only
    split_ifs
    · exact show_tile_visual h _
    · exact show_tile_visual h _
    · exact show_tile_visual h _
  | increase =>
    unfold LcdTestPage.step
    dsimp only
    split_ifs
    · exact h.publish (change_brightness_color_index _).1
    · exact h
  | decrease =>
    unfold LcdTestPage.step
    dsimp only
    split_ifs
    · exact h.publish (change_brightness_color_index _).2
    · exact h
  | tile_scroll_end index => exact h.congr rfl rfl
  | brightness_commit read =>
    unfold LcdTestPage.step LcdTestPage.begin_brightness_transition_
    dsimp only
    split_ifs <;> exact h.congr rfl rfl
  | brightness_smooth =>
    unfold LcdTestPage.step LcdTestPage.step_brightness_transition_
    dsimp only
    split_ifs <;> exact h.congr rfl rfl

theorem build_visual (read : Option ℤ) : Visual (LcdTestPage.build read) := by
  have hindex : (0 : ℤ) ≤ 0 ∧ 0 ≤ K_TOTAL_VISUAL_STEP_COUNT + 1 := by decide
  cases read <;> exact ⟨hindex, rfl, rfl, Nat.zero_le 1, fun _ => rfl⟩

theorem run_visual (h : Visual p) (events : List LcdEvent) :
    Visual (LcdTestPage.run notifies p events) := by
  induction events generalizing p with
  | nil => exact h
  | cons event events ih => exact ih (step_visual h event)

/-- After every run the brightness and the colour are in order, and a commit and fifty steps bring
the brightness to where it is wanted. -/
theorem lcd_brightness (notifies : Bool) (read : Option ℤ) (events : List LcdEvent) :
    let p := LcdTestPage.run notifies (LcdTestPage.build read) events
    Lit p ∧ Visual p ∧ ∀ read,
      let q := LcdTestPage.run notifies p
        (.brightness_commit read :: List.replicate 50 .brightness_smooth)
      Rests p.model.brightness_percent q ∧
        (p.brightness_commit_timer = true ∨ p.brightness_smooth_timer = true →
          q.writes.head? = some p.model.brightness_percent) := by
  intro p
  have hlit : Lit p := run_lit (build_lit read) events
  exact ⟨hlit, run_visual (build_visual read) events, settles hlit⟩

end FactoryTest.View

import Mathlib.Data.List.Chain
import Mathlib.Algebra.Order.Group.Abs
import Mathlib.Algebra.Order.Group.Int

/-!
# The LCD test

`LcdTestPage` of `src/view/screens/lcd_test_page.cpp` with `LcdTestModel` and `LcdTestViewModel`: a
sequence of colours, and then a brightness that is chosen in steps of five percent. A while after
the last choice the backlight is moved there in small steps.

**What is left out.** What is drawn, and the dialog. The subjects belong to LVGL, so whether a value
that is set again is notified (`notifies`) is a parameter. What is written to the backlight is
remembered, the newest first, also when the write fails.
-/

namespace FactoryTest.View

/-! ## The model -/

def K_COLOR_STEP_COUNT : ℤ := 9
def K_CROSS_HATCH_STEP_COUNT : ℤ := 2
def K_TOTAL_VISUAL_STEP_COUNT : ℤ := K_CROSS_HATCH_STEP_COUNT + K_COLOR_STEP_COUNT
def K_MIN_BRIGHTNESS_PERCENT : ℤ := 1
def K_INITIAL_BRIGHTNESS_PERCENT : ℤ := 80
def K_BRIGHTNESS_STEP_PERCENT : ℤ := 5
def K_BRIGHTNESS_SMOOTH_STEP : ℤ := 2

/-- `std::clamp`. -/
def clamp (value low high : ℤ) : ℤ :=
  if value < low then low else if high < value then high else value

/-- `LcdTestModel`. -/
structure LcdTestModel where
  color_index : ℤ := 0
  brightness_percent : ℤ := K_INITIAL_BRIGHTNESS_PERCENT
  brightness_test_active : Bool := false

namespace LcdTestModel

/-- `set_brightness_percent`. -/
def set_brightness_percent (m : LcdTestModel) (percent : ℤ) : LcdTestModel :=
  { m with brightness_percent := clamp percent K_MIN_BRIGHTNESS_PERCENT 100 }

/-- `advance_color_index`. -/
def advance_color_index (m : LcdTestModel) : LcdTestModel :=
  if m.brightness_test_active then m
  else if m.color_index < K_TOTAL_VISUAL_STEP_COUNT then
    { m with color_index := m.color_index + 1 }
  else { m with brightness_test_active := true }

/-- `start_brightness_test`. -/
def start_brightness_test (m : LcdTestModel) : LcdTestModel :=
  { m with brightness_test_active := true, color_index := K_TOTAL_VISUAL_STEP_COUNT + 1 }

/-- `increase_brightness`. -/
def increase_brightness (m : LcdTestModel) : LcdTestModel :=
  if !m.brightness_test_active then m
  else { m with brightness_percent := min 100 (m.brightness_percent + K_BRIGHTNESS_STEP_PERCENT) }

/-- `decrease_brightness`. -/
def decrease_brightness (m : LcdTestModel) : LcdTestModel :=
  if !m.brightness_test_active then m
  else
    let percent := m.brightness_percent - K_BRIGHTNESS_STEP_PERCENT
    { m with brightness_percent := max K_MIN_BRIGHTNESS_PERCENT percent }

end LcdTestModel

/-! ## The page -/

/-- The tiles. -/
inductive LcdTile
  | COLOR
  | BRIGHTNESS
  deriving DecidableEq

/-- `LcdTestPage`, with its view model. -/
structure LcdTestPage where
  model : LcdTestModel := {}
  color_index_subject : ℤ
  brightness_percent_subject : ℤ
  brightness_test_active_subject : Bool
  /-- The timers run. -/
  brightness_commit_timer : Bool := false
  brightness_smooth_timer : Bool := false
  requested_brightness_percent : ℤ := K_INITIAL_BRIGHTNESS_PERCENT
  current_color_index : ℤ := 0
  hardware_brightness_percent : ℤ := K_INITIAL_BRIGHTNESS_PERCENT
  target_brightness_percent : ℤ := K_INITIAL_BRIGHTNESS_PERCENT
  active_tile_index : LcdTile := .COLOR
  hardware_brightness_loaded : Bool := false
  /-- What was written to the backlight. -/
  writes : List ℤ := []
  /-- How often `visual_test_started` was recorded. -/
  visual_test_started : ℕ := 0

namespace LcdTestPage

/-- `schedule_brightness_commit_`. -/
def schedule_brightness_commit_ (p : LcdTestPage) : LcdTestPage :=
  { p with brightness_smooth_timer := false, brightness_commit_timer := true }

/-- `apply_brightness_percent_`. -/
def apply_brightness_percent_ (p : LcdTestPage) (percent : ℤ) : LcdTestPage :=
  let p := { p with
    requested_brightness_percent := clamp percent K_MIN_BRIGHTNESS_PERCENT 100 }
  if p.model.brightness_test_active then p.schedule_brightness_commit_ else p

/-- `apply_color_index_`; while the brightness is tested its tile is shown. -/
def apply_color_index_ (p : LcdTestPage) (index : ℤ) : LcdTestPage :=
  let p := { p with current_color_index := index }
  if p.model.brightness_test_active then { p with active_tile_index := .BRIGHTNESS } else p

/-- `apply_brightness_active_`. -/
def apply_brightness_active_ (p : LcdTestPage) (active : Bool) : LcdTestPage :=
  if active then { p with active_tile_index := .BRIGHTNESS } else p

/-- The colour is set, and `color_observer` told. -/
def set_color_index_subject (notifies : Bool) (p : LcdTestPage) (value : ℤ) : LcdTestPage :=
  if notifies || p.color_index_subject ≠ value then
    apply_color_index_ { p with color_index_subject := value } value
  else p

/-- The brightness is set, and `brightness_percent_observer` told. -/
def set_brightness_percent_subject (notifies : Bool) (p : LcdTestPage) (value : ℤ) :
    LcdTestPage :=
  if notifies || p.brightness_percent_subject ≠ value then
    apply_brightness_percent_ { p with brightness_percent_subject := value } value
  else p

/-- The test is set, and `brightness_active_observer` told. -/
def set_brightness_test_active_subject (notifies : Bool) (p : LcdTestPage) (value : Bool) :
    LcdTestPage :=
  if notifies || p.brightness_test_active_subject ≠ value then
    apply_brightness_active_ { p with brightness_test_active_subject := value } value
  else p

/-- `publish_all_`. -/
def publish_all_ (notifies : Bool) (p : LcdTestPage) : LcdTestPage :=
  let p := set_color_index_subject notifies p p.model.color_index
  let p := set_brightness_percent_subject notifies p p.model.brightness_percent
  set_brightness_test_active_subject notifies p p.model.brightness_test_active

/-- `show_tile_`. -/
def show_tile_ (notifies : Bool) (p : LcdTestPage) (index : LcdTile) : LcdTestPage :=
  if index = .BRIGHTNESS && !p.model.brightness_test_active then
    publish_all_ notifies { p with model := p.model.start_brightness_test }
  else { p with active_tile_index := index }

/-- `switch_to_next_tile_`. -/
def switch_to_next_tile_ (notifies : Bool) (p : LcdTestPage) : LcdTestPage :=
  if p.model.brightness_test_active then show_tile_ notifies p .BRIGHTNESS
  else show_tile_ notifies p (if p.active_tile_index = .COLOR then .BRIGHTNESS else .COLOR)

/-- `advance_color_step_`. -/
def advance_color_step_ (notifies : Bool) (p : LcdTestPage) : LcdTestPage :=
  if p.active_tile_index ≠ .COLOR || p.model.brightness_test_active then p
  else
    let p :=
      if p.current_color_index = 0 then
        { p with visual_test_started := p.visual_test_started + 1 }
      else p
    publish_all_ notifies { p with model := p.model.advance_color_index }

/-- `begin_brightness_transition_`, with what is read of the backlight. -/
def begin_brightness_transition_ (p : LcdTestPage) (read : Option ℤ) : LcdTestPage :=
  let p := { p with
    target_brightness_percent :=
      clamp p.requested_brightness_percent K_MIN_BRIGHTNESS_PERCENT 100 }
  let p :=
    if !p.hardware_brightness_loaded then
      { p with
        hardware_brightness_percent :=
          match read with
          | some current => clamp current 0 100
          | none => p.target_brightness_percent
        hardware_brightness_loaded := true }
    else p
  if p.hardware_brightness_percent = p.target_brightness_percent then
    { p with writes := p.target_brightness_percent :: p.writes }
  else { p with brightness_smooth_timer := true }

/-- `step_brightness_transition_`. -/
def step_brightness_transition_ (p : LcdTestPage) : LcdTestPage :=
  let delta := p.target_brightness_percent - p.hardware_brightness_percent
  if delta = 0 then { p with brightness_smooth_timer := false }
  else
    let step := min |delta| K_BRIGHTNESS_SMOOTH_STEP * if 0 < delta then 1 else -1
    let hardware := clamp (p.hardware_brightness_percent + step) K_MIN_BRIGHTNESS_PERCENT 100
    { p with
      hardware_brightness_percent := hardware
      writes := hardware :: p.writes
      brightness_smooth_timer :=
        p.brightness_smooth_timer && hardware ≠ p.target_brightness_percent }

/-- The constructor and `build_content`, with what is read of the backlight. The subjects are set
before they are observed. -/
def build (read : Option ℤ) : LcdTestPage :=
  match read with
  | some current =>
    let percent := clamp (clamp current 0 100) K_MIN_BRIGHTNESS_PERCENT 100
    let model := LcdTestModel.set_brightness_percent {} percent
    let p : LcdTestPage :=
      { model
        color_index_subject := model.color_index
        brightness_percent_subject := model.brightness_percent
        brightness_test_active_subject := model.brightness_test_active
        hardware_brightness_percent := percent
        target_brightness_percent := percent
        requested_brightness_percent := percent
        hardware_brightness_loaded := true }
    p.apply_brightness_percent_ p.requested_brightness_percent
  | none =>
    let p : LcdTestPage :=
      { color_index_subject := 0
        brightness_percent_subject := K_INITIAL_BRIGHTNESS_PERCENT
        brightness_test_active_subject := false }
    p.apply_brightness_percent_ p.requested_brightness_percent

end LcdTestPage

/-- What happens to the page. -/
inductive LcdEvent
  | enter
  | tab
  | increase
  | decrease
  | tile_scroll_end (index : LcdTile)
  | brightness_commit (read : Option ℤ)
  | brightness_smooth

namespace LcdTestPage

/-- An event. The timers fire only while they run, the first one once. -/
def step (notifies : Bool) (p : LcdTestPage) : LcdEvent → LcdTestPage
  | .enter => advance_color_step_ notifies p
  | .tab => switch_to_next_tile_ notifies p
  | .increase =>
    if p.active_tile_index = .BRIGHTNESS then
      publish_all_ notifies { p with model := p.model.increase_brightness }
    else p
  | .decrease =>
    if p.active_tile_index = .BRIGHTNESS then
      publish_all_ notifies { p with model := p.model.decrease_brightness }
    else p
  | .tile_scroll_end index => { p with active_tile_index := index }
  | .brightness_commit read =>
    if p.brightness_commit_timer then
      begin_brightness_transition_ { p with brightness_commit_timer := false } read
    else p
  | .brightness_smooth =>
    if p.brightness_smooth_timer then p.step_brightness_transition_ else p

/-- A run. -/
def run (notifies : Bool) (p : LcdTestPage) (events : List LcdEvent) : LcdTestPage :=
  events.foldl (step notifies) p

end LcdTestPage

end FactoryTest.View

import FactoryTest.Gpio.Ownership

/-!
# The outputs of the GPIO test

`set_gpio_test_outputs` of `src/platform/cap_fixture_service.cpp` sets three lines one after the
other. If one of them fails, it releases those before it.

**What is left.** The line that fails is still an output if its value was set and did not read
back, and the lines after it are what they were.

**Theorem (`set_gpio_test_outputs_iff`).** So a failure leaves no output if and only if the line
that fails could not be requested or set, and no line after it was an output before.
-/

namespace FactoryTest.Gpio

/-! ## The code -/

def K_GPIO_TEST_LINES : List OutputLineConfig :=
  [⟨"/dev/gpiochip0", 26, "factory-test-cap-gpio26"⟩,
    ⟨"/dev/gpiochip0", 23, "factory-test-cap-gpio23"⟩,
    ⟨"/dev/gpiochip0", 22, "factory-test-cap-gpio22"⟩]

/-- The loop that releases. -/
def release_lines (configs : List OutputLineConfig) (w : World) : World :=
  configs.foldl (fun w config => release_output_value config w) w

/-- The loop of `set_gpio_test_outputs`, after some lines. -/
def set_lines (active : Bool) (answers : OutputLineConfig → SetAnswers) :
    List OutputLineConfig → List OutputLineConfig → World → Except String Unit × World
  | _, [], w => (.ok (), w)
  | done, config :: configs, w =>
    match set_output_value config active (answers config) w with
    | (.error error_message, w) => (.error error_message, release_lines done w)
    | (.ok (), w) => set_lines active answers (done ++ [config]) configs w

/-- `set_gpio_test_outputs`. -/
def set_gpio_test_outputs (active : Bool) (answers : OutputLineConfig → SetAnswers) (w : World) :
    Except String Unit × World :=
  set_lines active answers [] K_GPIO_TEST_LINES w

/-! ## Outputs -/

/-- The line of a configuration is requested as an output. -/
def World.IsOutput (w : World) (config : OutputLineConfig) : Prop :=
  ∃ made ∈ held w.log (.registered (line_key config)), made.tag.direction = .OUTPUT

/-- No line is left as an output: every line reads back, or the first that does not could not be
set, and no line after it was an output before. -/
def RollsBack (active : Bool) (answers : OutputLineConfig → SetAnswers) (w : World) :
    List OutputLineConfig → Prop
  | [] => True
  | config :: configs =>
    ((w.registered config).Accepts (answers config) ∧
        OutputLine.ReadsBack active (answers config) ∧ RollsBack active answers w configs) ∨
      (¬ (w.registered config).Accepts (answers config) ∧ ∀ later ∈ configs, ¬ w.IsOutput later)

section

variable {w w' : World} {config : OutputLineConfig} {active : Bool}
  {answers : OutputLineConfig → SetAnswers}

theorem not_isOutput_of_held (h : held w.log (.registered (line_key config)) = []) :
    ¬ w.IsOutput config := by
  rintro ⟨made, hmade, -⟩
  rw [h] at hmade
  cases hmade

theorem isOutput_congr (h : held w'.log (.registered (line_key config)) =
    held w.log (.registered (line_key config))) : w'.IsOutput config ↔ w.IsOutput config := by
  rw [World.IsOutput, h, World.IsOutput]

theorem holder_ne {config other : OutputLineConfig} (h : line_key config ≠ line_key other) :
    Holder.registered (line_key config) ≠ .registered (line_key other) := by
  intro heq
  injection heq with hkey
  exact h hkey

/-- The lines that are released have no request, and the others are what they were. -/
theorem release_lines_spec (h : w.Agrees) (configs : List OutputLineConfig) :
    (∀ config, line_key config ∈ configs.map line_key →
        held (release_lines configs w).log (.registered (line_key config)) = []) ∧
      ∀ config, line_key config ∉ configs.map line_key →
        held (release_lines configs w).log (.registered (line_key config)) =
          held w.log (.registered (line_key config)) := by
  induction configs generalizing w with
  | nil => exact ⟨fun _ h => absurd h List.not_mem_nil, fun _ _ => rfl⟩
  | cons first configs ih =>
    obtain ⟨hagrees, hgoes, hheld⟩ := release_output_value_agrees h first
    obtain ⟨hreleased, hothers⟩ := ih hagrees
    constructor
    · intro config hconfig
      by_cases hlater : line_key config ∈ configs.map line_key
      · exact hreleased config hlater
      · have hfirst := (List.mem_cons.1 hconfig).resolve_right hlater
        refine (hothers config hlater).trans ?_
        rw [hfirst]
        exact hheld
    · intro config hconfig
      rw [List.map_cons, List.mem_cons, not_or] at hconfig
      exact (hothers config hconfig.2).trans (hgoes.others _ (holder_ne hconfig.1))

/-- The loop, once the lines in `done` are set. -/
theorem set_lines_iff (h : w.Agrees) (before : World) {done configs : List OutputLineConfig}
    (hkeys : ((done ++ configs).map line_key).Nodup)
    (hlines : ∀ config ∈ configs, w.registered config = before.registered config)
    (hheld : ∀ config ∈ configs, held w.log (.registered (line_key config)) =
      held before.log (.registered (line_key config))) :
    (∀ error_message, (set_lines active answers done configs w).1 = .error error_message →
        ∀ config ∈ done ++ configs, ¬ (set_lines active answers done configs w).2.IsOutput config) ↔
      RollsBack active answers before configs := by
  induction configs generalizing w done with
  | nil => exact iff_of_true (fun _ h => nomatch h) trivial
  | cons config configs ih =>
    obtain ⟨result, line', log, hset, hsetTo, hagrees⟩ :=
      put_set_value h (h.registered_holds config) active (answers config)
    have hvalue : set_output_value config active (answers config) w =
        (result, w.put (.registered (line_key config)) (some line') log) := by
      unfold set_output_value
      dsimp only
      rw [hset]
    rw [hlines config List.mem_cons_self] at hsetTo
    -- the keys of the line, of those before it and of those after it differ
    have hkeys' := hkeys
    rw [List.map_append, List.map_cons, List.nodup_append, List.nodup_cons] at hkeys'
    obtain ⟨-, ⟨hself, -⟩, hapart⟩ := hkeys'
    have hdone : line_key config ∉ done.map line_key :=
      fun hmem => hapart _ hmem _ List.mem_cons_self rfl
    have hlater : ∀ later ∈ configs, line_key later ≠ line_key config :=
      fun later hmem heq => hself (heq ▸ List.mem_map_of_mem hmem)
    have hlaterDone : ∀ later ∈ configs, line_key later ∉ done.map line_key :=
      fun later hmem hin =>
        hapart _ hin _ (List.mem_cons_of_mem _ (List.mem_map_of_mem hmem)) rfl
    have hothers : ∀ later ∈ configs, held log (.registered (line_key later)) =
        held before.log (.registered (line_key later)) := fun later hmem =>
      (hsetTo.goes.others _ (holder_ne (hlater later hmem))).trans
        (hheld later (List.mem_cons_of_mem _ hmem))
    unfold set_lines RollsBack
    rw [hvalue]
    cases result with
    | ok value =>
      obtain ⟨haccepted, hback⟩ := hsetTo.ok.1 rfl
      have happend : done ++ config :: configs = (done ++ [config]) ++ configs := by simp
      have hrest := ih hagrees (happend ▸ hkeys) (fun later hmem => ?_) hothers
      · rw [happend]
        refine hrest.trans ⟨fun h => .inl ⟨haccepted, hback, h⟩, fun h => ?_⟩
        rcases h with h | h
        · exact h.2.2
        · exact absurd haccepted h.1
      · rw [← hlines later (List.mem_cons_of_mem _ hmem)]
        unfold World.registered
        rw [World.put_lines_other _ (holder_ne (hlater later hmem))]
    | error error_message =>
      obtain ⟨hreleased, hkept⟩ := release_lines_spec hagrees done
      have hfailed : ¬ ((before.registered config).Accepts (answers config) ∧
          OutputLine.ReadsBack active (answers config)) := fun h => nomatch hsetTo.ok.2 h
      by_cases haccepted : (before.registered config).Accepts (answers config)
      · -- the value was set and does not read back
        have houtput : (release_lines done
            (w.put (.registered (line_key config)) (some line') log)).IsOutput config := by
          obtain ⟨-, request, initial_value, -, hone⟩ := hsetTo.output haccepted
          rw [isOutput_congr (hkept config hdone)]
          exact ⟨_, (hone ▸ List.mem_singleton_self _ :), rfl⟩
        refine iff_of_false (fun hnone => ?_) (fun hrolls => ?_)
        · exact hnone error_message rfl config (by simp) houtput
        · rcases hrolls with hrolls | hrolls
          · exact hfailed ⟨haccepted, hrolls.2.1⟩
          · exact hrolls.1 haccepted
      · -- the value could not be set
        have hnone : ¬ (release_lines done
            (w.put (.registered (line_key config)) (some line') log)).IsOutput config :=
          not_isOutput_of_held ((hkept config hdone).trans (hsetTo.released haccepted).held)
        have hsame : ∀ later ∈ configs, ((release_lines done
            (w.put (.registered (line_key config)) (some line') log)).IsOutput later ↔
              before.IsOutput later) := fun later hmem =>
          isOutput_congr ((hkept later (hlaterDone later hmem)).trans (hothers later hmem))
        constructor
        · intro hleft
          refine .inr ⟨haccepted, fun later hmem hout => ?_⟩
          exact hleft error_message rfl later (by simp [hmem]) ((hsame later hmem).2 hout)
        · rintro (hrolls | ⟨-, hrolls⟩) message hmessage other hother
          · exact absurd hrolls.1 haccepted
          · rcases List.mem_append.1 hother with hbefore | hother
            · exact not_isOutput_of_held (hreleased other (List.mem_map_of_mem hbefore))
            · rcases List.mem_cons.1 hother with rfl | hafter
              · exact hnone
              · exact fun hout => hrolls other hafter ((hsame other hafter).1 hout)

end

/-- Whatever happened before and whatever the kernel answers: if the outputs of the test are not
set, none of the lines is left as an output, if and only if each line reads back up to one that
could not be requested or set, and no line after that one was an output before. -/
theorem set_gpio_test_outputs_iff (calls : List Call) (active : Bool)
    (answers : OutputLineConfig → SetAnswers) :
    (∀ error_message,
        (set_gpio_test_outputs active answers (run {} calls)).1 = .error error_message →
        ∀ config ∈ K_GPIO_TEST_LINES,
          ¬ (set_gpio_test_outputs active answers (run {} calls)).2.IsOutput config) ↔
      RollsBack active answers (run {} calls) K_GPIO_TEST_LINES :=
  set_lines_iff (run_agrees World.agrees_empty calls) _ (by decide) (fun _ _ => rfl)
    fun _ _ => rfl

/-- Answers that grant a request and set a value, with the value that is read. -/
def answersReading (value : LineValue) : SetAnswers :=
  let granted : RequestAnswers := ⟨true, true, true, true, 0, 0, 0, 0, true, ""⟩
  ⟨granted, 0, ⟨value, ""⟩, granted, 0, ⟨value, ""⟩, ""⟩

/-- The first line is set and reads back the other level. It stays an output. -/
theorem mismatch_leaves_output :
    ¬ ∀ (calls : List Call) (active : Bool) (answers : OutputLineConfig → SetAnswers)
      (error_message : String),
      (set_gpio_test_outputs active answers (run {} calls)).1 = .error error_message →
        ∀ config ∈ K_GPIO_TEST_LINES,
          ¬ (set_gpio_test_outputs active answers (run {} calls)).2.IsOutput config := by
  intro h
  exact h [] true (fun _ => answersReading .INACTIVE) "GPIO output readback mismatch" rfl _
    List.mem_cons_self ⟨_, List.mem_cons_self, rfl⟩

end FactoryTest.Gpio

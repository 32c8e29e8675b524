import FactoryTest.Gpio.Ownership

/-!
# Switches under sysfs

`read_sysfs_binary_value` and `write_sysfs_binary_value` of `src/platform/gpio_service.cpp`, and
the lines that are read as inputs for a moment.

A value that was written is read back until it agrees, six times at most.

**Theorem (`write_sysfs_binary_value_iff`).** Writing succeeds exactly if the file took the value
and one of the six readings agrees, and otherwise there is a message.
-/

namespace FactoryTest.Gpio

/-! ## The code -/

/-- What reading the number in a file answers. -/
inductive FileAnswer
  | not_opened (errno : String)
  | not_read (errno : String)
  | number (actual : ℤ)

/-- `read_sysfs_binary_value_unlocked`. -/
def read_sysfs_binary_value (path : String) : FileAnswer → Except String Bool
  | .not_opened errno => .error ("Failed to open " ++ path ++ ": " ++ errno)
  | .not_read errno => .error ("Failed to read " ++ path ++ ": " ++ errno)
  | .number actual => .ok (actual ≠ 0)

/-- What writing a number answers: the errors of opening and writing the file, and what each
attempt reads back. -/
structure WriteAnswers where
  open_error : Option String := none
  write_error : Option String := none
  readings : ℕ → FileAnswer

/-- The loop that reads back, with the attempts that are left. -/
def read_back_loop (path : String) (active : Bool) (readings : ℕ → FileAnswer) :
    ℕ → ℕ → String → Bool → Except String Unit
  | 0, _, read_error, actual =>
    if read_error ≠ "" then .error read_error
    else .error ("Sysfs value readback mismatch at " ++ path ++ ": requested=" ++
      (if active then "1" else "0") ++ " actual=" ++ if actual then "1" else "0")
  | left + 1, attempt, _, actual =>
    match read_sysfs_binary_value path (readings attempt) with
    | .ok value =>
      if value = active then .ok ()
      else read_back_loop path active readings left (attempt + 1) "" value
    | .error read_error =>
      read_back_loop path active readings left (attempt + 1) read_error actual

/-- `write_sysfs_binary_value_unlocked`. -/
def write_sysfs_binary_value (path : String) (active : Bool) (answers : WriteAnswers) :
    Except String Unit :=
  match answers.open_error, answers.write_error with
  | some errno, _ => .error ("Failed to open " ++ path ++ ": " ++ errno)
  | none, some errno => .error ("Failed to write " ++ path ++ ": " ++ errno)
  | none, none => read_back_loop path active answers.readings 6 1 "" false

/-- `get_input_value`: the line of the key is released, and requested as an input for the moment. -/
def get_input_value (config : OutputLineConfig) (answers : GetAnswers) (w : World) :
    Except String Bool × World :=
  let holder := .registered (line_key config)
  let w := release_output_value config w
  match request_line holder config .INPUT .INACTIVE answers.request w.log with
  | (.error error_message, log) => (.error error_message, { w with log := log })
  | (.ok request, log) =>
    let (result, log) := read_requested_value (some request) answers.read log
    (result, { w with log := .released request :: log })

/-! ## A request for the moment -/

/-- A line that is read as an input is left without a request. -/
theorem get_input_value_agrees {w : World} (h : w.Agrees) (config : OutputLineConfig)
    (answers : GetAnswers) :
    (get_input_value config answers w).2.Agrees ∧
      held (get_input_value config answers w).2.log (.registered (line_key config)) = [] := by
  obtain ⟨hagrees, -, hheld⟩ := release_output_value_agrees h config
  have hline : (release_output_value config w).lines (.registered (line_key config)) = none := by
    unfold release_output_value World.destroy
    dsimp only
    cases hline : w.lines (.registered (line_key config)) with
    | none => exact hline
    | some line => simp
  have hput : ∀ log, { release_output_value config w with log := log } =
      (release_output_value config w).put (.registered (line_key config)) none log := by
    intro log
    rw [World.put, ← hline, Function.update_eq_self]
  unfold get_input_value
  dsimp only
  by_cases hgrants : answers.request.Grants .INPUT
  · obtain ⟨hgoes₁, hone⟩ :=
      hagrees.sound.grant hheld (⟨config, .INPUT, .INACTIVE⟩ : LineRequest)
    have hgoes₂ := hgoes₁.sound.use hone (.get_value answers.read.value)
    obtain ⟨hgoes₃, hnone⟩ := hgoes₂.sound.release ((held_used _ _).trans hone)
    have hend := hagrees.put ((hgoes₁.trans hgoes₂).trans hgoes₃)
      (show Kept (.registered (line_key config)) none _ from hnone)
    rw [request_line_granted hgrants]
    unfold read_requested_value
    dsimp only
    split_ifs <;> exact ⟨hput _ ▸ hend, hnone⟩
  · obtain ⟨message, hrefused⟩ := request_line_refused hgrants
      (.registered (line_key config)) config .INACTIVE (release_output_value config w).log
    rw [hrefused]
    exact ⟨hagrees, hheld⟩

/-! ## What is read back -/

/-- The reading agrees with the value. -/
def FileAnswer.Reads (active : Bool) : FileAnswer → Prop
  | .number actual => decide (actual ≠ 0) = active
  | _ => False

theorem read_sysfs_binary_value_eq_ok {path : String} {answer : FileAnswer} {active : Bool} :
    read_sysfs_binary_value path answer = .ok active ↔ answer.Reads active := by
  cases answer with
  | not_opened errno => exact ⟨nofun, False.elim⟩
  | not_read errno => exact ⟨nofun, False.elim⟩
  | number actual => exact ⟨fun h => Except.ok.inj h, fun h => congrArg Except.ok h⟩

theorem read_back_loop_iff (path : String) (active : Bool) (readings : ℕ → FileAnswer)
    (left attempt : ℕ) (read_error : String) (actual : Bool) :
    read_back_loop path active readings left attempt read_error actual = .ok () ↔
      ∃ i, attempt ≤ i ∧ i < attempt + left ∧ (readings i).Reads active := by
  induction left generalizing attempt read_error actual with
  | zero =>
    rw [read_back_loop]
    constructor
    · intro h
      split at h <;> cases h
    · rintro ⟨i, hle, hlt, -⟩
      omega
  | succ left ih =>
    -- The first attempt that is left, or a later one.
    have hsplit : (∃ i, attempt ≤ i ∧ i < attempt + (left + 1) ∧ (readings i).Reads active) ↔
        (readings attempt).Reads active ∨
          ∃ i, attempt + 1 ≤ i ∧ i < attempt + 1 + left ∧ (readings i).Reads active := by
      constructor
      · rintro ⟨i, hle, hlt, hreads⟩
        rcases Nat.eq_or_lt_of_le hle with rfl | hle
        · exact .inl hreads
        · exact .inr ⟨i, hle, by omega, hreads⟩
      · rintro (hreads | ⟨i, hle, hlt, hreads⟩)
        · exact ⟨attempt, Nat.le_refl _, by omega, hreads⟩
        · exact ⟨i, by omega, by omega, hreads⟩
    rw [hsplit, read_back_loop, ← read_sysfs_binary_value_eq_ok]
    cases hread : read_sysfs_binary_value path (readings attempt) with
    | error message => simp [ih]
    | ok value =>
      by_cases hvalue : value = active
      · simp [hvalue]
      · simp [hvalue, ih]

theorem read_back_loop_error {path message : String} {active : Bool} {readings : ℕ → FileAnswer}
    {left attempt : ℕ} {read_error : String} {actual : Bool}
    (h : read_back_loop path active readings left attempt read_error actual = .error message) :
    message ≠ "" := by
  induction left generalizing attempt read_error actual with
  | zero =>
    rw [read_back_loop] at h
    split at h
    next hne => exact Except.error.inj h ▸ hne
    · rw [← Except.error.inj h]
      simp [String.append_assoc]
  | succ left ih =>
    rw [read_back_loop] at h
    cases hread : read_sysfs_binary_value path (readings attempt) with
    | error read_error =>
      rw [hread] at h
      exact ih h
    | ok value =>
      rw [hread] at h
      by_cases hvalue : value = active
      · simp only [hvalue, if_true, reduceCtorEq] at h
      · simp only [hvalue, if_false] at h
        exact ih h

/-- The file took the value, and one of the readings agrees. -/
structure WriteAnswers.Confirms (active : Bool) (answers : WriteAnswers) : Prop where
  opened : answers.open_error = none
  written : answers.write_error = none
  agrees : ∃ i, 1 ≤ i ∧ i ≤ 6 ∧ (answers.readings i).Reads active

theorem write_sysfs_binary_value_iff (path : String) (active : Bool) (answers : WriteAnswers) :
    (write_sysfs_binary_value path active answers = .ok () ↔ answers.Confirms active) ∧
      ∀ message, write_sysfs_binary_value path active answers = .error message → message ≠ "" := by
  rw [write_sysfs_binary_value]
  cases hopen : answers.open_error with
  | some errno =>
    refine ⟨⟨nofun, fun h => ?_⟩, ?_⟩
    · rw [h.opened] at hopen
      cases hopen
    · rintro message ⟨⟩
      simp [String.append_assoc]
  | none =>
    cases hwrite : answers.write_error with
    | some errno =>
      refine ⟨⟨nofun, fun h => ?_⟩, ?_⟩
      · rw [h.written] at hwrite
        cases hwrite
      · rintro message ⟨⟩
        simp [String.append_assoc]
    | none =>
      refine ⟨(read_back_loop_iff ..).trans ⟨?_, ?_⟩, fun _ => read_back_loop_error⟩
      · rintro ⟨i, hle, hlt, hreads⟩
        exact ⟨hopen, hwrite, i, hle, by omega, hreads⟩
      · rintro ⟨-, -, i, hle, hlt, hreads⟩
        exact ⟨i, hle, by omega, hreads⟩

end FactoryTest.Gpio

import FactoryTest.Gpio.Lines

/-!
# Who owns a GPIO line

The lines of `src/platform/gpio_service.cpp` in one process: those that the service keeps under a
key (`set_output_value`, `set_input_mode`, `get_output_value`, `release_output_value`) and the
`OutputLine`s that others make and destroy.

**Agreement** (`World.Agrees`). Every line agrees with the kernel, and what is outstanding belongs
to a line. Each call keeps this (`agrees_perform`), so every run does (`agrees_run`).

**Theorem (`line_ownership_iff`).** In every run, whatever the kernel answers, no line has two
requests at any moment, and the stored requests are the outstanding ones. A call that succeeds
leaves what it promises, unless the service finds the line of another chip, offset or consumer under
its key (`colliding_keys`).
-/

namespace FactoryTest.Gpio

/-! ## The code -/

/-- The lines of the process and the log of the kernel. -/
structure World where
  lines : Holder → Option OutputLine := fun _ => none
  log : Log := []

/-- The key of a line that the service keeps. -/
def line_key (config : OutputLineConfig) : String :=
  config.chip_path ++ ":" ++ toString config.line_offset.toNat ++ ":" ++ config.consumer

/-- A line after an operation. -/
def World.put (w : World) (holder : Holder) (line : Option OutputLine) (log : Log) : World :=
  { lines := Function.update w.lines holder line, log := log }

/-- The line of a key, which is made if there is none. -/
def World.registered (w : World) (config : OutputLineConfig) : OutputLine :=
  (w.lines (.registered (line_key config))).getD { config := config }

/-- `set_output_value`. -/
def set_output_value (config : OutputLineConfig) (active : Bool) (answers : SetAnswers)
    (w : World) : Except String Unit × World :=
  let holder := .registered (line_key config)
  let (result, line, log) := (w.registered config).set_value holder active answers w.log
  (result, w.put holder (some line) log)

/-- `set_input_mode`. -/
def set_input_mode (config : OutputLineConfig) (answers : RequestAnswers) (w : World) :
    Except String Unit × World :=
  let holder := .registered (line_key config)
  let (result, line, log) := (w.registered config).set_input holder answers w.log
  (result, w.put holder (some line) log)

/-- `get_output_value`. A line that the service does not keep is requested for the moment. -/
def get_output_value (config : OutputLineConfig) (answers : GetAnswers) (w : World) :
    Except String Bool × World :=
  let holder := .registered (line_key config)
  match w.lines holder with
  | some line =>
    let (result, line, log) := line.get_value holder answers w.log
    (result, w.put holder (some line) log)
  | none =>
    match read_line_value_preserving_direction holder config answers w.log with
    | (.error error_message, log) => (.error error_message, { w with log := log })
    | (.ok (active, request), log) => (.ok active, { w with log := .released request :: log })

/-- The destructor of an `OutputLine`. -/
def World.destroy (holder : Holder) (w : World) : World :=
  match w.lines holder with
  | some line => w.put holder none (line.release_locked w.log).2
  | none => w

/-- `release_output_value`. -/
def release_output_value (config : OutputLineConfig) (w : World) : World :=
  let holder := .registered (line_key config)
  match w.lines holder with
  | some line =>
    let (line, log) := line.release_locked w.log
    (w.put holder (some line) log).destroy holder
  | none => w

/-- A call of the service, or one of an `OutputLine` that someone else has. -/
inductive Call
  | set_output_value (config : OutputLineConfig) (active : Bool) (answers : SetAnswers)
  | set_input_mode (config : OutputLineConfig) (answers : RequestAnswers)
  | get_output_value (config : OutputLineConfig) (answers : GetAnswers)
  | release_output_value (config : OutputLineConfig)
  | construct (id : ℕ) (config : OutputLineConfig)
  | set_value (id : ℕ) (active : Bool) (answers : SetAnswers)
  | set_input (id : ℕ) (answers : RequestAnswers)
  | get_value (id : ℕ) (answers : GetAnswers)
  | release (id : ℕ)
  | destroy (id : ℕ)

/-- The line of an object, after an operation of it. -/
def World.modify {α : Type} (w : World) (id : ℕ)
    (operation : OutputLine → Log → α × OutputLine × Log) : Option α × World :=
  match w.lines (.object id) with
  | some line =>
    let (result, line, log) := operation line w.log
    (some result, w.put (.object id) (some line) log)
  | none => (none, w)

/-- A call: whether it was one that succeeds, and the lines after it. Calls of an object that is
not there are not made. -/
def perform (w : World) : Call → Bool × World
  | .set_output_value config active answers =>
    let (result, w) := set_output_value config active answers w
    (result.isOk, w)
  | .set_input_mode config answers =>
    let (result, w) := set_input_mode config answers w
    (result.isOk, w)
  | .get_output_value config answers =>
    let (result, w) := get_output_value config answers w
    (result.isOk, w)
  | .release_output_value config => (true, release_output_value config w)
  | .construct id config =>
    if (w.lines (.object id)).isSome then (false, w)
    else (true, w.put (.object id) (some { config := config }) w.log)
  | .set_value id active answers =>
    let (result, w) := w.modify id fun line => line.set_value (.object id) active answers
    (result.any (·.isOk), w)
  | .set_input id answers =>
    let (result, w) := w.modify id fun line => line.set_input (.object id) answers
    (result.any (·.isOk), w)
  | .get_value id answers =>
    let (result, w) := w.modify id fun line => line.get_value (.object id) answers
    (result.any (·.isOk), w)
  | .release id =>
    let (result, w) := w.modify id fun line log => ((), line.release_locked log)
    (result.isSome, w)
  | .destroy id => (true, w.destroy (.object id))

/-- A run. -/
def run (w : World) (calls : List Call) : World := calls.foldl (fun w call => (perform w call).2) w

/-! ## Agreement -/

/-- A line agrees with the kernel, and who has no line has no request. -/
def Kept (holder : Holder) (line : Option OutputLine) (log : Log) : Prop :=
  match line with
  | some line => line.Holds holder log
  | none => held log holder = []

theorem OutputLine.Holds.kept {holder : Holder} {line : OutputLine} {log : Log}
    (h : line.Holds holder log) : Kept holder (some line) log := h

theorem Kept.frame {holder : Holder} {line : Option OutputLine} {log log' : Log}
    (h : Kept holder line log) (hheld : held log' holder = held log holder) :
    Kept holder line log' := by
  cases line with
  | some line => exact OutputLine.Holds.frame h hheld
  | none => exact hheld.trans h

/-- The lines and the kernel agree. -/
structure World.Agrees (w : World) : Prop where
  sound : Sound w.log
  lines : ∀ holder, Kept holder (w.lines holder) w.log

namespace World

@[simp] theorem put_lines_self (w : World) (holder : Holder) (line : Option OutputLine)
    (log : Log) : (w.put holder line log).lines holder = line := Function.update_self ..

theorem put_lines_other (w : World) {holder other : Holder} (h : other ≠ holder)
    (line : Option OutputLine) (log : Log) :
    (w.put holder line log).lines other = w.lines other := Function.update_of_ne h ..

section

variable {w : World} {holder : Holder} {log : Log}

theorem agrees_empty : ({} : World).Agrees := ⟨trivial, fun _ => rfl⟩

/-- What one line does is nothing to the others. -/
theorem Agrees.put (h : w.Agrees) (hgoes : Sound.Goes holder w.log log)
    {line : Option OutputLine} (hline : Kept holder line log) : (w.put holder line log).Agrees := by
  refine ⟨hgoes.sound, fun other => ?_⟩
  by_cases hsame : other = holder
  · subst hsame
    rw [put_lines_self]
    exact hline
  · rw [put_lines_other w hsame]
    exact (h.lines other).frame (hgoes.others other hsame)

theorem Agrees.holds (h : w.Agrees) {line : OutputLine} (hline : w.lines holder = some line) :
    line.Holds holder w.log := by
  have hkept := h.lines holder
  rwa [hline] at hkept

theorem Agrees.held_eq_nil (h : w.Agrees) (hline : w.lines holder = none) :
    held w.log holder = [] := by
  have hkept := h.lines holder
  rwa [hline] at hkept

/-- A line that is made for a key has no request. -/
theorem Agrees.registered_holds (h : w.Agrees) (config : OutputLineConfig) :
    (w.registered config).Holds (.registered (line_key config)) w.log := by
  unfold World.registered
  cases hline : w.lines (.registered (line_key config)) with
  | none => exact .inl ⟨rfl, rfl, h.held_eq_nil hline⟩
  | some line => exact h.holds hline

theorem Agrees.destroy (h : w.Agrees) (holder : Holder) :
    (w.destroy holder).Agrees ∧ Sound.Goes holder w.log (w.destroy holder).log ∧
      held (w.destroy holder).log holder = [] := by
  unfold World.destroy
  cases hline : w.lines holder with
  | none => exact ⟨h, .refl h.sound, h.held_eq_nil hline⟩
  | some line =>
    obtain ⟨released, log, hrelease, hgoes, hreleased⟩ :=
      OutputLine.release_locked_spec (h.holds hline) h.sound
    dsimp only
    rw [hrelease]
    exact ⟨h.put hgoes hreleased.held, hgoes, hreleased.held⟩

end

end World

/-! ## What calls promise -/

/-- The line of the configuration is requested as an output, and the level was the last thing that
was read. -/
def World.OutputRead (holder : Holder) (config : OutputLineConfig) (active : Bool) (w : World) :
    Prop :=
  ∃ line, w.lines holder = some line ∧ line.config = config ∧ line.Requested holder .OUTPUT w.log ∧
    ∃ before, w.log = .used line.request (.get_value (OutputLine.level active)) :: before

/-- The line of the configuration is requested as an input. -/
def World.InputRequested (holder : Holder) (config : OutputLineConfig) (w : World) : Prop :=
  ∃ line, w.lines holder = some line ∧ line.config = config ∧ line.Requested holder .INPUT w.log

/-- What a call promises if it succeeds, of the lines before it and after it: the service speaks of
the line that it is asked for, and an object of the line that it was made for. -/
def Call.Promise (w w' : World) : Call → Prop
  | .set_output_value config active _ =>
    w'.OutputRead (.registered (line_key config)) config active
  | .set_input_mode config _ => w'.InputRequested (.registered (line_key config)) config
  | .set_value id active _ =>
    ∃ line, w.lines (.object id) = some line ∧ w'.OutputRead (.object id) line.config active
  | .set_input id _ =>
    ∃ line, w.lines (.object id) = some line ∧ w'.InputRequested (.object id) line.config
  | .release_output_value config => held w'.log (.registered (line_key config)) = []
  | .release id => held w'.log (.object id) = []
  | .destroy id => held w'.log (.object id) = []
  | .construct id config => w'.lines (.object id) = some { config := config }
  | .get_output_value _ _ => True
  | .get_value _ _ => True

/-- If the kernel does what the service wants of the line under the key, that line was made for the
configuration. -/
def Call.Meets (w : World) : Call → Prop
  | .set_output_value config active answers =>
    (w.registered config).Accepts answers → OutputLine.ReadsBack active answers →
      (w.registered config).config = config
  | .set_input_mode config answers =>
    answers.Grants .INPUT → (w.registered config).config = config
  | _ => True

theorem isOk_iff {result : Except String Unit} : result.isOk = true ↔ result = .ok () := by
  cases result with
  | ok value => exact iff_of_true rfl rfl
  | error error_message => exact ⟨nofun, nofun⟩

section

variable {w : World} {holder : Holder}

/-- `set_value` of a line, wherever it is kept. -/
theorem put_set_value (h : w.Agrees) {line : OutputLine} (hline : line.Holds holder w.log)
    (active : Bool) (answers : SetAnswers) :
    ∃ result line' log, line.set_value holder active answers w.log = (result, line', log) ∧
      OutputLine.SetTo holder active (line.Accepts answers) (OutputLine.ReadsBack active answers)
        w.log result line' log ∧
      (w.put holder (some line') log).Agrees := by
  obtain ⟨result, line', log, hset, hsetTo⟩ :=
    OutputLine.set_value_spec hline h.sound active answers
  have hholds : line'.Holds holder log := by
    by_cases haccepted : line.Accepts answers
    · exact .inr ⟨_, hsetTo.output haccepted⟩
    · exact .inl (hsetTo.released haccepted)
  exact ⟨result, line', log, hset, hsetTo, h.put hsetTo.goes hholds⟩

/-- A success is an output that reads back. -/
theorem outputRead_of_setTo {active : Bool} {accepted back : Prop} {line' : OutputLine} {log : Log}
    {result : Except String Unit}
    (h : OutputLine.SetTo holder active accepted back w.log result line' log)
    {config : OutputLineConfig} (hconfig : line'.config = config) (hok : result.isOk = true) :
    (w.put holder (some line') log).OutputRead holder config active := by
  have hok := isOk_iff.1 hok
  exact ⟨line', World.put_lines_self .., hconfig, h.output (h.ok.1 hok).1, h.read hok⟩

theorem put_set_input (h : w.Agrees) {line : OutputLine} (hline : line.Holds holder w.log)
    (answers : RequestAnswers) :
    ∃ result line' log, line.set_input holder answers w.log = (result, line', log) ∧
      (w.put holder (some line') log).Agrees ∧ (result.isOk = true ↔ answers.Grants .INPUT) ∧
      ∀ config, line'.config = config → result.isOk = true →
        (w.put holder (some line') log).InputRequested holder config := by
  obtain ⟨result, line', log, hset, hgoes, hholds, hinput, hok⟩ :=
    OutputLine.set_input_spec hline h.sound answers
  refine ⟨result, line', log, hset, h.put hgoes hholds, isOk_iff.trans hok, ?_⟩
  intro config hconfig hok
  exact ⟨line', World.put_lines_self .., hconfig, hinput (isOk_iff.1 hok)⟩

/-- The line that was put is the one that is spoken of. -/
theorem config_of_outputRead {line : OutputLine} {log : Log} {config : OutputLineConfig}
    {active : Bool} (h : (w.put holder (some line) log).OutputRead holder config active) :
    line.config = config := by
  obtain ⟨found, hfound, hconfig, -⟩ := h
  rw [World.put_lines_self] at hfound
  exact Option.some.inj hfound ▸ hconfig

theorem config_of_inputRequested {line : OutputLine} {log : Log} {config : OutputLineConfig}
    (h : (w.put holder (some line) log).InputRequested holder config) : line.config = config := by
  obtain ⟨found, hfound, hconfig, -⟩ := h
  rw [World.put_lines_self] at hfound
  exact Option.some.inj hfound ▸ hconfig

theorem put_get_value (h : w.Agrees) {line : OutputLine} (hline : line.Holds holder w.log)
    (answers : GetAnswers) :
    ∃ result line' log, line.get_value holder answers w.log = (result, line', log) ∧
      (w.put holder (some line') log).Agrees := by
  obtain ⟨result, line', log, hget, hgoes, hholds⟩ :=
    OutputLine.get_value_spec hline h.sound answers
  exact ⟨result, line', log, hget, h.put hgoes hholds⟩

/-- A request that is made for the moment is released with it. -/
theorem get_output_value_agrees (h : w.Agrees) (config : OutputLineConfig) (answers : GetAnswers) :
    (get_output_value config answers w).2.Agrees := by
  unfold get_output_value
  dsimp only
  cases hline : w.lines (.registered (line_key config)) with
  | some line =>
    obtain ⟨result, line', log, hget, hagrees⟩ := put_get_value h (h.holds hline) answers
    dsimp only
    rw [hget]
    exact hagrees
  | none =>
    obtain ⟨result, log, hread, hgoes, hheld⟩ :=
      OutputLine.read_line_value_preserving_direction_spec (h.held_eq_nil hline) h.sound config
        answers
    -- nobody has a line for the key, before and after
    have hput : ∀ log',
        { w with log := log' } = w.put (.registered (line_key config)) none log' := by
      intro log'
      rw [World.put, ← hline, Function.update_eq_self]
    dsimp only
    rw [hread]
    cases result with
    | error error_message =>
      dsimp only
      rw [hput]
      exact h.put hgoes hheld
    | ok read =>
      obtain ⟨initial_value, hone⟩ := hheld
      obtain ⟨hgoes', hnone⟩ := hgoes.sound.release hone
      dsimp only
      rw [hput]
      exact h.put (hgoes.trans hgoes') hnone

theorem put_release (h : w.Agrees) {line : OutputLine} (hline : line.Holds holder w.log) :
    ∃ line' log, line.release_locked w.log = (line', log) ∧
      (w.put holder (some line') log).Agrees ∧ Sound.Goes holder w.log log ∧
      held log holder = [] := by
  obtain ⟨released, log, hrelease, hgoes, hreleased⟩ :=
    OutputLine.release_locked_spec hline h.sound
  exact ⟨released, log, hrelease, h.put hgoes (OutputLine.Holds.kept (.inl hreleased)), hgoes,
    hreleased.held⟩

theorem release_output_value_agrees (h : w.Agrees) (config : OutputLineConfig) :
    (release_output_value config w).Agrees ∧
      Sound.Goes (.registered (line_key config)) w.log (release_output_value config w).log ∧
      held (release_output_value config w).log (.registered (line_key config)) = [] := by
  unfold release_output_value
  dsimp only
  cases hline : w.lines (.registered (line_key config)) with
  | none => exact ⟨h, .refl h.sound, h.held_eq_nil hline⟩
  | some line =>
    obtain ⟨line', log, hrelease, hagrees, hgoes, -⟩ := put_release h (h.holds hline)
    obtain ⟨hagrees', hgoes', hheld⟩ := hagrees.destroy (.registered (line_key config))
    dsimp only
    rw [hrelease]
    exact ⟨hagrees', hgoes.trans hgoes', hheld⟩

/-- A success is about the configuration exactly if the line of its key was made for it. -/
theorem set_output_value_agrees (h : w.Agrees) (config : OutputLineConfig) (active : Bool)
    (answers : SetAnswers) :
    (set_output_value config active answers w).2.Agrees ∧
      (((set_output_value config active answers w).1.isOk = true →
        (set_output_value config active answers w).2.OutputRead (.registered (line_key config))
          config active) ↔
        ((w.registered config).Accepts answers → OutputLine.ReadsBack active answers →
          (w.registered config).config = config)) := by
  obtain ⟨result, line', log, hset, hsetTo, hagrees⟩ :=
    put_set_value h (h.registered_holds config) active answers
  have hconfig := OutputLine.set_value_config (.registered (line_key config))
    (w.registered config) active answers w.log
  unfold set_output_value
  dsimp only
  rw [hset] at hconfig ⊢
  refine ⟨hagrees, fun hpromise haccepts hback => ?_, fun hmeets hok => ?_⟩
  · exact hconfig.symm.trans
      (config_of_outputRead (hpromise (isOk_iff.2 (hsetTo.ok.2 ⟨haccepts, hback⟩))))
  · obtain ⟨haccepts, hback⟩ := hsetTo.ok.1 (isOk_iff.1 hok)
    exact outputRead_of_setTo hsetTo (hconfig.trans (hmeets haccepts hback)) hok

/-- So it is with an input. -/
theorem set_input_mode_agrees (h : w.Agrees) (config : OutputLineConfig)
    (answers : RequestAnswers) :
    (set_input_mode config answers w).2.Agrees ∧
      (((set_input_mode config answers w).1.isOk = true →
        (set_input_mode config answers w).2.InputRequested (.registered (line_key config))
          config) ↔
        (answers.Grants .INPUT → (w.registered config).config = config)) := by
  obtain ⟨result, line', log, hset, hagrees, hgrants, hpromise⟩ :=
    put_set_input h (h.registered_holds config) answers
  have hconfig := OutputLine.set_input_config (.registered (line_key config))
    (w.registered config) answers w.log
  unfold set_input_mode
  dsimp only
  rw [hset] at hconfig ⊢
  refine ⟨hagrees, fun hkept hanswers => ?_, fun hmeets hok => ?_⟩
  · exact hconfig.symm.trans (config_of_inputRequested (hkept (hgrants.2 hanswers)))
  · exact hpromise config (hconfig.trans (hmeets (hgrants.1 hok))) hok

/-- An operation of an object, if the object is there. -/
theorem modify_agrees {α : Type} (h : w.Agrees) {id : ℕ}
    {operation : OutputLine → Log → α × OutputLine × Log} (ok : α → Bool)
    (promise : OutputLine → World → Prop)
    (hoperation : ∀ line, line.Holds (.object id) w.log →
      ∃ result line' log, operation line w.log = (result, line', log) ∧
        (w.put (.object id) (some line') log).Agrees ∧
        (ok result = true → promise line (w.put (.object id) (some line') log))) :
    (w.modify id operation).2.Agrees ∧
      ((w.modify id operation).1.any ok = true →
        ∃ line, w.lines (.object id) = some line ∧ promise line (w.modify id operation).2) := by
  unfold World.modify
  cases hline : w.lines (.object id) with
  | none => exact ⟨h, fun hok => nomatch hok⟩
  | some line =>
    obtain ⟨result, line', log, hresult, hagrees, hpromise⟩ := hoperation line (h.holds hline)
    dsimp only
    rw [hresult]
    exact ⟨hagrees, fun hok => ⟨line, rfl, hpromise hok⟩⟩

/-- Every call keeps the agreement, and what it promises it keeps exactly if it is asked for the
line that it finds. -/
theorem perform_agrees (h : w.Agrees) (call : Call) :
    (perform w call).2.Agrees ∧
      (((perform w call).1 = true → call.Promise w (perform w call).2) ↔ call.Meets w) := by
  cases call with
  | set_output_value config active answers => exact set_output_value_agrees h config active answers
  | set_input_mode config answers => exact set_input_mode_agrees h config answers
  | get_output_value config answers =>
    exact ⟨get_output_value_agrees h config answers, iff_of_true (fun _ => trivial) trivial⟩
  | release_output_value config =>
    obtain ⟨hagrees, -, hheld⟩ := release_output_value_agrees h config
    exact ⟨hagrees, iff_of_true (fun _ => hheld) trivial⟩
  | construct id config =>
    unfold perform
    dsimp only
    by_cases hsome : (w.lines (.object id)).isSome = true
    · rw [if_pos hsome]
      exact ⟨h, iff_of_true (fun hok => nomatch hok) trivial⟩
    · have hheld := h.held_eq_nil (Option.not_isSome_iff_eq_none.1 hsome)
      rw [if_neg hsome]
      exact ⟨h.put (.refl h.sound) (OutputLine.Holds.kept (.inl ⟨rfl, rfl, hheld⟩)),
        iff_of_true (fun _ => World.put_lines_self ..) trivial⟩
  | set_value id active answers =>
    have hset : ∀ line : OutputLine, line.Holds (.object id) w.log → ∃ result line' log,
        line.set_value (.object id) active answers w.log = (result, line', log) ∧
          (w.put (.object id) (some line') log).Agrees ∧ (result.isOk = true →
            (w.put (.object id) (some line') log).OutputRead (.object id) line.config active) := by
      intro line hline
      obtain ⟨result, line', log, hset, hsetTo, hagrees⟩ := put_set_value h hline active answers
      have hconfig := OutputLine.set_value_config (.object id) line active answers w.log
      rw [hset] at hconfig
      exact ⟨result, line', log, hset, hagrees, outputRead_of_setTo hsetTo hconfig⟩
    obtain ⟨hagrees, hpromise⟩ := modify_agrees h Except.isOk
      (fun line w' => w'.OutputRead (.object id) line.config active) hset
    exact ⟨hagrees, iff_of_true hpromise trivial⟩
  | set_input id answers =>
    have hset : ∀ line : OutputLine, line.Holds (.object id) w.log → ∃ result line' log,
        line.set_input (.object id) answers w.log = (result, line', log) ∧
          (w.put (.object id) (some line') log).Agrees ∧ (result.isOk = true →
            (w.put (.object id) (some line') log).InputRequested (.object id) line.config) := by
      intro line hline
      obtain ⟨result, line', log, hset, hagrees, -, hpromise⟩ := put_set_input h hline answers
      have hconfig := OutputLine.set_input_config (.object id) line answers w.log
      rw [hset] at hconfig
      exact ⟨result, line', log, hset, hagrees, hpromise line.config hconfig⟩
    obtain ⟨hagrees, hpromise⟩ := modify_agrees h Except.isOk
      (fun line w' => w'.InputRequested (.object id) line.config) hset
    exact ⟨hagrees, iff_of_true hpromise trivial⟩
  | get_value id answers =>
    have hget : ∀ line : OutputLine, line.Holds (.object id) w.log → ∃ result line' log,
        line.get_value (.object id) answers w.log = (result, line', log) ∧
          (w.put (.object id) (some line') log).Agrees ∧ (result.isOk = true → True) := by
      intro line hline
      obtain ⟨result, line', log, hget, hagrees⟩ := put_get_value h hline answers
      exact ⟨result, line', log, hget, hagrees, fun _ => trivial⟩
    exact ⟨(modify_agrees h Except.isOk (fun _ _ => True) hget).1,
      iff_of_true (fun _ => trivial) trivial⟩
  | release id =>
    have hrelease : ∀ line : OutputLine, line.Holds (.object id) w.log → ∃ result line' log,
        ((), line.release_locked w.log) = (result, line', log) ∧
          (w.put (.object id) (some line') log).Agrees ∧
          (true = true → held log (.object id) = []) := by
      intro line hline
      obtain ⟨line', log, hrelease, hagrees, -, hheld⟩ := put_release h hline
      exact ⟨(), line', log, congrArg _ hrelease, hagrees, fun _ => hheld⟩
    obtain ⟨hagrees, hpromise⟩ := @modify_agrees w Unit h id
      (fun line log => ((), line.release_locked log)) (fun _ => true)
      (fun _ w => held w.log (.object id) = []) hrelease
    rw [Option.any_true] at hpromise
    exact ⟨hagrees, iff_of_true (fun hok => (hpromise hok).elim fun _ h => h.2) trivial⟩
  | destroy id =>
    obtain ⟨hagrees, -, hheld⟩ := h.destroy (.object id)
    exact ⟨hagrees, iff_of_true (fun _ => hheld) trivial⟩

theorem run_agrees (h : w.Agrees) (calls : List Call) : (run w calls).Agrees := by
  induction calls generalizing w with
  | nil => exact h
  | cons call calls ih => exact ih (perform_agrees h call).1

end

/-! ## Runs -/

/-- What the stored request and the mode of a line say of the outstanding requests. -/
structure Truthful (holder : Holder) (line : OutputLine) (log : Log) : Prop where
  request : line.request.isSome = true ↔ held log holder ≠ []
  /-- The stored request is the outstanding one. -/
  same : (held log holder).map (·.id) = line.request.toList
  output_mode : line.output_mode = true ↔ ∃ made ∈ held log holder, made.tag.direction = .OUTPUT
  config : ∀ made ∈ held log holder, made.tag.config = line.config

theorem OutputLine.Holds.truthful {holder : Holder} {line : OutputLine} {log : Log}
    (h : line.Holds holder log) : Truthful holder line log := by
  rcases h with ⟨hrequest, hmode, hnone⟩ |
    ⟨direction, hmode, request, initial_value, hrequest, hone⟩
  · constructor <;> simp [hrequest, hmode, hnone]
  · constructor <;> simp [hrequest, hmode, hone]

/-- The line of the chip that is requested. -/
def LineRequest.place (request : LineRequest) : String × UInt32 :=
  (request.config.chip_path, request.config.line_offset)

/-- In every run of the process, whatever the kernel answers: at no moment, also within a call, has
a line two requests; the stored requests and modes are those of the outstanding requests, of which
each belongs to a line; and every further call that succeeds keeps its promise exactly if the
service finds under its key the line that it is asked for. A line of the chip, which several
`OutputLine`s may want, has no two requests either if the kernel refuses a line that is
requested. -/
theorem line_ownership_iff (calls : List Call) :
    let w := run {} calls
    (∀ moment, moment <:+ w.log → ∀ holder, (held moment holder).length ≤ 1) ∧
      (∀ holder line, w.lines holder = some line → Truthful holder line w.log) ∧
      (∀ holder, w.lines holder = none → held w.log holder = []) ∧
      (∀ call, ((perform w call).1 = true → call.Promise w (perform w call).2) ↔ call.Meets w) ∧
      (Exclusive LineRequest.place w.log → ∀ moment, moment <:+ w.log →
        ((outstanding moment).map fun made => made.tag.place).Nodup) := by
  have h := run_agrees World.agrees_empty calls
  exact ⟨fun moment hmoment holder => (h.sound.suffix hmoment).length_held_le holder,
    fun holder line hline => (h.holds hline).truthful, fun holder => h.held_eq_nil,
    fun call => (perform_agrees h call).2,
    fun hexclusive moment hmoment => (hexclusive.suffix hmoment).nodup⟩

/-- The kernel grants everything. -/
def granting : RequestAnswers :=
  { chip_open := true, settings_new := true, line_config_new := true, request_config_new := true
    set_direction := 0, set_drive := 0, set_output_value := 0, add_line_settings := 0
    request_lines := true, errno := "" }

/-- A value that is set at once and reads back. -/
def setting (active : Bool) : SetAnswers :=
  let read := ⟨OutputLine.level active, ""⟩
  ⟨granting, 0, read, granting, 0, read, ""⟩

/-- Two lines with the key `/dev/gpiochip0:1:2:c`: the second call succeeds for the line of the
first. -/
theorem colliding_keys : ¬ ∀ (calls : List Call) (call : Call),
    (perform (run {} calls) call).1 = true →
      call.Promise (run {} calls) (perform (run {} calls) call).2 := by
  intro hclaim
  obtain ⟨line, hline, hconfig, -⟩ := hclaim
    [.set_output_value ⟨"/dev/gpiochip0:1", 2, "c"⟩ true (setting true)]
    (.set_output_value ⟨"/dev/gpiochip0", 1, "2:c"⟩ true (setting true)) (by decide +kernel)
  have hfirst : ((perform (run {} [.set_output_value ⟨"/dev/gpiochip0:1", 2, "c"⟩ true
      (setting true)]) (.set_output_value ⟨"/dev/gpiochip0", 1, "2:c"⟩ true (setting true))).2.lines
        (.registered (line_key ⟨"/dev/gpiochip0", 1, "2:c"⟩))).map (·.config) =
      some ⟨"/dev/gpiochip0:1", 2, "c"⟩ := by
    decide +kernel
  rw [hline, Option.map_some, hconfig] at hfirst
  exact absurd hfirst (by decide)

end FactoryTest.Gpio

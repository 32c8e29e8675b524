import FactoryTest.Gpio.Ownership

/-!
# What the operations of a line do

Each operation of an `OutputLine` goes on with the log as the holder of the line: it has requests
made for the line in one direction only, and uses or releases only what the line holds.

**Theorem (`set_value_grows`, `set_input_grows`, `get_value_grows`).** The requests that are made
are those of an output, of an input, and of the line as it is. Only `set_value` drives the line.
-/

namespace FactoryTest.Gpio

/-- The requests for a line in a direction. -/
def Made (config : OutputLineConfig) (direction : Direction) (made : LineRequest) : Prop :=
  made.config = config ∧ made.direction = direction

/-- Nothing is driven. -/
def Access.Reads : Access → Prop
  | .get_value _ => True
  | .set_value _ _ => False

section

variable {holder : Holder} {direction : Direction} {line : OutputLine} {log : Log}
  {made : LineRequest → Prop} {done : Access → Prop}

theorem request_line_grows (holder : Holder) (config : OutputLineConfig) (direction : Direction)
    (initial_value : LineValue) (answers : RequestAnswers) (log : Log) :
    Grows holder (Made config direction) done log
      (request_line holder config direction initial_value answers log).2 := by
  by_cases hgrants : answers.Grants direction
  · rw [request_line_granted hgrants]
    have hmade : Made config direction ⟨config, direction, initial_value⟩ := ⟨rfl, rfl⟩
    apply Grows.event .refl
    exact .granted _ hmade
  · obtain ⟨message, hrefused⟩ := request_line_refused hgrants holder config initial_value log
    rw [hrefused]
    exact .refl

namespace OutputLine

theorem release_locked_grows (made : LineRequest → Prop) (done : Access → Prop)
    (h : line.Holds holder log) : Grows holder made done log (release_locked line log).2 := by
  unfold release_locked
  rcases h with ⟨hrequest, -, -⟩ | ⟨direction, -, request, initial_value, hrequest, hone⟩
  · rw [hrequest]
    exact .refl
  · rw [hrequest]
    apply Grows.event .refl
    exact .released ⟨request, holder, line.config, direction, initial_value⟩ (by simp [hone])

theorem request_line_locked_grows (done : Access → Prop) (holder : Holder) (line : OutputLine)
    (direction : Direction) (initial_value : LineValue) (answers : RequestAnswers) (log : Log) :
    Grows holder (Made line.config direction) done log
      (request_line_locked holder line direction initial_value answers log).2.2 := by
  have hgrows : Grows holder (Made line.config direction) done log _ :=
    request_line_grows holder line.config direction initial_value answers log
  unfold request_line_locked
  cases hrequest : request_line holder line.config direction initial_value answers log with
  | mk result log' =>
    rw [hrequest] at hgrows
    cases result with
    | error message => exact hgrows
    | ok request => exact hgrows

/-- The line uses its request. -/
theorem Requested.grows (h : line.Requested holder direction log) (access : Access)
    (hdone : done access) : Grows holder made done log (.used line.request access :: log) := by
  obtain ⟨-, request, initial_value, hrequest, hheld⟩ := h
  rw [hrequest]
  apply Grows.event .refl
  exact .used ⟨request, holder, line.config, direction, initial_value⟩ access (by simp [hheld])
    hdone

theorem read_back_grows (made : LineRequest → Prop) (done : Access → Prop)
    (h : line.Requested holder direction log) (active : Bool) (mismatch : String)
    (answer : ReadAnswer) (hdone : done (.get_value answer.value)) :
    Grows holder made done log (read_back line active mismatch answer log).2.2 := by
  obtain ⟨result, hread, -⟩ := read_back_spec line active mismatch answer log
  rw [hread]
  exact h.grows _ hdone

theorem request_output_grows (done : Access → Prop) (h : line.Holds holder log) (active : Bool)
    (answers : SetAnswers) :
    Grows holder (Made line.config .OUTPUT) done log
      (request_output holder line active answers log).2.2 := by
  unfold request_output
  split_ifs
  · have hrequest := request_line_locked_grows done holder (release_locked line log).1 .OUTPUT
      (level active) answers.request (release_locked line log).2
    rw [release_locked_config] at hrequest
    exact (release_locked_grows _ done h).trans hrequest
  · exact .refl

theorem retry_value_grows (h : line.Requested holder .OUTPUT log) (hsound : Sound log)
    (active : Bool) (answers : SetAnswers) :
    Grows holder (Made line.config .OUTPUT) (fun _ => True) log
      (retry_value holder line active answers log).2.2 := by
  have hholds : line.Holds holder log := .inr ⟨_, h⟩
  obtain ⟨released, log₁, hrelease, hgoes₁, hreleased⟩ := release_locked_spec hholds hsound
  have hgrows₁ := release_locked_grows (Made line.config .OUTPUT) (fun _ => True) hholds
  rw [hrelease] at hgrows₁
  have hgrows₂ := request_line_locked_grows (fun _ => True) holder released .OUTPUT
    (level active) answers.retry_request log₁
  have hconfig := release_locked_config line log
  rw [hrelease] at hconfig
  rw [hconfig] at hgrows₂
  unfold retry_value
  rw [hrelease]
  dsimp only
  by_cases hgrants : answers.retry_request.Grants .OUTPUT
  · obtain ⟨line₂, log₂, hrequest, hgoes₂, hrequested⟩ :=
      request_line_locked_granted hreleased hgoes₁.sound hgrants (level active)
    rw [hrequest] at hgrows₂ ⊢
    obtain ⟨hgoes₃, hused⟩ :=
      hrequested.used hgoes₂.sound (.set_value (level active) answers.retry_set)
    have hgrows₃ := (hgrows₁.trans hgrows₂).trans (hrequested.grows
      (.set_value (level active) answers.retry_set) trivial)
    dsimp only
    split_ifs
    · exact hgrows₃.trans (read_back_grows _ _ hused active
        "GPIO output readback mismatch after retry" answers.retry_read trivial)
    · exact hgrows₃.trans (release_locked_grows _ _ (.inr ⟨_, hused⟩))
  · obtain ⟨message, hrefused⟩ :=
      request_line_locked_refused hgrants holder released (level active) log₁
    rw [hrefused]
    exact hgrows₁

/-- Setting a line asks for it as an output. -/
theorem set_value_grows (h : line.Holds holder log) (hsound : Sound log) (active : Bool)
    (answers : SetAnswers) :
    Grows holder (Made line.config .OUTPUT) (fun _ => True) log
      (set_value holder line active answers log).2.2 := by
  have hgrows₁ := request_output_grows (fun _ => True) h active answers
  have hconfig := request_output_config holder line active answers log
  unfold set_value
  by_cases hgrants : line.output_mode = true ∨ answers.request.Grants .OUTPUT
  · obtain ⟨line₁, log₁, hrequest, hgoes₁, hrequested⟩ :=
      request_output_granted h hsound hgrants active
    rw [hrequest] at hgrows₁ hconfig ⊢
    obtain ⟨hgoes₂, hused⟩ := hrequested.used hgoes₁.sound (.set_value (level active) answers.set)
    have hgrows₂ := hgrows₁.trans (hrequested.grows
      (.set_value (level active) answers.set) trivial)
    dsimp only
    split_ifs
    · exact hgrows₂.trans (read_back_grows _ _ hused active "GPIO output readback mismatch"
        answers.read trivial)
    · have hgrows₃ := retry_value_grows hused hgoes₂.sound active answers
      rw [show line₁.config = line.config from hconfig] at hgrows₃
      exact hgrows₂.trans hgrows₃
  · obtain ⟨message, line', log', hrefused, -, -⟩ :=
      request_output_refused h hsound hgrants active
    rw [hrefused] at hgrows₁ ⊢
    exact hgrows₁

/-- A line that is set to be an input asks for nothing else. -/
theorem set_input_grows (h : line.Holds holder log) (answers : RequestAnswers) :
    Grows holder (Made line.config .INPUT) Access.Reads log
      (set_input holder line answers log).2.2 := by
  have hrequest := request_line_locked_grows Access.Reads holder (release_locked line log).1
    .INPUT .INACTIVE answers (release_locked line log).2
  rw [release_locked_config] at hrequest
  exact (release_locked_grows _ _ h).trans hrequest

/-- A line that cannot be an input is left without a request. -/
theorem set_input_error (h : line.Holds holder log) (hsound : Sound log)
    {answers : RequestAnswers} {released : OutputLine} {log' : Log} {message : String}
    (hset : set_input holder line answers log = (.error message, released, log')) :
    released.Released holder log' := by
  obtain ⟨line₁, log₁, hrelease, hgoes, hreleased⟩ := release_locked_spec h hsound
  unfold set_input at hset
  rw [hrelease] at hset
  by_cases hgrants : answers.Grants .INPUT
  · obtain ⟨line₂, log₂, hrequest, -⟩ :=
      request_line_locked_granted hreleased hgoes.sound hgrants .INACTIVE
    simp [hrequest] at hset
  · obtain ⟨error_message, hrefused⟩ :=
      request_line_locked_refused hgrants holder line₁ .INACTIVE log₁
    simp only [hrefused, Prod.mk.injEq] at hset
    rw [← hset.2.1, ← hset.2.2]
    exact hreleased

end OutputLine

/-! ## What is read -/

/-- What reading a line of the chip answers. -/
def reading (config : OutputLineConfig) (made : LineRequest) : Access → Option LineValue
  | .get_value value => if made.config = config then some value else none
  | .set_value _ _ => none

/-- The value that was last read of a line, whoever read it. -/
abbrev last_read (config : OutputLineConfig) (log : Log) : Option LineValue :=
  latest (reading config) log

theorem last_read_used (h : line.Requested holder direction log) (hsound : Sound log)
    (value : LineValue) :
    last_read line.config (.used line.request (.get_value value) :: log) = some value := by
  obtain ⟨-, request, initial_value, hrequest, hheld⟩ := h
  have hmem : ⟨request, holder, line.config, direction, initial_value⟩ ∈ held log holder := by
    simp [hheld]
  rw [hrequest, last_read, latest_used hsound (mem_held.1 hmem).1]
  simp [reading]

/-- Other lines of the chip are not read. -/
theorem last_read_grows {config other : OutputLineConfig} {log' : Log}
    (h : Grows holder (fun made => made.config = other) done log log') (hsound : Sound log')
    (hheld : ∀ made ∈ held log holder, made.tag.config = other) (hne : other ≠ config) :
    last_read config log' = last_read config log := by
  apply h.latest_eq hsound hheld
  intro tag htag use
  cases use with
  | get_value value => simp [reading, htag, hne]
  | set_value value result => rfl

theorem read_requested_value_eq (request : Option ℕ) (answer : ReadAnswer) (log : Log) :
    ∃ result, read_requested_value request answer log =
        (result, .used request (.get_value answer.value) :: log) ∧
      ∀ active, result = .ok active → answer.value = OutputLine.level active := by
  unfold read_requested_value
  cases answer.value with
  | ERROR => exact ⟨_, rfl, fun _ h => nomatch h⟩
  | INACTIVE =>
    refine ⟨_, rfl, fun active h => ?_⟩
    simp [← Except.ok.inj h, OutputLine.level]
  | ACTIVE =>
    refine ⟨_, rfl, fun active h => ?_⟩
    simp [← Except.ok.inj h, OutputLine.level]

/-- A line that has a request is read with it. -/
theorem OutputLine.get_value_requested (made : LineRequest → Prop)
    (h : line.Requested holder direction log) (hsound : Sound log) (answers : GetAnswers) :
    ∃ result log', get_value holder line answers log = (result, line, log') ∧
      Grows holder made Access.Reads log log' ∧ Sound.Goes holder log log' ∧
      line.Requested holder direction log' ∧
      ∀ active, result = .ok active → last_read line.config log' = some (level active) := by
  obtain ⟨request, -, hrequest, -⟩ := h.held
  obtain ⟨result, hread, hvalue⟩ := read_requested_value_eq line.request answers.read log
  obtain ⟨hgoes, hused⟩ := h.used hsound (.get_value answers.read.value)
  refine ⟨result, _, ?_, h.grows (.get_value answers.read.value) trivial, hgoes, hused,
    fun active hok => ?_⟩
  · unfold get_value
    rw [hrequest] at hread ⊢
    dsimp only
    rw [hread]
  · rw [last_read_used h hsound, hvalue active hok]

/-- A line that the service does not keep is read as it is, and nothing is left of that. -/
theorem get_output_value_unkept {w : World} (h : w.Agrees) {config : OutputLineConfig}
    (hnone : w.lines (.registered (line_key config)) = none) (answers : GetAnswers) :
    ∃ result log', get_output_value config answers w = (result, { w with log := log' }) ∧
      Grows (.registered (line_key config)) (Made config .AS_IS) Access.Reads w.log log' ∧
      Sound.Goes (.registered (line_key config)) w.log log' ∧
      held log' (.registered (line_key config)) = [] ∧
      ∀ active, result = .ok active → last_read config log' = some (OutputLine.level active) := by
  have hheld := h.held_eq_nil hnone
  unfold get_output_value read_line_value_preserving_direction
  dsimp only
  rw [hnone]
  by_cases hgrants : answers.request.Grants .AS_IS
  · -- The line is requested for the moment.
    let line : OutputLine := ⟨config, some w.log.length, false⟩
    have hgrows₁ : Grows (.registered (line_key config)) (Made config .AS_IS) Access.Reads
        w.log _ := request_line_grows _ config .AS_IS .INACTIVE answers.request w.log
    obtain ⟨hgoes₁, hone⟩ := h.sound.grant hheld (⟨config, .AS_IS, .INACTIVE⟩ : LineRequest)
    have hrequested : line.Requested (.registered (line_key config)) .AS_IS _ :=
      ⟨rfl, w.log.length, .INACTIVE, rfl, hone⟩
    obtain ⟨hgoes₂, hused⟩ := hrequested.used hgoes₁.sound (.get_value answers.read.value)
    obtain ⟨hgoes₃, hnone'⟩ := hgoes₂.sound.release ((held_used _ _).trans hone)
    have hgoes := (hgoes₁.trans hgoes₂).trans hgoes₃
    obtain ⟨result, hread, hvalue⟩ := read_requested_value_eq (some w.log.length) answers.read
      (.granted ⟨w.log.length, .registered (line_key config), config, .AS_IS, .INACTIVE⟩ :: w.log)
    have hlast := last_read_used hrequested hgoes₁.sound answers.read.value
    rw [request_line_granted hgrants] at hgrows₁ ⊢
    have hgrows₂ := hgrows₁.trans (hrequested.grows (.get_value answers.read.value) trivial)
    have hgrows₃ := hgrows₂.trans (OutputLine.release_locked_grows _ _ (.inr ⟨_, hused⟩))
    dsimp only
    rw [hread]
    cases result with
    | error message => exact ⟨_, _, rfl, hgrows₃, hgoes, hnone', fun _ hok => nomatch hok⟩
    | ok active =>
      refine ⟨_, _, rfl, hgrows₃, hgoes, hnone', fun active hok => ?_⟩
      rw [← hvalue active hok]
      exact hlast
  · obtain ⟨message, hrefused⟩ := request_line_refused hgrants (.registered (line_key config))
      config .INACTIVE w.log
    rw [hrefused]
    exact ⟨_, _, rfl, .refl, .refl h.sound, hheld, fun _ hok => nomatch hok⟩

end

/-! ## What a call does to the lines of the process -/

/-- The holder of a line of the chip acts, and does not drive it unless it says so. -/
structure World.Acts (holder : Holder) (config : OutputLineConfig) (drives : Bool)
    (w w' : World) : Prop where
  agrees : w'.Agrees
  others : ∀ other ≠ holder, w'.lines other = w.lines other
  same : ∀ line, w'.lines holder = some line → line.config = config
  goes : Sound.Goes holder w.log w'.log
  grows : Grows holder
    (fun made => made.config = config ∧ (drives = true ∨ made.direction ≠ .OUTPUT))
    (fun access => drives = true ∨ access.Reads) w.log w'.log

section

variable {w : World} {holder : Holder} {config : OutputLineConfig}

theorem Made.undriven {direction : Direction} (h : direction ≠ .OUTPUT) (made : LineRequest)
    (hmade : Made config direction made) :
    made.config = config ∧ (false = true ∨ made.direction ≠ .OUTPUT) :=
  ⟨hmade.1, .inr (hmade.2 ▸ h)⟩

theorem World.Agrees.acts_put (h : w.Agrees) {line : OutputLine} {log : Log} {drives : Bool}
    (hgoes : Sound.Goes holder w.log log) (hholds : line.Holds holder log)
    (hconfig : line.config = config)
    (hgrows : Grows holder
      (fun made => made.config = config ∧ (drives = true ∨ made.direction ≠ .OUTPUT))
      (fun access => drives = true ∨ access.Reads) w.log log) :
    World.Acts holder config drives w (w.put holder (some line) log) where
  agrees := h.put hgoes hholds.kept
  others other hother := World.put_lines_other w hother _ _
  same line' hline := by
    rw [World.put_lines_self] at hline
    exact Option.some.inj hline ▸ hconfig
  goes := hgoes
  grows := hgrows

theorem set_output_value_acts (h : w.Agrees)
    (hconfig : ∀ line, w.lines (.registered (line_key config)) = some line → line.config = config)
    (active : Bool) (answers : SetAnswers) :
    ∃ result line' log', set_output_value config active answers w =
        (result, w.put (.registered (line_key config)) (some line') log') ∧
      World.Acts (.registered (line_key config)) config true w
        (w.put (.registered (line_key config)) (some line') log') ∧
      (line'.Released (.registered (line_key config)) log' ∨
        line'.Requested (.registered (line_key config)) .OUTPUT log') ∧
      (result = .ok () → last_read config log' = some (OutputLine.level active)) := by
  have hregistered : (w.registered config).config = config := by
    unfold World.registered
    cases hline : w.lines (.registered (line_key config)) with
    | none => rfl
    | some line => exact hconfig line hline
  have hholds := h.registered_holds config
  obtain ⟨result, line', log', hset, hsetTo, hagrees⟩ := put_set_value h hholds active answers
  have hgrows := OutputLine.set_value_grows hholds h.sound active answers
  have hline' := OutputLine.set_value_config (.registered (line_key config)) (w.registered config)
    active answers w.log
  rw [hset, hregistered] at hgrows hline'
  have hline : line'.Released (.registered (line_key config)) log' ∨
      line'.Requested (.registered (line_key config)) .OUTPUT log' := by
    by_cases haccepted : (w.registered config).Accepts answers
    · exact .inr (hsetTo.output haccepted)
    · exact .inl (hsetTo.released haccepted)
  refine ⟨result, line', log', ?_, ?_, hline, ?_⟩
  · unfold set_output_value
    dsimp only
    rw [hset]
  · apply h.acts_put hsetTo.goes (hline.imp_right fun hrequested => ⟨_, hrequested⟩) hline'
    exact hgrows.mono (fun made hmade => ⟨hmade.1, .inl rfl⟩) fun _ _ => .inl rfl
  · intro hok
    obtain ⟨before, hread⟩ := hsetTo.read hok
    have hsound := hsetTo.goes.sound
    -- The request that was used last is the one that the line has now.
    have hrequested : line'.Requested (.registered (line_key config)) .OUTPUT before := by
      obtain ⟨hmode, request, initial_value, hrequest, hheld⟩ :=
        hsetTo.output (hsetTo.ok.1 hok).1
      rw [hread, held_used] at hheld
      exact ⟨hmode, request, initial_value, hrequest, hheld⟩
    have hlast := last_read_used hrequested (hread ▸ hsound).2 (OutputLine.level active)
    rw [hline', ← hread] at hlast
    exact hlast

theorem destroy_acts (h : w.Agrees) (holder : Holder) (config : OutputLineConfig) :
    World.Acts holder config false w (w.destroy holder) ∧
      (w.destroy holder).lines holder = none := by
  obtain ⟨hagrees, hgoes, -⟩ := h.destroy holder
  have hgone : (w.destroy holder).lines holder = none := by
    unfold World.destroy
    cases hline : w.lines holder with
    | none => exact hline
    | some line => exact World.put_lines_self ..
  refine ⟨⟨hagrees, fun other hother => ?_, ?_, hgoes, ?_⟩, hgone⟩
  · unfold World.destroy
    cases w.lines holder with
    | none => rfl
    | some line => exact World.put_lines_other w hother _ _
  · intro line hline
    rw [hgone] at hline
    cases hline
  · unfold World.destroy
    cases hline : w.lines holder with
    | none => exact .refl
    | some line => exact OutputLine.release_locked_grows _ _ (h.holds hline)

/-- A line that is released and destroyed is one that is destroyed. -/
theorem release_output_value_eq (h : w.Agrees) (config : OutputLineConfig) :
    release_output_value config w = w.destroy (.registered (line_key config)) := by
  unfold release_output_value World.destroy
  dsimp only
  cases hline : w.lines (.registered (line_key config)) with
  | none => rfl
  | some line =>
    obtain ⟨released, log, hrelease, -, hreleased⟩ :=
      OutputLine.release_locked_spec (h.holds hline) h.sound
    dsimp only
    rw [World.put_lines_self]
    simp only [hrelease]
    unfold OutputLine.release_locked World.put
    simp [hreleased.request]

theorem get_output_value_acts (h : w.Agrees)
    (hnone : w.lines (.registered (line_key config)) = none) (answers : GetAnswers) :
    ∃ result w', get_output_value config answers w = (result, w') ∧ w'.lines = w.lines ∧
      World.Acts (.registered (line_key config)) config false w w' ∧
      ∀ active, result = .ok active → last_read config w'.log = some (OutputLine.level active) := by
  obtain ⟨result, log', hget, hgrows, hgoes, -, hread⟩ := get_output_value_unkept h hnone answers
  have hagrees := get_output_value_agrees h config answers
  rw [hget] at hagrees
  refine ⟨result, _, hget, rfl, ⟨hagrees, fun _ _ => rfl, ?_, hgoes, ?_⟩, hread⟩
  · intro line hline
    rw [show ({ w with log := log' } : World).lines = w.lines from rfl, hnone] at hline
    cases hline
  · exact hgrows.mono (Made.undriven (by decide)) fun _ h => .inr h

/-- Nothing is driven, and no output is made. -/
def Undriven : GrantEvent Holder LineRequest Access → Prop
  | .granted grant => grant.tag.direction ≠ .OUTPUT
  | .released _ => True
  | .used _ access => access.Reads

theorem World.Acts.quiet {w' : World} (h : World.Acts holder config false w w') :
    ∃ later, w'.log = later ++ w.log ∧ ∀ event ∈ later, Undriven event := by
  have hgrows := h.grows
  generalize w'.log = log' at hgrows ⊢
  induction hgrows with
  | refl => exact ⟨[], rfl, fun _ hevent => absurd hevent List.not_mem_nil⟩
  | @event moment event _ hevent ih =>
    obtain ⟨later, hlater, hall⟩ := ih
    refine ⟨event :: later, by rw [hlater]; rfl, List.forall_mem_cons.2 ⟨?_, hall⟩⟩
    cases hevent with
    | granted tag htag => exact htag.2.resolve_left (by decide)
    | released grant _ => trivial
    | used grant access _ haccess => exact haccess.resolve_left (by decide)

end

end FactoryTest.Gpio

import FactoryTest.Lib.Grants

/-!
# GPIO lines

`OutputLine` of `src/platform/gpio_service.cpp`: a line of a GPIO chip that is requested from the
kernel as an output, as an input or as it is.

**The kernel.** What it grants and what is done with it goes to a log (`Log`). How it answers is
not known: every call of libgpiod has its own answer (`RequestAnswers`, `SetAnswers`,
`GetAnswers`).

**Promises** (`OutputLine.Holds`). The stored request is the one that is outstanding, and
`output_mode` says whether it was made as an output. Each operation keeps this, and leaves the
requests of all other lines.
-/

namespace FactoryTest.Gpio

/-! ## The kernel -/

/-- `GPIOD_LINE_DIRECTION_*`. -/
inductive Direction
  | AS_IS
  | INPUT
  | OUTPUT
  deriving DecidableEq

/-- `GPIOD_LINE_VALUE_*`. -/
inductive LineValue
  | ERROR
  | INACTIVE
  | ACTIVE
  deriving DecidableEq

/-- `OutputLineConfig`. -/
structure OutputLineConfig where
  chip_path : String
  line_offset : UInt32
  consumer : String
  deriving DecidableEq

/-- Who makes a request: the line that the service keeps for a key, or another `OutputLine`. -/
inductive Holder
  | registered (key : String)
  | object (id : ℕ)
  deriving DecidableEq

/-- What is requested. -/
structure LineRequest where
  config : OutputLineConfig
  direction : Direction
  /-- The value that an output begins with. -/
  initial_value : LineValue

/-- What is done with a request, and the answer. -/
inductive Access
  | set_value (value : LineValue) (result : ℤ)
  | get_value (value : LineValue)

/-- The requests and what is done with them, the newest event first. -/
abbrev Log := List (GrantEvent Holder LineRequest Access)

/-- The answers that `request_line` gets, with the text of `errno` when it fails. -/
structure RequestAnswers where
  chip_open : Bool
  settings_new : Bool
  line_config_new : Bool
  request_config_new : Bool
  set_direction : ℤ
  set_drive : ℤ
  set_output_value : ℤ
  add_line_settings : ℤ
  request_lines : Bool
  errno : String

/-- The answer that `read_requested_value` gets. -/
structure ReadAnswer where
  value : LineValue
  errno : String

/-- The answers that `set_value` gets. -/
structure SetAnswers where
  request : RequestAnswers
  set : ℤ
  read : ReadAnswer
  retry_request : RequestAnswers
  retry_set : ℤ
  retry_read : ReadAnswer
  errno : String

/-- The answers that `get_value` gets. -/
structure GetAnswers where
  request : RequestAnswers
  read : ReadAnswer

/-! ## The code -/

def errno_message (prefix_text errno : String) : String := prefix_text ++ ": " ++ errno

/-- What the settings answer: zero, or what the first call that fails does. -/
def settings_result (direction : Direction) (answers : RequestAnswers) : ℤ :=
  let result := answers.set_direction
  let result := if result = 0 ∧ direction = .OUTPUT then answers.set_drive else result
  let result := if result = 0 ∧ direction = .OUTPUT then answers.set_output_value else result
  if result = 0 then answers.add_line_settings else result

/-- `request_line`: the message, or the request that its owner has. -/
def request_line (holder : Holder) (config : OutputLineConfig) (direction : Direction)
    (initial_value : LineValue) (answers : RequestAnswers) (log : Log) : Except String ℕ × Log :=
  if !answers.chip_open then
    (.error (errno_message ("Failed to open " ++ config.chip_path) answers.errno), log)
  else if !answers.settings_new || !answers.line_config_new || !answers.request_config_new then
    (.error (errno_message "Failed to allocate GPIO request" answers.errno), log)
  else if settings_result direction answers = 0 ∧ answers.request_lines = true then
    (.ok log.length, .granted ⟨log.length, holder, config, direction, initial_value⟩ :: log)
  else (.error (errno_message "Failed to request GPIO line" answers.errno), log)

/-- `read_requested_value`. -/
def read_requested_value (request : Option ℕ) (answer : ReadAnswer) (log : Log) :
    Except String Bool × Log :=
  let log := .used request (.get_value answer.value) :: log
  if answer.value = .ERROR then
    (.error (errno_message "Failed to read GPIO value" answer.errno), log)
  else (.ok (answer.value = .ACTIVE), log)

/-- `read_line_value_preserving_direction`: the value and the request that it retains. The owner
releases the request if it cannot be read. -/
def read_line_value_preserving_direction (holder : Holder) (config : OutputLineConfig)
    (answers : GetAnswers) (log : Log) : Except String (Bool × ℕ) × Log :=
  match request_line holder config .AS_IS .INACTIVE answers.request log with
  | (.error error_message, log) => (.error error_message, log)
  | (.ok request, log) =>
    match read_requested_value (some request) answers.read log with
    | (.error error_message, log) => (.error error_message, .released request :: log)
    | (.ok active, log) => (.ok (active, request), log)

/-- `OutputLine::Impl`. -/
structure OutputLine where
  config : OutputLineConfig
  request : Option ℕ := none
  output_mode : Bool := false

namespace OutputLine

/-- `release_locked`. -/
def release_locked (line : OutputLine) (log : Log) : OutputLine × Log :=
  match line.request with
  | some request => ({ line with request := none, output_mode := false }, .released request :: log)
  | none => ({ line with output_mode := false }, log)

/-- `request_line_locked`. -/
def request_line_locked (holder : Holder) (line : OutputLine) (direction : Direction)
    (initial_value : LineValue) (answers : RequestAnswers) (log : Log) :
    Except String Unit × OutputLine × Log :=
  match request_line holder line.config direction initial_value answers log with
  | (.error error_message, log) => (.error error_message, line, log)
  | (.ok request, log) =>
    (.ok (), { line with request := some request, output_mode := direction = .OUTPUT }, log)

/-- What `set_value` does after it set the value, of which it has two copies with texts of their
own. -/
def read_back (line : OutputLine) (active : Bool) (mismatch : String) (answer : ReadAnswer)
    (log : Log) : Except String Unit × OutputLine × Log :=
  match read_requested_value line.request answer log with
  | (.error error_message, log) => (.error error_message, line, log)
  | (.ok readback, log) =>
    if readback = active then (.ok (), line, log) else (.error mismatch, line, log)

/-- The value of a level. -/
def level (active : Bool) : LineValue := if active then .ACTIVE else .INACTIVE

/-- The second try of `set_value`. -/
def retry_value (holder : Holder) (line : OutputLine) (active : Bool) (answers : SetAnswers)
    (log : Log) : Except String Unit × OutputLine × Log :=
  let (line, log) := release_locked line log
  match request_line_locked holder line .OUTPUT (level active) answers.retry_request log with
  | (.error error_message, line, log) => (.error error_message, line, log)
  | (.ok (), line, log) =>
    let log := .used line.request (.set_value (level active) answers.retry_set) :: log
    if answers.retry_set = 0 then
      read_back line active "GPIO output readback mismatch after retry" answers.retry_read log
    else
      let (line, log) := release_locked line log
      (.error (errno_message "Failed to set GPIO value" answers.errno), line, log)

/-- The first step of `set_value`: a line that is not an output is requested as one. -/
def request_output (holder : Holder) (line : OutputLine) (active : Bool) (answers : SetAnswers)
    (log : Log) : Except String Unit × OutputLine × Log :=
  if line.request.isNone || !line.output_mode then
    let (line, log) := release_locked line log
    request_line_locked holder line .OUTPUT (level active) answers.request log
  else (.ok (), line, log)

/-- `set_value`. -/
def set_value (holder : Holder) (line : OutputLine) (active : Bool) (answers : SetAnswers)
    (log : Log) : Except String Unit × OutputLine × Log :=
  match request_output holder line active answers log with
  | (.error error_message, line, log) => (.error error_message, line, log)
  | (.ok (), line, log) =>
    let log := .used line.request (.set_value (level active) answers.set) :: log
    if answers.set = 0 then
      read_back line active "GPIO output readback mismatch" answers.read log
    else retry_value holder line active answers log

/-- `set_input`. -/
def set_input (holder : Holder) (line : OutputLine) (answers : RequestAnswers) (log : Log) :
    Except String Unit × OutputLine × Log :=
  let (line, log) := release_locked line log
  request_line_locked holder line .INPUT .INACTIVE answers log

/-- `get_value`. -/
def get_value (holder : Holder) (line : OutputLine) (answers : GetAnswers) (log : Log) :
    Except String Bool × OutputLine × Log :=
  match line.request with
  | none =>
    match read_line_value_preserving_direction holder line.config answers log with
    | (.error error_message, log) => (.error error_message, line, log)
    | (.ok (active, request), log) => (.ok active, { line with request := some request }, log)
  | some request =>
    let (result, log) := read_requested_value (some request) answers.read log
    (result, line, log)

/-! ## The configuration of a line -/

theorem release_locked_config (line : OutputLine) (log : Log) :
    (release_locked line log).1.config = line.config := by
  unfold release_locked
  split <;> rfl

theorem request_line_locked_config (holder : Holder) (line : OutputLine) (direction : Direction)
    (initial_value : LineValue) (answers : RequestAnswers) (log : Log) :
    (request_line_locked holder line direction initial_value answers log).2.1.config =
      line.config := by
  unfold request_line_locked
  split <;> rfl

theorem read_back_config (line : OutputLine) (active : Bool) (mismatch : String)
    (answer : ReadAnswer) (log : Log) :
    (read_back line active mismatch answer log).2.1.config = line.config := by
  unfold read_back
  split
  · rfl
  · split_ifs <;> rfl

theorem request_output_config (holder : Holder) (line : OutputLine) (active : Bool)
    (answers : SetAnswers) (log : Log) :
    (request_output holder line active answers log).2.1.config = line.config := by
  unfold request_output
  split_ifs
  · exact (request_line_locked_config ..).trans (release_locked_config ..)
  · rfl

theorem retry_value_config (holder : Holder) (line : OutputLine) (active : Bool)
    (answers : SetAnswers) (log : Log) :
    (retry_value holder line active answers log).2.1.config = line.config := by
  have hrequest := request_line_locked_config holder (release_locked line log).1 .OUTPUT
    (level active) answers.retry_request (release_locked line log).2
  rw [release_locked_config] at hrequest
  unfold retry_value
  dsimp only
  split
  next hrefused =>
    rw [hrefused] at hrequest
    exact hrequest
  next hgranted =>
    rw [hgranted] at hrequest
    split_ifs
    · exact (read_back_config ..).trans hrequest
    · exact (release_locked_config ..).trans hrequest

theorem set_value_config (holder : Holder) (line : OutputLine) (active : Bool)
    (answers : SetAnswers) (log : Log) :
    (set_value holder line active answers log).2.1.config = line.config := by
  have hrequest := request_output_config holder line active answers log
  unfold set_value
  split
  next hrefused =>
    rw [hrefused] at hrequest
    exact hrequest
  next hgranted =>
    rw [hgranted] at hrequest
    dsimp only
    split_ifs
    · exact (read_back_config ..).trans hrequest
    · exact (retry_value_config ..).trans hrequest

theorem set_input_config (holder : Holder) (line : OutputLine) (answers : RequestAnswers)
    (log : Log) : (set_input holder line answers log).2.1.config = line.config :=
  (request_line_locked_config ..).trans (release_locked_config ..)

/-! ## What a line holds -/

/-- No request of the line is outstanding. -/
structure Released (holder : Holder) (line : OutputLine) (log : Log) : Prop where
  request : line.request = none
  output_mode : line.output_mode = false
  held : held log holder = []

/-- The stored request is outstanding, and was made with the direction. -/
structure Requested (holder : Holder) (direction : Direction) (line : OutputLine) (log : Log) :
    Prop where
  output_mode : line.output_mode = decide (direction = .OUTPUT)
  held : ∃ request initial_value, line.request = some request ∧
    held log holder = [⟨request, holder, line.config, direction, initial_value⟩]

/-- The line and the kernel agree. -/
def Holds (holder : Holder) (line : OutputLine) (log : Log) : Prop :=
  line.Released holder log ∨ ∃ direction, line.Requested holder direction log

section

variable {holder : Holder} {direction : Direction} {line : OutputLine} {log : Log}

/-- What other lines do changes neither. -/
theorem Holds.frame (h : line.Holds holder log) {log' : Log}
    (hheld : FactoryTest.held log' holder = FactoryTest.held log holder) :
    line.Holds holder log' := by
  rcases h with ⟨hrequest, hmode, hnone⟩ |
    ⟨direction, hmode, request, initial_value, hrequest, hone⟩
  · exact .inl ⟨hrequest, hmode, hheld.trans hnone⟩
  · exact .inr ⟨direction, hmode, request, initial_value, hrequest, hheld.trans hone⟩

/-- The line is an output if its request was made as one. -/
theorem Holds.output_mode_iff (h : line.Holds holder log) :
    line.output_mode = true ↔ line.Requested holder .OUTPUT log := by
  constructor
  · intro hmode
    rcases h with hreleased | ⟨direction, hrequested⟩
    · exact absurd (hreleased.output_mode.symm.trans hmode) (by decide)
    · have hdirection := of_decide_eq_true (hrequested.output_mode.symm.trans hmode)
      rwa [hdirection] at hrequested
  · intro hrequested
    exact hrequested.output_mode.trans (by decide)

/-- The line uses its request. -/
theorem Requested.used (h : line.Requested holder direction log) (hsound : Sound log)
    (access : Access) :
    Sound.Goes holder log (.used line.request access :: log) ∧
      line.Requested holder direction (.used line.request access :: log) := by
  obtain ⟨hmode, request, initial_value, hrequest, hheld⟩ := h
  rw [hrequest]
  exact ⟨hsound.use hheld access, hmode, request, initial_value, hrequest, hheld⟩

/-! ## The operations -/

theorem release_locked_spec (h : line.Holds holder log) (hsound : Sound log) :
    ∃ line' log', release_locked line log = (line', log') ∧ Sound.Goes holder log log' ∧
      line'.Released holder log' := by
  unfold release_locked
  rcases h with ⟨hrequest, hmode, hnone⟩ |
    ⟨direction, hmode, request, initial_value, hrequest, hone⟩
  · rw [hrequest]
    exact ⟨_, _, rfl, .refl hsound, rfl, rfl, hnone⟩
  · rw [hrequest]
    obtain ⟨hgoes, hheld⟩ := hsound.release hone
    exact ⟨_, _, rfl, hgoes, rfl, rfl, hheld⟩

end

end OutputLine

/-- The kernel grants the request. -/
def RequestAnswers.Grants (direction : Direction) (answers : RequestAnswers) : Prop :=
  answers.chip_open = true ∧ answers.settings_new = true ∧ answers.line_config_new = true ∧
    answers.request_config_new = true ∧ settings_result direction answers = 0 ∧
    answers.request_lines = true

section

variable {holder : Holder} {direction : Direction} {initial_value : LineValue} {line : OutputLine}
  {log : Log}

theorem request_line_granted {answers : RequestAnswers} (h : answers.Grants direction)
    (holder : Holder) (config : OutputLineConfig) (initial_value : LineValue) (log : Log) :
    request_line holder config direction initial_value answers log =
      (.ok log.length, .granted ⟨log.length, holder, config, direction, initial_value⟩ :: log) := by
  obtain ⟨hchip, hsettings, hline, hconfig, hresult, hlines⟩ := h
  unfold request_line
  simp [hchip, hsettings, hline, hconfig, hresult, hlines]

theorem request_line_refused {answers : RequestAnswers} (h : ¬ answers.Grants direction)
    (holder : Holder) (config : OutputLineConfig) (initial_value : LineValue) (log : Log) :
    ∃ error_message, request_line holder config direction initial_value answers log =
      (.error error_message, log) := by
  unfold request_line
  split_ifs with hchip hnew hgranted
  · exact ⟨_, rfl⟩
  · exact ⟨_, rfl⟩
  · refine absurd ?_ h
    simp only [Bool.not_eq_true', Bool.not_eq_false, Bool.or_eq_true, not_or] at hchip hnew
    exact ⟨hchip, hnew.1.1, hnew.1.2, hnew.2, hgranted⟩
  · exact ⟨_, rfl⟩

namespace OutputLine

theorem request_line_locked_granted {answers : RequestAnswers} (h : line.Released holder log)
    (hsound : Sound log) (hgrants : answers.Grants direction) (initial_value : LineValue) :
    ∃ line' log', request_line_locked holder line direction initial_value answers log =
        (.ok (), line', log') ∧
      Sound.Goes holder log log' ∧ line'.Requested holder direction log' := by
  obtain ⟨hgoes, hheld⟩ :=
    hsound.grant h.held (⟨line.config, direction, initial_value⟩ : LineRequest)
  unfold request_line_locked
  rw [request_line_granted hgrants]
  exact ⟨_, _, rfl, hgoes, rfl, _, _, rfl, hheld⟩

theorem request_line_locked_refused {answers : RequestAnswers}
    (hgrants : ¬ answers.Grants direction) (holder : Holder) (line : OutputLine)
    (initial_value : LineValue) (log : Log) :
    ∃ error_message, request_line_locked holder line direction initial_value answers log =
      (.error error_message, line, log) := by
  obtain ⟨error_message, hrefused⟩ :=
    request_line_refused hgrants holder line.config initial_value log
  unfold request_line_locked
  rw [hrefused]
  exact ⟨error_message, rfl⟩

/-- The line is not changed, and the value that was read is the last thing in the log. -/
theorem read_back_spec (line : OutputLine) (active : Bool) (mismatch : String) (answer : ReadAnswer)
    (log : Log) :
    ∃ result, read_back line active mismatch answer log =
        (result, line, .used line.request (.get_value answer.value) :: log) ∧
      (result = .ok () ↔ answer.value = level active) := by
  unfold read_back read_requested_value level
  cases answer.value <;> cases active <;> simp

theorem request_output_granted {answers : SetAnswers} (h : line.Holds holder log)
    (hsound : Sound log)
    (hgrants : line.output_mode = true ∨ answers.request.Grants .OUTPUT) (active : Bool) :
    ∃ line' log', request_output holder line active answers log = (.ok (), line', log') ∧
      Sound.Goes holder log log' ∧ line'.Requested holder .OUTPUT log' := by
  unfold request_output
  by_cases hmode : line.output_mode = true
  · have hrequested := h.output_mode_iff.1 hmode
    obtain ⟨request, -, hrequest, -⟩ := hrequested.held
    rw [hrequest, hmode]
    exact ⟨line, log, rfl, .refl hsound, hrequested⟩
  · obtain ⟨released, log₁, hrelease, hgoes₁, hreleased⟩ := release_locked_spec h hsound
    obtain ⟨line', log', hrequest, hgoes₂, hrequested⟩ := request_line_locked_granted hreleased
      hgoes₁.sound (hgrants.resolve_left hmode) (level active)
    rw [if_pos (by simp [hmode]), hrelease]
    exact ⟨line', log', hrequest, hgoes₁.trans hgoes₂, hrequested⟩

theorem request_output_refused {answers : SetAnswers} (h : line.Holds holder log)
    (hsound : Sound log)
    (hgrants : ¬ (line.output_mode = true ∨ answers.request.Grants .OUTPUT)) (active : Bool) :
    ∃ error_message line' log',
      request_output holder line active answers log = (.error error_message, line', log') ∧
        Sound.Goes holder log log' ∧ line'.Released holder log' := by
  obtain ⟨hmode, hgrants⟩ := not_or.1 hgrants
  obtain ⟨released, log₁, hrelease, hgoes, hreleased⟩ := release_locked_spec h hsound
  obtain ⟨error_message, hrefused⟩ :=
    request_line_locked_refused hgrants holder released (level active) log₁
  unfold request_output
  rw [if_pos (by simp [hmode]), hrelease]
  exact ⟨error_message, released, log₁, hrefused, hgoes, hreleased⟩

/-- The value is set in one of the two tries. -/
def Accepts (line : OutputLine) (answers : SetAnswers) : Prop :=
  (line.output_mode = true ∨ answers.request.Grants .OUTPUT) ∧
    (answers.set = 0 ∨ answers.retry_request.Grants .OUTPUT ∧ answers.retry_set = 0)

/-- The value that is read after the try that set it is the one that was set. -/
def ReadsBack (active : Bool) (answers : SetAnswers) : Prop :=
  if answers.set = 0 then answers.read.value = level active
  else answers.retry_read.value = level active

/-- What `set_value` and its second try leave: an output, if the value was set, and else no
request. -/
structure SetTo (holder : Holder) (active : Bool) (accepted back : Prop) (log : Log)
    (result : Except String Unit) (line' : OutputLine) (log' : Log) : Prop where
  goes : Sound.Goes holder log log'
  output : accepted → line'.Requested holder .OUTPUT log'
  released : ¬ accepted → line'.Released holder log'
  ok : result = .ok () ↔ accepted ∧ back
  /-- The last thing that was done is to read the value that was set. -/
  read : result = .ok () →
    ∃ before, log' = .used line'.request (.get_value (level active)) :: before

theorem SetTo.congr {active : Bool} {accepted back accepted' back' : Prop} {log₁ log' : Log}
    {result : Except String Unit} {line' : OutputLine}
    (h : SetTo holder active accepted back log₁ result line' log')
    (hgoes : Sound.Goes holder log log₁) (haccepted : accepted' ↔ accepted)
    (hback : accepted → (back' ↔ back)) :
    SetTo holder active accepted' back' log result line' log' where
  goes := hgoes.trans h.goes
  output haccepted' := h.output (haccepted.1 haccepted')
  released haccepted' := h.released fun h => haccepted' (haccepted.2 h)
  ok := h.ok.trans (by rw [haccepted]; exact and_congr_right fun h => (hback h).symm)
  read := h.read

/-- A failure that leaves no request. -/
theorem SetTo.fail {active : Bool} {accepted : Prop} (haccepted : ¬ accepted) (back : Prop)
    {log' : Log} (error_message : String) (hgoes : Sound.Goes holder log log')
    (hreleased : line.Released holder log') :
    SetTo holder active accepted back log (.error error_message) line log' where
  goes := hgoes
  output h := absurd h haccepted
  released _ := hreleased
  ok := ⟨fun h => (nomatch h), fun h => absurd h.1 haccepted⟩
  read h := nomatch h

theorem read_back_setTo (h : line.Requested holder .OUTPUT log) (hsound : Sound log) (active : Bool)
    (mismatch : String) (answer : ReadAnswer) :
    ∃ result log', read_back line active mismatch answer log = (result, line, log') ∧
      SetTo holder active True (answer.value = level active) log result line log' := by
  obtain ⟨result, hread, hok⟩ := read_back_spec line active mismatch answer log
  obtain ⟨hgoes, hrequested⟩ := h.used hsound (.get_value answer.value)
  refine ⟨result, _, hread, hgoes, fun _ => hrequested, fun h => absurd trivial h, ?_, fun h => ?_⟩
  · rw [hok, true_and]
  · rw [hok.1 h]
    exact ⟨log, rfl⟩

theorem retry_value_spec (h : line.Requested holder .OUTPUT log) (hsound : Sound log)
    (active : Bool) (answers : SetAnswers) :
    ∃ result line' log', retry_value holder line active answers log = (result, line', log') ∧
      SetTo holder active (answers.retry_request.Grants .OUTPUT ∧ answers.retry_set = 0)
        (answers.retry_read.value = level active) log result line' log' := by
  obtain ⟨released, log₁, hrelease, hgoes₁, hreleased⟩ := release_locked_spec (.inr ⟨_, h⟩) hsound
  unfold retry_value
  rw [hrelease]
  dsimp only
  by_cases hgrants : answers.retry_request.Grants .OUTPUT
  · obtain ⟨line₂, log₂, hrequest, hgoes₂, hrequested⟩ :=
      request_line_locked_granted hreleased hgoes₁.sound hgrants (level active)
    obtain ⟨hgoes₃, hused⟩ :=
      hrequested.used hgoes₂.sound (.set_value (level active) answers.retry_set)
    have hgoes := (hgoes₁.trans hgoes₂).trans hgoes₃
    rw [hrequest]
    dsimp only
    by_cases hset : answers.retry_set = 0
    · obtain ⟨result, log', hread, hsetTo⟩ := read_back_setTo hused hgoes₃.sound active
        "GPIO output readback mismatch after retry" answers.retry_read
      rw [if_pos hset, hread]
      exact ⟨result, line₂, log', rfl,
        hsetTo.congr hgoes (iff_true_intro ⟨hgrants, hset⟩) fun _ => Iff.rfl⟩
    · obtain ⟨line', log', hlast, hgoes₄, hend⟩ :=
        release_locked_spec (.inr ⟨_, hused⟩) hgoes₃.sound
      rw [if_neg hset, hlast]
      exact ⟨_, line', log', rfl,
        .fail (fun h => hset h.2) _ _ (hgoes.trans hgoes₄) hend⟩
  · obtain ⟨error_message, hrefused⟩ :=
      request_line_locked_refused hgrants holder released (level active) log₁
    rw [hrefused]
    exact ⟨_, released, log₁, rfl, .fail (fun h => hgrants h.1) _ _ hgoes₁ hreleased⟩

theorem set_value_spec (h : line.Holds holder log) (hsound : Sound log) (active : Bool)
    (answers : SetAnswers) :
    ∃ result line' log', set_value holder line active answers log = (result, line', log') ∧
      SetTo holder active (line.Accepts answers) (ReadsBack active answers) log result line'
        log' := by
  unfold set_value
  by_cases hgrants : line.output_mode = true ∨ answers.request.Grants .OUTPUT
  · obtain ⟨line₁, log₁, hrequest, hgoes₁, hrequested⟩ :=
      request_output_granted h hsound hgrants active
    obtain ⟨hgoes₂, hused⟩ := hrequested.used hgoes₁.sound (.set_value (level active) answers.set)
    have hgoes := hgoes₁.trans hgoes₂
    rw [hrequest]
    dsimp only
    by_cases hset : answers.set = 0
    · obtain ⟨result, log', hread, hsetTo⟩ := read_back_setTo hused hgoes₂.sound active
        "GPIO output readback mismatch" answers.read
      rw [if_pos hset, hread]
      refine ⟨result, line₁, log', rfl,
        hsetTo.congr hgoes (iff_true_intro ⟨hgrants, .inl hset⟩) fun _ => ?_⟩
      rw [ReadsBack, if_pos hset]
    · obtain ⟨result, line', log', hretry, hsetTo⟩ :=
        retry_value_spec hused hgoes₂.sound active answers
      rw [if_neg hset, hretry]
      refine ⟨result, line', log', rfl, hsetTo.congr hgoes ?_ fun _ => ?_⟩
      · rw [Accepts, and_iff_right hgrants, or_iff_right hset]
      · rw [ReadsBack, if_neg hset]
  · obtain ⟨error_message, line', log', hrefused, hgoes, hreleased⟩ :=
      request_output_refused h hsound hgrants active
    rw [hrefused]
    exact ⟨_, line', log', rfl, .fail (fun h => hgrants h.1) _ _ hgoes hreleased⟩

/-- A line that is set to be an input is one, or it has no request. -/
theorem set_input_spec (h : line.Holds holder log) (hsound : Sound log)
    (answers : RequestAnswers) :
    ∃ result line' log', set_input holder line answers log = (result, line', log') ∧
      Sound.Goes holder log log' ∧ line'.Holds holder log' ∧
      (result = .ok () → line'.Requested holder .INPUT log') ∧
      (result = .ok () ↔ answers.Grants .INPUT) := by
  obtain ⟨released, log₁, hrelease, hgoes₁, hreleased⟩ := release_locked_spec h hsound
  unfold set_input
  rw [hrelease]
  by_cases hgrants : answers.Grants .INPUT
  · obtain ⟨line', log', hrequest, hgoes₂, hrequested⟩ :=
      request_line_locked_granted hreleased hgoes₁.sound hgrants .INACTIVE
    exact ⟨_, line', log', hrequest, hgoes₁.trans hgoes₂, .inr ⟨_, hrequested⟩, fun _ => hrequested,
      iff_of_true rfl hgrants⟩
  · obtain ⟨error_message, hrefused⟩ :=
      request_line_locked_refused hgrants holder released .INACTIVE log₁
    exact ⟨_, released, log₁, hrefused, hgoes₁, .inl hreleased, fun h => (nomatch h),
      iff_of_false (fun h => (nomatch h)) hgrants⟩

/-- A request that is made to read a line as it is is retained with the value, or released. -/
theorem read_line_value_preserving_direction_spec (hheld : held log holder = [])
    (hsound : Sound log) (config : OutputLineConfig) (answers : GetAnswers) :
    ∃ result log',
      read_line_value_preserving_direction holder config answers log = (result, log') ∧
      Sound.Goes holder log log' ∧
      match result with
      | .error _ => held log' holder = []
      | .ok (_, request) => ∃ initial_value,
        held log' holder = [⟨request, holder, config, .AS_IS, initial_value⟩] := by
  unfold read_line_value_preserving_direction
  by_cases hgrants : answers.request.Grants .AS_IS
  · obtain ⟨hgoes₁, hone⟩ := hsound.grant hheld (⟨config, .AS_IS, .INACTIVE⟩ : LineRequest)
    have hgoes₂ := hgoes₁.sound.use hone (.get_value answers.read.value)
    rw [request_line_granted hgrants]
    unfold read_requested_value
    dsimp only
    split_ifs with herror
    · obtain ⟨hgoes₃, hnone⟩ := hgoes₂.sound.release ((held_used _ _).trans hone)
      exact ⟨_, _, rfl, (hgoes₁.trans hgoes₂).trans hgoes₃, hnone⟩
    · exact ⟨_, _, rfl, hgoes₁.trans hgoes₂, _, hone⟩
  · obtain ⟨error_message, hrefused⟩ :=
      request_line_refused hgrants holder config .INACTIVE log
    rw [hrefused]
    exact ⟨_, log, rfl, .refl hsound, hheld⟩

theorem get_value_spec (h : line.Holds holder log) (hsound : Sound log) (answers : GetAnswers) :
    ∃ result line' log', get_value holder line answers log = (result, line', log') ∧
      Sound.Goes holder log log' ∧ line'.Holds holder log' := by
  unfold get_value
  rcases h with hreleased | ⟨direction, hrequested⟩
  · obtain ⟨result, log', hread, hgoes, hheld⟩ := read_line_value_preserving_direction_spec
      hreleased.held hsound line.config answers
    rw [hreleased.request]
    dsimp only
    rw [hread]
    cases result with
    | error error_message =>
      exact ⟨_, line, log', rfl, hgoes, .inl ⟨hreleased.request, hreleased.output_mode, hheld⟩⟩
    | ok read =>
      obtain ⟨initial_value, hheld⟩ := hheld
      exact ⟨_, _, log', rfl, hgoes,
        .inr ⟨.AS_IS, hreleased.output_mode.trans (by decide), read.2, initial_value, rfl, hheld⟩⟩
  · obtain ⟨hgoes, hused⟩ := hrequested.used hsound (.get_value answers.read.value)
    obtain ⟨request, -, hrequest, -⟩ := hrequested.held
    rw [hrequest] at hgoes hused ⊢
    unfold read_requested_value
    dsimp only
    split_ifs with herror
    · exact ⟨_, line, _, rfl, hgoes, .inr ⟨direction, hused⟩⟩
    · exact ⟨_, line, _, rfl, hgoes, .inr ⟨direction, hused⟩⟩

end OutputLine

end

end FactoryTest.Gpio

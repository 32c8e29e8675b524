import FactoryTest.Process.Output

/-!
# Running a command

`run_spawned_command` of `src/platform/process_service.cpp` as it is built for POSIX.

**The surroundings.** `Environment` holds what the system answers: the child, whoever else holds
its pipes, the clock. A call that can block comes with whether the child was alive when it was
made, and its answer is `none` if it never returns. A run that waits for ever, or whose answers end
before it does, has no result, but it has its events.

**Events.** The calls that matter here are observed in their order, and the moment at which the
deadline is found to have passed.
-/

namespace FactoryTest.Process

/-- What `waitpid` gives: the child with its status, nothing yet, or a failure. -/
inductive Wait
  | reported (status : ℕ)
  | nothing
  /-- A signal came. -/
  | interrupted
  /-- There is no such child. -/
  | gone
  deriving DecidableEq

/-- A call that can wait. -/
structure Waiting where
  alive : Bool
  answer : Option Wait

/-- What `write` gives. -/
inductive Written
  | count (count : ℕ)
  | interrupted
  | failed

/-- A call of `write` on the pipe to the child. -/
structure Writing where
  /-- The free space of the pipe. -/
  space : ℕ
  alive : Bool
  answer : Option Written

/-- What the calls of `read` in one `read_available` give: chunks, and then that there is nothing
more for now, or nothing more at all. -/
structure Reading where
  chunks : List Text := []
  closes : Bool := false

/-- What `poll` gives. -/
inductive Polled
  | failed (message : Text)
  | interrupted
  | events (stdout stderr : Bool)

/-- What the calls of one round of the loop give. -/
structure Round where
  waited : Wait := .nothing
  elapsed : ℤ := 0
  /-- The `waitpid` after the kill. -/
  killed : Waiting := ⟨false, none⟩
  polled : Polled := .events false false
  stdout_read : Reading := {}
  stderr_read : Reading := {}
  stdout_rest : Reading := {}
  stderr_rest : Reading := {}

/-- What the system answers. A pipe that cannot be made and a spawn that fails come with the text
of the error. -/
structure Environment where
  stdout_pipe : Option Text := none
  stderr_pipe : Option Text := none
  stdin_pipe : Option Text := none
  file_actions : Bool := true
  spawned : Option Text := none
  writes : List Writing := []
  rounds : List Round := []
  /-- The `waitpid` after the loop. -/
  ending : Waiting := ⟨false, none⟩

/-- What is observed. -/
inductive Event
  | spawn (argv : List Text)
  | write (size space : ℕ) (alive : Bool)
  | waitpid_nohang (answer : Wait)
  /-- The deadline is found to have passed. -/
  | deadline
  /-- `SIGKILL` is sent to the child. -/
  | kill
  | waitpid (alive : Bool) (answer : Option Wait)

/-! ## The status -/

def WIFEXITED (status : ℕ) : Bool := status % 128 = 0

def WEXITSTATUS (status : ℕ) : ℕ := status / 256 % 256

def WIFSIGNALED (status : ℕ) : Bool := 0 < status % 128 ∧ status % 128 < 127

def WTERMSIG (status : ℕ) : ℕ := status % 128

/-- `ProcessResult`. -/
structure ProcessResult where
  exit_code : ℤ := -1
  term_signal : ℤ := 0
  exited : Bool := false
  timed_out : Bool := false
  output_truncated : Bool := false
  stdout_text : Text := []
  stderr_text : Text := []
  error_message : Text := []

/-- `ProcessResult::success`. -/
def ProcessResult.success (r : ProcessResult) : Bool :=
  r.exited ∧ r.exit_code = 0 ∧ !r.timed_out ∧ r.error_message = []

/-- `fill_exit_status`. -/
def fill_exit_status (status : ℕ) (result : ProcessResult) : ProcessResult :=
  if WIFEXITED status then
    { result with
      exited := true
      exit_code := WEXITSTATUS status }
  else if WIFSIGNALED status then
    { result with
      exited := false
      term_signal := WTERMSIG status }
  else result

/-! ## The loop -/

/-- The variables of the loop that are about the child. -/
structure Watch where
  child_done : Bool := false
  child_status : ℕ := 0
  timed_out : Bool := false
  error_message : Text := []
  events : List Event

/-- The variables of the loop. -/
structure Loop extends Watch where
  stdout_open : Bool := true
  stderr_open : Bool := true
  stdout : Capture := {}
  stderr : Capture := {}

namespace Loop

def observe (s : Loop) (e : Event) : Loop := { s with events := s.events ++ [e] }

/-- `waitpid` stores the status of a child that it reports. -/
def waited (s : Loop) : Wait → Loop
  | .reported status => { s with child_status := status }
  | _ => s

/-- `waitpid` with `WNOHANG`, until it has reported the child. -/
def wait_nohang (s : Loop) (answer : Wait) : Loop :=
  if s.child_done then s
  else
    let s := (s.observe (.waitpid_nohang answer)).waited answer
    match answer with
    | .reported _ => { s with child_done := true }
    | _ => s

end Loop

/-- `read_available`: whether the pipe stays open, and what was captured. -/
def read_available (handler line_handler : Bool) (options : ProcessOptions) (isOpen : Bool)
    (c : Capture) (r : Reading) : Bool × Capture :=
  if isOpen then (!r.closes, r.chunks.foldl (append_output handler line_handler options) c)
  else (isOpen, c)

namespace Loop

def read_stdout (options : ProcessOptions) (s : Loop) (r : Reading) : Loop :=
  let read := read_available options.stdout_handler options.stdout_line_handler options
    s.stdout_open s.stdout r
  { s with
    stdout_open := read.1
    stdout := read.2 }

def read_stderr (options : ProcessOptions) (s : Loop) (r : Reading) : Loop :=
  let read := read_available options.stderr_handler options.stderr_line_handler options
    s.stderr_open s.stderr r
  { s with
    stderr_open := read.1
    stderr := read.2 }

/-- Both pipes are read. -/
def read_both (options : ProcessOptions) (s : Loop) (stdout stderr : Reading) : Loop :=
  (s.read_stdout options stdout).read_stderr options stderr

end Loop

/-- Where a round leads. -/
inductive Turn
  | again (s : Loop)
  | leaves (s : Loop)
  /-- A call does not return. -/
  | hangs (s : Loop)

/-- The deadline has passed. -/
def Round.expired (options : ProcessOptions) (r : Round) : Bool :=
  0 < options.timeout_ms ∧ options.timeout_ms ≤ r.elapsed

/-- The branch of the deadline. -/
def expire (options : ProcessOptions) (s : Loop) (r : Round) : Turn :=
  let s := { s.observe .deadline with timed_out := true }
  if s.child_done then .leaves (s.read_both options r.stdout_read r.stderr_read)
  else
    let s := (s.observe .kill).observe (.waitpid r.killed.alive r.killed.answer)
    match r.killed.answer with
    | none => .hangs s
    | some answer =>
      let s := { s.waited answer with child_done := true }
      .leaves (s.read_both options r.stdout_read r.stderr_read)

/-- What is read after `poll`. -/
def read_polled (options : ProcessOptions) (s : Loop) (r : Round) (stdout stderr : Bool) : Loop :=
  let s := if stdout then s.read_stdout options r.stdout_read else s
  let s := if stderr then s.read_stderr options r.stderr_read else s
  if s.child_done then s.read_both options r.stdout_rest r.stderr_rest else s

/-- One round of the loop. -/
def turn (options : ProcessOptions) (s : Loop) (r : Round) : Turn :=
  let s := s.wait_nohang r.waited
  if r.expired options then expire options s r
  else
    match r.polled with
    | .failed message => .leaves { s with error_message := message }
    | .interrupted => .again (read_polled options s r false false)
    | .events stdout stderr => .again (read_polled options s r stdout stderr)

/-- The loop. -/
def run_loop (options : ProcessOptions) (s : Loop) : List Round → Turn
  | [] => if s.stdout_open ∨ s.stderr_open then .hangs s else .leaves s
  | r :: rounds =>
    if s.stdout_open ∨ s.stderr_open then
      match turn options s r with
      | .again s => run_loop options s rounds
      | .leaves s => .leaves s
      | .hangs s => .hangs s
    else .leaves s

/-! ## Induction on rounds -/

/-- What holds where a round leads: `I` if there is another one, `L` if the loop is left, and `H`
if a call does not return. -/
def Turn.Meets (I L H : Loop → Prop) : Turn → Prop
  | .again s => I s
  | .leaves s => L s
  | .hangs s => H s

section

variable {I L H : Loop → Prop} {options : ProcessOptions} {s : Loop}

theorem Turn.Meets.of_not_again {t : Turn} (h : t.Meets (fun _ => False) L H) : t.Meets I L H := by
  cases t with
  | again s => exact h.elim
  | leaves s => exact h
  | hangs s => exact h

/-- A round keeps what reading keeps, once it has looked for the status. -/
theorem turn_meets {r : Round}
    (hexpire : (expire options (s.wait_nohang r.waited) r).Meets (fun _ => False) L H)
    (hfailed : ∀ message, L { s.wait_nohang r.waited with error_message := message })
    (hread : ∀ stdout stderr,
      I (read_polled options (s.wait_nohang r.waited) r stdout stderr)) :
    (turn options s r).Meets I L H := by
  unfold turn
  dsimp only
  split_ifs
  · exact hexpire.of_not_again
  · cases r.polled with
    | failed message => exact hfailed message
    | interrupted => exact hread false false
    | events stdout stderr => exact hread stdout stderr

/-- What every round keeps, the loop keeps until it is left. -/
theorem run_loop_meets (hturn : ∀ s r, I s → (turn options s r).Meets I L H)
    (hleaves : ∀ s, I s → L s) (hhangs : ∀ s, I s → H s) (hs : I s) (rounds : List Round) :
    (run_loop options s rounds).Meets (fun _ => False) L H := by
  induction rounds generalizing s with
  | nil =>
    unfold run_loop
    split_ifs
    · exact hhangs s hs
    · exact hleaves s hs
  | cons r rounds ih =>
    unfold run_loop
    split_ifs
    · have hround := hturn s r hs
      cases hr : turn options s r with
      | again s₁ =>
        rw [hr] at hround
        exact ih hround
      | leaves s₁ =>
        rw [hr] at hround
        exact hround
      | hangs s₁ =>
        rw [hr] at hround
        exact hround
    · exact hleaves s hs

end

/-! ## The function -/

/-- The loop that writes the rest of `stdin_text`: whether it ends, and its events. -/
def write_stdin (rest : ℕ) : List Writing → Bool × List Event
  | [] => (rest = 0, [])
  | w :: writes =>
    if rest = 0 then (true, [])
    else
      let left :=
        match w.answer with
        | none => (false, [])
        | some (.count count) => if 0 < count then write_stdin (rest - count) writes else (true, [])
        | some .interrupted => write_stdin rest writes
        | some .failed => (true, [])
      (left.1, .write rest w.space w.alive :: left.2)

/-- The result, once the status is there. -/
def Loop.result (options : ProcessOptions) (s : Loop) : ProcessResult :=
  let stdout := flush_pending_output_line options.stdout_line_handler s.stdout.lines
  let stderr := flush_pending_output_line options.stderr_line_handler s.stderr.lines
  fill_exit_status s.child_status {
    timed_out := s.timed_out
    output_truncated := s.stdout.output_truncated || stdout.output_truncated ||
      s.stderr.output_truncated || stderr.output_truncated
    stdout_text := s.stdout.output
    stderr_text := s.stderr.output
    error_message := s.error_message }

/-- What follows the loop. -/
def finish (options : ProcessOptions) (ending : Waiting) (s : Loop) :
    Option ProcessResult × List Event :=
  if s.child_done then (some (s.result options), s.events)
  else
    let s := s.observe (.waitpid ending.alive ending.answer)
    match ending.answer with
    | none => (none, s.events)
    | some answer => (some ((s.waited answer).result options), s.events)

/-- The error that comes before anything is spawned. -/
def unspawned (executable : Text) (options : ProcessOptions) (env : Environment) : Option Text :=
  if executable = [] then some "empty executable".toUTF8.toList
  else
    match env.stdout_pipe, env.stderr_pipe with
    | some error, _ => some error
    | none, some error => some error
    | none, none =>
      match if options.stdin_text ≠ [] then env.stdin_pipe else none with
      | some error => some error
      | none =>
        if !env.file_actions then some "failed to initialize process file actions".toUTF8.toList
        else none

/-- `run_spawned_command`. -/
def run_spawned_command (executable : Text) (args : List Text) (options : ProcessOptions)
    (env : Environment) : Option ProcessResult × List Event :=
  match unspawned executable options env with
  | some error => (some { error_message := error }, [])
  | none =>
    let events := [Event.spawn (executable :: args)]
    match env.spawned with
    | some error => (some { error_message := error }, events)
    | none =>
      let written := write_stdin options.stdin_text.length env.writes
      let events := events ++ written.2
      if !written.1 then (none, events)
      else
        match run_loop options { events := events } env.rounds with
        | .again s => (none, s.events)
        | .hangs s => (none, s.events)
        | .leaves s => finish options env.ending s

end FactoryTest.Process

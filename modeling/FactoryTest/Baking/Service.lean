import FactoryTest.Lib.Run
import Mathlib.Data.Nat.Notation

/-!
# The baking service

`BakingPiService` of `src/platform/baking_pi_service.cpp`: a worker keeps three workloads running
in cycles of half an hour, each in a child process, and ends them between the cycles.

**The two threads.** The worker runs `worker_loop_` (`Pc`). The user interface starts the service
and stops it; `stop` sets a flag, waits until the worker has ended, and then ends what is left
itself (`Stopping`). Both see the list of children and the snapshot only under the lock, and take
one step from one use of them to the next.

**The system** answers each step: whether a workload can be spawned, what `waitpid` says of each
child, and whether a deadline has passed or the cycle is over.

**History.** Every signal, and every answer of `waitpid`. The metrics, the log files and the
error message of the snapshot are left out.
-/

namespace FactoryTest.Baking

/-- `WorkloadIndex`. -/
inductive WorkloadIndex
  | CPU_WORKLOAD
  | MEMORY_WORKLOAD
  | STORAGE_WORKLOAD
  deriving DecidableEq, Repr

/-- The indices in the order of the loops. -/
def WorkloadIndex.all : List WorkloadIndex := [.CPU_WORKLOAD, .MEMORY_WORKLOAD, .STORAGE_WORKLOAD]

/-- `ChildProcess`. -/
structure ChildProcess where
  pid : ℕ
  workload_index : WorkloadIndex
  deriving DecidableEq, Repr

/-- `WorkloadExit`; the status is 0 if `waitpid` does not know the child. -/
structure WorkloadExit where
  workload_index : WorkloadIndex
  status : ℕ
  deriving DecidableEq, Repr

/-- `BakingPiSnapshot`, as far as it tells what runs. -/
structure BakingPiSnapshot where
  running : Bool := false
  in_gap : Bool := false
  cycle : ℕ := 0
  restart_count : ℕ := 0
  cpu_workload_running : Bool := false
  memory_workload_running : Bool := false
  storage_workload_running : Bool := false
  deriving DecidableEq, Repr

namespace BakingPiSnapshot

variable (s : BakingPiSnapshot)

/-- `set_workload_running_`. -/
def set_workload_running (workload_index : WorkloadIndex) (running : Bool) : BakingPiSnapshot :=
  match workload_index with
  | .CPU_WORKLOAD => { s with cpu_workload_running := running }
  | .MEMORY_WORKLOAD => { s with memory_workload_running := running }
  | .STORAGE_WORKLOAD => { s with storage_workload_running := running }

/-- `workload_running_`. -/
def workload_running : WorkloadIndex → Bool
  | .CPU_WORKLOAD => s.cpu_workload_running
  | .MEMORY_WORKLOAD => s.memory_workload_running
  | .STORAGE_WORKLOAD => s.storage_workload_running

/-- The three flags are cleared. -/
def clear_workloads : BakingPiSnapshot :=
  { s with
    cpu_workload_running := false
    memory_workload_running := false
    storage_workload_running := false }

end BakingPiSnapshot

/-- What `waitpid` with `WNOHANG` says of a child: 0, its exit, `ECHILD` or another error. -/
inductive WaitResult
  | running
  | exited (status : ℕ)
  | unknown
  | error
  deriving DecidableEq, Repr

inductive Signal
  | SIGTERM
  | SIGKILL
  deriving DecidableEq, Repr

/-- What the system answers a step. -/
structure Answers where
  /-- The process of the spawned workload, or nothing if it cannot be spawned. -/
  spawned : Option ℕ := none
  waitpid : ℕ → WaitResult := fun _ => .running
  /-- The deadline has passed, or the cycle is over. -/
  late : Bool := false

inductive Obs
  | signal (pid : ℕ) (signal : Signal)
  | waitpid (pid : ℕ) (result : WaitResult)
  deriving DecidableEq, Repr

/-- Where the worker is in `worker_loop_`. -/
inductive Pc
  /-- At the head of the outer loop. -/
  | cycle
  /-- In `launch_workloads_`, with what is still to be launched. -/
  | launching (rest : List WorkloadIndex)
  /-- At the head of the inner loop. -/
  | monitoring
  /-- Before `reap_children_` in the inner loop. -/
  | reaping
  /-- Among the calls of `restart_workload_`. -/
  | restarting (exited : List WorkloadExit)
  /-- In `retry_missing_workloads_`. -/
  | retrying (rest : List WorkloadIndex)
  /-- In the two calls of `wait_children_` at the end of a cycle. -/
  | terminating
  | killing
  /-- In `wait_children_` at the end of the loop. -/
  | ending
  deriving DecidableEq, Repr

inductive Worker
  | none
  | ended
  | at (pc : Pc)
  deriving DecidableEq, Repr

/-- Where the user interface is in `stop`. -/
inductive Stopping
  | idle
  /-- Before `worker_.join()`. -/
  | joining
  /-- In `wait_children_`. -/
  | killing
  /-- Before the flags are cleared. -/
  | clearing
  deriving DecidableEq, Repr

structure BakingPiService where
  stop_requested : Bool := false
  running : Bool := false
  child_processes : List ChildProcess := []
  snapshot : BakingPiSnapshot := {}
  worker : Worker := .none
  stopping : Stopping := .idle
  deriving DecidableEq, Repr

/-! ## The children -/

namespace BakingPiService

variable (s : BakingPiService)

/-- `stop_children_`. -/
def stop_children (signal : Signal) : List Obs :=
  s.child_processes.map fun child => .signal child.pid signal

/-- The loop of `reap_children_` with the snapshot: the children that are left, and the exits. -/
def reap_loop (waitpid : ℕ → WaitResult) :
    List ChildProcess → BakingPiSnapshot → List ChildProcess × BakingPiSnapshot × List WorkloadExit
  | [], snapshot => ([], snapshot, [])
  | child :: children, snapshot =>
    let keep :=
      let rest := reap_loop waitpid children snapshot
      (child :: rest.1, rest.2)
    let erase (status : ℕ) :=
      let rest := reap_loop waitpid children
        (snapshot.set_workload_running child.workload_index false)
      (rest.1, rest.2.1, ⟨child.workload_index, status⟩ :: rest.2.2)
    match waitpid child.pid with
    | .running => keep
    | .exited status => erase status
    | .unknown => erase 0
    | .error => keep

/-- `reap_children_`. -/
def reap_children (answers : Answers) : BakingPiService × List WorkloadExit × List Obs :=
  let reaped := reap_loop answers.waitpid s.child_processes s.snapshot
  ({ s with child_processes := reaped.1, snapshot := reaped.2.1 }, reaped.2.2,
    s.child_processes.map fun child => .waitpid child.pid (answers.waitpid child.pid))

/-- `launch_workload_`. -/
def launch_workload (workload_index : WorkloadIndex) (answers : Answers) : BakingPiService :=
  if s.stop_requested then s
  else
    match answers.spawned with
    | none => { s with snapshot := s.snapshot.set_workload_running workload_index false }
    | some pid =>
      { s with
        child_processes := s.child_processes ++ [⟨pid, workload_index⟩]
        snapshot := s.snapshot.set_workload_running workload_index true }

/-- A workload is launched again, and that is counted. -/
def relaunch_workload (workload_index : WorkloadIndex) (answers : Answers) : BakingPiService :=
  { s with snapshot.restart_count := s.snapshot.restart_count + 1 }.launch_workload
    workload_index answers

/-- One round of `wait_children_`: whether it returns. -/
def wait_round (answers : Answers) : BakingPiService × Bool × List Obs :=
  let reaped := s.reap_children answers
  (reaped.1, reaped.1.child_processes.isEmpty || answers.late, reaped.2.2)

/-! ## The worker -/

/-- `worker_loop_`, from one step to the next. -/
def work (answers : Answers) : Pc → BakingPiService × List Obs
  | .cycle =>
    if s.stop_requested then ({ s with worker := .at .ending }, s.stop_children .SIGKILL)
    else
      ({ s with
          snapshot := { s.snapshot with
            cycle := s.snapshot.cycle + 1, in_gap := false }.clear_workloads
          worker := .at (.launching WorkloadIndex.all) }, [])
  | .launching [] => ({ s with worker := .at .monitoring }, [])
  | .launching (i :: rest) =>
    ({ s.launch_workload i answers with worker := .at (.launching rest) }, [])
  | .monitoring =>
    if s.stop_requested then ({ s with worker := .at .terminating }, s.stop_children .SIGTERM)
    else ({ s with worker := .at .reaping }, [])
  | .reaping =>
    let (s, exited, seen) := s.reap_children answers
    if answers.late then
      ({ s with worker := .at .terminating }, seen ++ s.stop_children .SIGTERM)
    else if s.stop_requested then ({ s with worker := .at .monitoring }, seen)
    else if exited = [] then ({ s with worker := .at (.retrying WorkloadIndex.all) }, seen)
    else ({ s with worker := .at (.restarting exited) }, seen)
  | .restarting [] => ({ s with worker := .at .monitoring }, [])
  | .restarting (workload_exit :: exited) =>
    ({ s.relaunch_workload workload_exit.workload_index answers with
        worker := .at (.restarting exited) }, [])
  | .retrying [] => ({ s with worker := .at .monitoring }, [])
  | .retrying (i :: rest) =>
    if s.stop_requested then ({ s with worker := .at .monitoring }, [])
    else if s.snapshot.workload_running i then ({ s with worker := .at (.retrying rest) }, [])
    else ({ s.relaunch_workload i answers with worker := .at (.retrying rest) }, [])
  | .terminating =>
    let (s, returns, seen) := s.wait_round answers
    if returns then ({ s with worker := .at .killing }, seen ++ s.stop_children .SIGKILL)
    else (s, seen)
  | .killing =>
    let (s, returns, seen) := s.wait_round answers
    if !returns then (s, seen)
    else if s.stop_requested then
      ({ s with worker := .at .ending }, seen ++ s.stop_children .SIGKILL)
    else ({ s with snapshot.in_gap := true, worker := .at .cycle }, seen)
  | .ending =>
    let (s, returns, seen) := s.wait_round answers
    if returns then
      ({ s with running := false, snapshot.running := false, worker := .ended }, seen)
    else (s, seen)

/-! ## The user interface -/

/-- `start`. -/
def start : BakingPiService :=
  if s.running then s
  else
    { s with
      stop_requested := false
      running := true
      snapshot := { running := true }
      child_processes := []
      worker := .at .cycle }

/-- The beginning of `stop`. -/
def stop : BakingPiService × List Obs :=
  if s.running = false ∧ s.worker = .none then (s, [])
  else ({ s with stop_requested := true, stopping := .joining }, s.stop_children .SIGTERM)

/-- The rest of `stop`, from one step to the next. -/
def stop_proceed (answers : Answers) : BakingPiService × List Obs :=
  match s.stopping, s.worker with
  | .idle, _ => (s, [])
  | .joining, .at _ => (s, [])
  | .joining, _ => ({ s with worker := .none, stopping := .killing }, s.stop_children .SIGKILL)
  | .killing, _ =>
    let (s, returns, seen) := s.wait_round answers
    if returns then ({ s with stopping := .clearing }, seen) else (s, seen)
  | .clearing, _ =>
    ({ s with
        running := false
        snapshot := { s.snapshot with running := false, in_gap := false }.clear_workloads
        stopping := .idle }, [])

end BakingPiService

/-! ## The machine -/

/-- A step of one of the two threads. -/
inductive Event
  | start
  | stop
  | stop_proceed (answers : Answers)
  | work (answers : Answers)

/-- A call is made only when the user interface is in none. -/
def step (s : BakingPiService) : Event → BakingPiService × List Obs
  | .start => if s.stopping = .idle then (s.start, []) else (s, [])
  | .stop => if s.stopping = .idle then s.stop else (s, [])
  | .stop_proceed answers => s.stop_proceed answers
  | .work answers =>
    match s.worker with
    | .at pc => s.work answers pc
    | _ => (s, [])

def service : Machine BakingPiService Event Obs := ⟨step⟩

end FactoryTest.Baking

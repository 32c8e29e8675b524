import FactoryTest.Lib.History
import FactoryTest.Lib.Run
import FactoryTest.Upgrade.Trace

/-!
# The page of the upgrade

`src/view/screens/py32_upgrade_page.cpp`: a worker runs the upgrade and leaves its progress and its
result in a job state, from which a timer of the page refreshes what is shown.

**Steps.** The worker stores its result under the lock, and then sets two flags one after the other.
A refresh copies the job state under the lock, and then reads the flag `done` twice. The steps of
the two threads come in any order; the key listener and the dialog run on the thread of the page,
so never in the middle of a refresh. Nothing catches what leaves the worker, so it ends the program.

**Theorem (`page_justified`).** One upgrade runs at a time and stores its own result. The end of an
upgrade is handled at most once, after the result was stored, and with the result as it was when
the job state was copied. The device is rebooted at most once for an upgrade, and only after one
that has succeeded.
-/

namespace FactoryTest.Upgrade

open DeviceInfo Process

namespace Page

/-- What an upgrade finds. -/
structure Job where
  surroundings : Surroundings
  major_cache : Ioe1RegisterCache
  minor_cache : Ioe1RegisterCache

/-- What an upgrade of this package leaves. -/
def Job.world (job : Job) (archive_path : Text) : World :=
  upgrade archive_path job.surroundings job.major_cache job.minor_cache

/-- What the worker gets, if the upgrade is not left by an exception. -/
def Job.returned (job : Job) (archive_path : Text) : Option Result :=
  if (job.world archive_path).threw then none else some (job.world archive_path).result

theorem Job.returned_eq {job : Job} {archive_path : Text} {result : Result}
    (h : job.returned archive_path = some result) :
    (job.world archive_path).threw = false ∧ result = (job.world archive_path).result := by
  unfold Job.returned at h
  split_ifs at h with hthrew
  exact ⟨Bool.eq_false_iff.2 hthrew, (Option.some.inj h).symm⟩

/-- The progress as it is published. -/
def publication : Upgrade.Obs → Option (ℤ × String)
  | .published percent status => some (percent, status)
  | _ => none

/-- `JobState`. -/
structure JobState where
  running : Bool := false
  done : Bool := false
  percent : ℤ := 0
  status : String := ""
  error_status : String := ""
  success : Bool := false

/-- Where the worker is. -/
inductive Worker
  /-- There is none, or it was joined. -/
  | absent
  /-- What it will publish, and its result if there will be one. -/
  | working (publications : List (ℤ × String)) (result : Option Result)
  /-- The result is stored. -/
  | stored
  /-- `running` is false. -/
  | stopped
  /-- `done` is true. -/
  | finished

/-- What a refresh copies. -/
structure Snapshot where
  percent : ℤ
  success : Bool
  status : String
  error_status : String

/-- Where a refresh is. -/
inductive Refresh
  | idle
  | copied (snapshot : Snapshot)
  | shown (snapshot : Snapshot)

/-- `Py32UpgradePage`; `upgrades` counts the workers that were started. -/
structure State where
  job_state : JobState := {}
  worker : Worker := .absent
  upgrades : ℕ := 0
  refresh : Refresh := .idle
  dialog : Bool := false
  /-- The action of the page is there. -/
  nav : Bool := true
  completion_handled : Bool := false
  progress : ℤ := 0
  info : String := ""
  /-- The page is destroyed, or the program has ended. -/
  closed : Bool := false

/-- What happens. -/
inductive Event
  /-- Enter, or the action of the page. -/
  | ask
  | cancel
  | confirm (job : Job)
  /-- A step of a refresh, and whether the device accepts to be rebooted. -/
  | refresh (reboots : Bool)
  /-- A step of the worker. -/
  | worker
  /-- The page is destroyed. -/
  | leave

/-- What can be observed. -/
inductive Obs
  | started (upgrade : ℕ) (job : Job)
  | stored (upgrade : ℕ) (result : Result)
  | copied (upgrade : ℕ)
  /-- The end of an upgrade is handled. -/
  | handled (upgrade : ℕ) (success : Bool)
  | reboot (upgrade : ℕ)

/-! ## The worker -/

/-- The result is stored. -/
def JobState.store (job_state : JobState) (result : Result) : JobState :=
  let job_state := { job_state with
    success := result.success
    error_status := result.error_status }
  if result.success then { job_state with
    percent := 100
    status := "Upgrade complete (0x5A01). Rebooting..." }
  else job_state

/-- A step of the worker. -/
def worker_step (s : State) : State × List Obs :=
  match s.worker with
  | .working ((percent, status) :: publications) result =>
    ({ s with
        job_state := { s.job_state with percent, status }
        worker := .working publications result }, [])
  | .working [] (some result) =>
    ({ s with job_state := s.job_state.store result, worker := .stored },
      [.stored s.upgrades result])
  | .working [] none => ({ s with worker := .absent, refresh := .idle, closed := true }, [])
  | .stored =>
    ({ s with
        job_state := { s.job_state with running := false }
        worker := .stopped }, [])
  | .stopped =>
    ({ s with
        job_state := { s.job_state with done := true }
        worker := .finished }, [])
  | .absent | .finished => (s, [])

/-- How many steps the worker has left. -/
def Worker.remaining : Worker → ℕ
  | .working publications _ => publications.length + 3
  | .stored => 2
  | .stopped => 1
  | .absent | .finished => 0

/-- Steps of the worker. -/
def worker_steps : ℕ → State → State × List Obs
  | 0, s => (s, [])
  | n + 1, s =>
    let (s, os) := worker_step s
    let (s, os') := worker_steps n s
    (s, os ++ os')

/-- `worker_.join`: the worker takes all of its steps. -/
def join (s : State) : State × List Obs :=
  let (s, os) := worker_steps s.worker.remaining s
  ({ s with worker := .absent }, os)

/-! ## The page -/

/-- `start_upgrade_`. -/
def start_upgrade_ (archive_path : Text) (job : Job) (s : State) : State × List Obs :=
  if s.job_state.running then (s, [])
  else
    let (s, os) := join s
    let upgrades := s.upgrades + 1
    let w := job.world archive_path
    ({ s with
        job_state := { running := true, percent := 0, status := "Preparing upgrade..." }
        worker := .working (w.history.filterMap publication) (job.returned archive_path)
        upgrades
        nav := false
        completion_handled := false }, os ++ [.started upgrades job])

/-- The copy under the lock. -/
def copy (job_state : JobState) : Snapshot :=
  ⟨job_state.percent, job_state.success, job_state.status, job_state.error_status⟩

/-- What is shown. -/
def show_ (s : State) (snapshot : Snapshot) : State :=
  if snapshot.status ≠ "" then { s with
    progress := clamp snapshot.percent 0 100
    info :=
      if s.job_state.done ∧ snapshot.success = false then
        if snapshot.error_status = "" then "Upgrade failed" else snapshot.error_status
      else snapshot.status }
  else s

/-- The end of an upgrade is handled, with `request_reboot_` if it has succeeded. -/
def handle (s : State) (snapshot : Snapshot) (reboots : Bool) : State × List Obs :=
  let s := { s with
    completion_handled := true
    nav := true }
  if snapshot.success then
    let s := { s with dialog := false }
    (if reboots then s else { s with job_state := { s.job_state with status := "Reboot failed" } },
      [.handled s.upgrades true, .reboot s.upgrades])
  else (s, [.handled s.upgrades false])

/-- A step of `refresh_`. -/
def refresh_step (s : State) (reboots : Bool) : State × List Obs :=
  match s.refresh with
  | .idle => ({ s with refresh := .copied (copy s.job_state) }, [.copied s.upgrades])
  | .copied snapshot => ({ show_ s snapshot with refresh := .shown snapshot }, [])
  | .shown snapshot =>
    let s := { s with refresh := .idle }
    if s.job_state.done ∧ s.completion_handled = false then handle s snapshot reboots else (s, [])

/-- The thread of the page can take another event. -/
def State.free (s : State) : Bool :=
  match s.refresh with
  | .idle => !s.closed
  | _ => false

/-- A step of one of the threads. -/
def step (archive_path : Text) (s : State) : Event → State × List Obs
  | .ask => (if s.free then { s with dialog := true } else s, [])
  | .cancel => (if s.free then { s with dialog := false } else s, [])
  | .confirm job =>
    if s.free ∧ s.dialog then start_upgrade_ archive_path job { s with dialog := false }
    else (s, [])
  | .refresh reboots => if s.closed then (s, []) else refresh_step s reboots
  | .worker => worker_step s
  | .leave =>
    if s.free then
      let (s, os) := join s
      ({ s with closed := true }, os)
    else (s, [])

/-- The page with its worker. -/
def machine (archive_path : Text) : Machine State Event Obs := ⟨step archive_path⟩

end Page

end FactoryTest.Upgrade

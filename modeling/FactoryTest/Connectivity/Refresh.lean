import FactoryTest.Lib.History
import FactoryTest.Lib.Run
import Mathlib.Data.Int.Notation

/-!
# Results from the background

The models of `src/model/connectivity_test_model.cpp` that read the hardware in the background: a
call of `refresh` takes the result of the last task if it is ready, and starts the next task if
there is none and it is time.

**Runs.** Calls of `refresh` and ends of tasks in any order, with any readings of the clock. A call
is observed with what it took and started, with what was shown before and after it, and with what
it returned.

**Theorems (`refresh_justified`, `i2c_justified`).** There is one task at a time, and the results
are taken once and in their order. A task that was not forced starts five seconds or more after the
last one; one at the epoch of the clock counts as none. What is shown is the last result that was
taken; only while a task runs and there is nothing to show is it the text of the model. A call
reports a change whenever what is shown has changed.
-/

namespace FactoryTest.Connectivity

/-! ## The models -/

/-- `ScanItem`. -/
structure ScanItem where
  name : String
  detail : String
  strength_percent : ℤ := -1
  bssid : String := ""
  deriving DecidableEq

/-- `InfoField`. -/
structure InfoField where
  label : String
  value : String
  deriving DecidableEq

/-- `I2cAddressState`. -/
inductive I2cAddressState
  | ABSENT
  | PRESENT
  | KERNEL_DRIVER
  deriving DecidableEq

/-- `I2cAddress`. -/
structure I2cAddress where
  address : UInt8
  state : I2cAddressState
  deriving DecidableEq

/-- A result, and what is shown: `ScanResult`, `InfoResult` and `I2cResult`. -/
@[ext] structure BackendResult (α : Type) where
  items : List α := []
  error_message : String := ""
  deriving DecidableEq

/-- A task that runs, or one whose result is ready. -/
inductive BackendTask (α : Type)
  | running
  | ready (result : BackendResult α)
  deriving DecidableEq

/-- A model; no task has been started at the epoch of the clock. -/
structure BackendModel (α : Type) where
  shown : BackendResult α := {}
  refresh_task : Option (BackendTask α) := none
  last_refresh_start : ℕ := 0
  deriving DecidableEq

/-- In milliseconds. -/
def K_BACKEND_REFRESH_INTERVAL : ℕ := 5000

/-- `refresh_interval_elapsed`. -/
def refresh_interval_elapsed (last_refresh_start now : ℕ) : Bool :=
  last_refresh_start = 0 ∨ (now : ℤ) - last_refresh_start ≥ K_BACKEND_REFRESH_INTERVAL

/-- The arguments of a call, and the two readings of the clock. -/
structure Arguments where
  force_refresh : Bool
  now : ℕ
  start : ℕ
  deriving DecidableEq

namespace BackendModel

variable {α : Type} [DecidableEq α]

/-- `set_scan_result_`, `set_info_`, `set_devices_` and `set_addresses_`. -/
def set_result_ (m : BackendModel α) (result : BackendResult α) : BackendModel α × Bool :=
  if m.shown = result then (m, false) else ({ m with shown := result }, true)

/-- What every `refresh` begins with. -/
def take_result (m : BackendModel α) : BackendModel α × Bool :=
  match m.refresh_task with
  | some (.ready result) => set_result_ { m with refresh_task := none } result
  | _ => (m, false)

/-- The next task is started if there is none and it is time. -/
def start_task (m : BackendModel α) (a : Arguments) : BackendModel α × Bool :=
  if m.refresh_task = none ∧
      (a.force_refresh ∨ refresh_interval_elapsed m.last_refresh_start a.now) then
    ({ m with
        refresh_task := some .running
        last_refresh_start := a.start }, true)
  else (m, false)

/-- `refresh` of the models that show a text while they have nothing else to show. -/
def refresh (text : String) (m : BackendModel α) (a : Arguments) : BackendModel α × Bool :=
  let (m, changed) := m.take_result
  let (m, started) := m.start_task a
  if started ∧ m.shown.items = [] ∧ m.shown.error_message = "" then
    let (m, changed') := m.set_result_ { error_message := text }
    (m, changed || changed')
  else (m, changed)

end BackendModel

def WifiConnectivityModel.refresh :
    BackendModel ScanItem → Arguments → BackendModel ScanItem × Bool :=
  BackendModel.refresh "Scanning Wi-Fi..."

def BluetoothConnectivityModel.refresh :
    BackendModel ScanItem → Arguments → BackendModel ScanItem × Bool :=
  BackendModel.refresh "Scanning Bluetooth..."

def EthernetConnectivityModel.refresh :
    BackendModel InfoField → Arguments → BackendModel InfoField × Bool :=
  BackendModel.refresh "Reading Ethernet..."

def UsbConnectivityModel.refresh :
    BackendModel ScanItem → Arguments → BackendModel ScanItem × Bool :=
  BackendModel.refresh "Scanning USB..."

def SpiConnectivityModel.refresh :
    BackendModel ScanItem → Arguments → BackendModel ScanItem × Bool :=
  BackendModel.refresh "Scanning SPI..."

def HdmiConnectivityModel.refresh :
    BackendModel InfoField → Arguments → BackendModel InfoField × Bool :=
  BackendModel.refresh "Reading HDMI..."

/-- It shows no text, and reports that a scan begins or ends. -/
def I2cConnectivityModel.refresh (m : BackendModel I2cAddress) (a : Arguments) :
    BackendModel I2cAddress × Bool :=
  let was_scanning := m.refresh_task.isSome
  let (m, changed) := m.take_result
  let (m, started_scan) := m.start_task a
  (m, changed || started_scan || was_scanning != m.refresh_task.isSome)

/-! ## Runs -/

namespace BackendModel

/-- What happens to a model. -/
inductive Event (α : Type)
  | refresh (a : Arguments)
  /-- The task comes to its end. -/
  | finish (result : BackendResult α)

/-- A call as it is observed. -/
structure Call (α : Type) where
  arguments : Arguments
  taken : Option (BackendResult α)
  started : Bool
  before : BackendResult α
  after : BackendResult α
  changed : Bool

inductive Obs (α : Type)
  | called (call : Call α)
  | finished (result : BackendResult α)

variable {α : Type}

/-- The result that is ready. -/
def ready (m : BackendModel α) : Option (BackendResult α) :=
  match m.refresh_task with
  | some (.ready result) => some result
  | _ => none

/-- A task runs. -/
def running (m : BackendModel α) : Bool :=
  match m.refresh_task with
  | some .running => true
  | _ => false

/-- What is observed of a call. -/
def call (m : BackendModel α) (a : Arguments) (m' : BackendModel α) (changed : Bool) : Call α :=
  ⟨a, m.ready, !m.running && m'.running, m.shown, m'.shown, changed⟩

/-- One of the models, by its `refresh`. -/
def machine (refresh : BackendModel α → Arguments → BackendModel α × Bool) :
    Machine (BackendModel α) (Event α) (Obs α) where
  step m
    | .refresh a =>
      let (m', changed) := refresh m a
      (m', [.called (m.call a m' changed)])
    | .finish result =>
      if m.running then ({ m with refresh_task := some (.ready result) }, [.finished result])
      else (m, [])

/-! ## What is observed -/

/-- The results, in the order of their tasks. -/
def finished (os : List (Obs α)) : List (BackendResult α) :=
  os.filterMap fun
    | .finished result => some result
    | .called _ => none

/-- The results that were taken. -/
def taken (os : List (Obs α)) : List (BackendResult α) :=
  os.filterMap fun
    | .called call => call.taken
    | .finished _ => none

/-- The calls that started a task. -/
def starts (os : List (Obs α)) : List Arguments :=
  os.filterMap fun
    | .called call => if call.started then some call.arguments else none
    | .finished _ => none

/-- A call may start a task. -/
def Due (os : List (Obs α)) (a : Arguments) : Prop :=
  a.force_refresh = true ∨ ∀ last ∈ (starts os).getLast?,
    last.start = 0 ∨ last.start + K_BACKEND_REFRESH_INTERVAL ≤ a.now

/-- What is shown while a task runs, or while none does. -/
def display (wait : BackendResult α → BackendResult α) (idle : Bool) (last : BackendResult α) :
    BackendResult α := if idle then last else wait last

/-- A call, given what was observed before it. What is shown while a task runs is said by `wait`,
and what a call reports by `Reports`. -/
structure Right (wait : BackendResult α → BackendResult α) (Reports : Call α → Prop)
    (os : List (Obs α)) (call : Call α) : Prop where
  takes : finished os = taken os ++ call.taken.toList
  begins : call.started = true ↔
    (starts os).length = (finished os).length ∧ Due os call.arguments
  before : call.before =
    display wait ((starts os).length = (taken os).length) ((taken os).getLastD {})
  after : call.after = display wait
    ((starts os).length = (finished os).length ∧ call.started = false) ((finished os).getLastD {})
  changed : call.changed = true ↔ Reports call

/-- What may be observed: a task ends only while it runs. -/
def Justifies (wait : BackendResult α → BackendResult α) (Reports : Call α → Prop)
    (os : List (Obs α)) : Obs α → Prop
  | .called call => Right wait Reports os call
  | .finished _ => (starts os).length = (finished os).length + 1

/-- What the models with a text show while a task runs. -/
def waiting [DecidableEq α] (text : String) (last : BackendResult α) : BackendResult α :=
  if last = {} then { error_message := text } else last

/-- What is shown has changed, or a result was taken that was not shown. -/
def Changes (call : Call α) : Prop :=
  call.after ≠ call.before ∨ ∃ result ∈ call.taken, result ≠ call.before

/-- A scan begins or ends. -/
def Scans (call : Call α) : Prop := call.started = true ∨ call.taken.isSome = true

/-! ## A call -/

/-- What a call leaves. -/
def next (wait : BackendResult α → BackendResult α) (m : BackendModel α) (a : Arguments) :
    BackendModel α :=
  if m.running then m
  else if a.force_refresh ∨ refresh_interval_elapsed m.last_refresh_start a.now then
    ⟨wait (m.ready.getD m.shown), some .running, a.start⟩
  else ⟨m.ready.getD m.shown, none, m.last_refresh_start⟩

variable (m : BackendModel α) (a : Arguments)

theorem start_task_running (h : m.running = true) : m.start_task a = (m, false) := by
  have htask : m.refresh_task ≠ none := by
    intro hnone
    simp [running, hnone] at h
  rw [start_task, if_neg fun hstart => htask hstart.1]

/-- While a task runs there is no result. -/
theorem ready_of_running (h : m.running = true) : m.ready = none := by
  unfold running at h
  unfold ready
  split at h
  · rename_i htask
    rw [htask]
  · exact absurd h (by decide)

/-- There is a result that is not shown. -/
theorem getD_ne_iff : m.ready.getD m.shown ≠ m.shown ↔ ∃ result ∈ m.ready, result ≠ m.shown := by
  cases m.ready <;> simp

section

variable [DecidableEq α]

theorem take_result_spec (h : m.running = false) :
    m.take_result = (⟨m.ready.getD m.shown, none, m.last_refresh_start⟩,
      decide (m.ready.getD m.shown ≠ m.shown)) := by
  obtain ⟨shown, _ | _ | result, last⟩ := m
  · simp [take_result, ready]
  · exact absurd h (by simp [running])
  · unfold take_result set_result_ ready
    by_cases hsame : shown = result
    · simp [hsame]
    · simp [hsame, Ne.symm hsame]

theorem take_result_running (h : m.running = true) : m.take_result = (m, false) := by
  obtain ⟨shown, _ | _ | result, last⟩ := m
  · exact absurd h (by simp [running])
  · rfl
  · exact absurd h (by simp [running])

/-- What a call leaves and returns while no task runs. -/
theorem refresh_idle (text : String) (h : m.running = false) :
    (refresh text m a).1 = next (waiting text) m a ∧ ((refresh text m a).2 = true ↔
      m.ready.getD m.shown ≠ m.shown ∨ (next (waiting text) m a).running = true ∧
        waiting text (m.ready.getD m.shown) ≠ m.ready.getD m.shown) := by
  unfold refresh next
  rw [take_result_spec m h]
  generalize m.ready.getD m.shown = last
  simp only [start_task, h, true_and, Bool.false_eq_true, if_false]
  by_cases hdue : a.force_refresh = true ∨
      refresh_interval_elapsed m.last_refresh_start a.now = true
  · simp only [hdue, if_true]
    by_cases hempty : last.items = [] ∧ last.error_message = ""
    · obtain rfl : last = {} := BackendResult.ext hempty.1 hempty.2
      rw [if_pos ⟨trivial, hempty⟩]
      unfold set_result_
      by_cases htext : ({} : BackendResult α) = { error_message := text }
      · simp [htext, waiting]
      · have hne : text ≠ "" := fun h => htext (by rw [h])
        simp [hne, htext, waiting, running]
    · have hne : last ≠ {} := fun h => hempty ⟨by rw [h], by rw [h]⟩
      rw [if_neg fun h => hempty h.2]
      simp [waiting, hne]
  · simp [hdue, running]

theorem refresh_spec (text : String) : (refresh text m a).1 = next (waiting text) m a ∧
    ((refresh text m a).2 = true ↔
      Changes (m.call a (refresh text m a).1 (refresh text m a).2)) := by
  by_cases hrunning : m.running = true
  · have hsame : refresh text m a = (m, false) := by
      unfold refresh
      rw [take_result_running m hrunning]
      dsimp only
      rw [start_task_running m a hrunning]
      simp
    rw [hsame, next, if_pos hrunning]
    simp [Changes, call, ready_of_running m hrunning]
  · obtain ⟨hstate, hchanged⟩ := refresh_idle m a text (Bool.eq_false_iff.2 hrunning)
    refine ⟨hstate, hchanged.trans ?_⟩
    unfold Changes call
    rw [hstate, next, if_neg hrunning, ← getD_ne_iff]
    generalize m.ready.getD m.shown = last
    by_cases hlast : last = m.shown
    · by_cases hdue : a.force_refresh = true ∨
          refresh_interval_elapsed m.last_refresh_start a.now = true
      · simp [hdue, hlast, running]
      · simp [hdue, hlast, running]
    · simp [hlast]

theorem i2c_refresh_spec (m : BackendModel I2cAddress) (a : Arguments) :
    (I2cConnectivityModel.refresh m a).1 = next id m a ∧
      ((I2cConnectivityModel.refresh m a).2 = true ↔ Scans (m.call a
        (I2cConnectivityModel.refresh m a).1 (I2cConnectivityModel.refresh m a).2)) := by
  by_cases hrunning : m.running = true
  · have htask : m.refresh_task.isSome = true := by
      cases htask : m.refresh_task with
      | none => simp [running, htask] at hrunning
      | some task => rfl
    have hsame : I2cConnectivityModel.refresh m a = (m, false) := by
      unfold I2cConnectivityModel.refresh
      rw [take_result_running m hrunning]
      dsimp only
      rw [start_task_running m a hrunning]
      simp
    rw [hsame, next, if_pos hrunning]
    simp [Scans, call, ready_of_running m hrunning, hrunning]
  · have hidle := Bool.eq_false_iff.2 hrunning
    have htask : m.refresh_task.isSome = m.ready.isSome := by
      obtain ⟨shown, _ | _ | result, last⟩ := m
      · rfl
      · exact absurd rfl hrunning
      · rfl
    unfold I2cConnectivityModel.refresh next Scans call
    rw [take_result_spec m hidle, if_neg hrunning, htask]
    simp only [start_task, hidle, true_and, id]
    cases hresult : m.ready with
    | none =>
      by_cases hdue : a.force_refresh = true ∨
          refresh_interval_elapsed m.last_refresh_start a.now = true
      · simp [hdue, running]
      · simp [hdue, running]
    | some result =>
      by_cases hdue : a.force_refresh = true ∨
          refresh_interval_elapsed m.last_refresh_start a.now = true
      · simp [hdue]
      · simp [hdue]

end

/-! ## Runs -/

/-- What holds between the events. -/
structure Inv (wait : BackendResult α → BackendResult α) (m : BackendModel α)
    (os : List (Obs α)) : Prop where
  results : finished os = taken os ++ m.ready.toList
  tasks : (starts os).length = (taken os).length + if m.refresh_task = none then 0 else 1
  last_start : m.last_refresh_start = (starts os).getLast?.elim 0 Arguments.start
  shown : m.shown = display wait (m.refresh_task = none) ((taken os).getLastD {})

section

variable {wait : BackendResult α → BackendResult α} {Reports : Call α → Prop}
  {m : BackendModel α} {os : List (Obs α)}

theorem taken_called (c : Call α) : taken (os ++ [.called c]) = taken os ++ c.taken.toList := by
  rw [taken, List.filterMap_append]
  cases h : c.taken <;> simp [taken, h]

theorem starts_called (c : Call α) :
    starts (os ++ [.called c]) = starts os ++ if c.started then [c.arguments] else [] := by
  rw [starts, List.filterMap_append]
  cases h : c.started <;> simp [starts, h]

theorem finished_called (c : Call α) : finished (os ++ [.called c]) = finished os := by
  rw [finished, List.filterMap_append]
  simp [finished]

/-- The end of a task is no call. -/
theorem ended (os : List (Obs α)) (result : BackendResult α) :
    finished (os ++ [.finished result]) = finished os ++ [result] ∧
      taken (os ++ [.finished result]) = taken os ∧
      starts (os ++ [.finished result]) = starts os := by
  refine ⟨?_, ?_, ?_⟩
  · rw [finished, List.filterMap_append]
    rfl
  · rw [taken, List.filterMap_append]
    exact List.append_nil _
  · rw [starts, List.filterMap_append]
    exact List.append_nil _

/-- While a task runs, one more was started than has ended. -/
theorem Inv.running (h : Inv wait m os) (hrunning : m.running = true) :
    (starts os).length = (finished os).length + 1 ∧ finished os = taken os ∧
      m.shown = wait ((taken os).getLastD {}) := by
  have htask : m.refresh_task ≠ none := by
    intro hnone
    simp [BackendModel.running, hnone] at hrunning
  have hresults : finished os = taken os := by
    rw [h.results, ready_of_running m hrunning]
    exact List.append_nil _
  refine ⟨?_, hresults, ?_⟩
  · rw [h.tasks, if_neg htask, hresults]
  · rw [h.shown, display, if_neg (by simpa using htask)]

/-- While none runs, all that were started have ended, and the last result is there. -/
theorem Inv.idle (h : Inv wait m os) (hidle : m.running = false) :
    (starts os).length = (finished os).length ∧
      m.ready.getD m.shown = (finished os).getLastD {} := by
  have hresults := h.results
  have htasks := h.tasks
  have hshown := h.shown
  unfold BackendModel.running at hidle
  unfold ready at hresults ⊢
  rcases htask : m.refresh_task with _ | _ | result
  · simp only [htask, if_true] at htasks hresults hshown
    simp only [Option.toList_none, List.append_nil] at hresults
    simp [hresults, htasks, hshown, display]
  · simp [htask] at hidle
  · simp only [htask, Option.toList_some] at htasks hresults
    simp [hresults, htasks]

/-- What is shown, in terms of what was observed. -/
theorem Inv.before (h : Inv wait m os) : m.shown =
    display wait ((starts os).length = (taken os).length) ((taken os).getLastD {}) := by
  have htask : m.refresh_task = none ↔ (starts os).length = (taken os).length := by
    rw [h.tasks]
    split_ifs with hnone <;> simp [hnone]
  rw [h.shown]
  simp only [htask]

theorem due_iff (h : Inv wait m os) (a : Arguments) :
    Due os a ↔ a.force_refresh = true ∨ refresh_interval_elapsed m.last_refresh_start a.now := by
  refine or_congr Iff.rfl ?_
  rw [h.last_start, refresh_interval_elapsed, decide_eq_true_iff]
  rcases (starts os).getLast? with _ | last
  · simp
  · simp only [Option.mem_def, Option.some.injEq, forall_eq', Option.elim]
    omega

/-- A call while a task runs. -/
theorem inv_called_running (h : Inv wait m os) (hrunning : m.running = true) (a : Arguments)
    {changed : Bool} (hchanged : changed = true ↔ Reports (m.call a m changed)) :
    Right wait Reports os (m.call a m changed) ∧
      Inv wait m (os ++ [.called (m.call a m changed)]) := by
  obtain ⟨hstarts, hresults, hshown⟩ := h.running hrunning
  have hready := ready_of_running m hrunning
  have hstarted : (m.call a m changed).started = false := by simp [call, hrunning]
  have htaken : (m.call a m changed).taken = none := hready
  have hlater : (starts os).length ≠ (finished os).length := by omega
  refine ⟨⟨?_, ?_, h.before, ?_, hchanged⟩, ?_, ?_, ?_, ?_⟩
  · rw [htaken, hresults]
    exact (List.append_nil _).symm
  · simp [hstarted, hlater]
  · show m.shown = _
    rw [display, if_neg (by simp [hlater]), hresults, hshown]
  · rw [finished_called, taken_called, htaken, hready, hresults]
    simp
  · rw [starts_called, taken_called, htaken, hstarted]
    simpa using h.tasks
  · rw [starts_called, hstarted]
    simpa using h.last_start
  · rw [taken_called, htaken]
    simpa using h.shown

/-- A call while no task runs. -/
theorem inv_called_idle {m' : BackendModel α} (h : Inv wait m os) (hidle : m.running = false)
    (a : Arguments) {changed : Bool} (hchanged : changed = true ↔ Reports (m.call a m' changed))
    (htask : m'.refresh_task = if m'.running then some .running else none)
    (hstart : m'.running = true ↔ Due os a)
    (hshown : m'.shown = display wait (!m'.running) ((finished os).getLastD {}))
    (hlast : m'.last_refresh_start = if m'.running then a.start else m.last_refresh_start) :
    Right wait Reports os (m.call a m' changed) ∧
      Inv wait m' (os ++ [.called (m.call a m' changed)]) := by
  obtain ⟨hstarts, -⟩ := h.idle hidle
  have hall : taken os ++ m.ready.toList = finished os := h.results.symm
  have hstarted : (m.call a m' changed).started = m'.running := by
    show (!m.running && m'.running) = m'.running
    rw [hidle]
    rfl
  have hready : m'.ready = none := by
    unfold ready
    rw [htask]
    cases m'.running <;> rfl
  refine ⟨⟨hall.symm, ?_, h.before, ?_, hchanged⟩, ?_, ?_, ?_, ?_⟩
  · rw [hstarted, hstart]
    exact (and_iff_right hstarts).symm
  · show m'.shown = _
    rw [hshown, hstarted]
    cases m'.running <;> simp [hstarts]
  · rw [finished_called, taken_called, hready]
    exact hall.symm.trans (List.append_nil _).symm
  · rw [starts_called, taken_called, hstarted, List.length_append, hstarts, htask]
    show _ = (taken os ++ m.ready.toList).length + _
    rw [hall]
    cases m'.running <;> rfl
  · rw [starts_called, hstarted, hlast]
    cases m'.running with
    | true => simp [call]
    | false => simpa using h.last_start
  · rw [taken_called, hshown, htask]
    show _ = display wait _ ((taken os ++ m.ready.toList).getLastD {})
    rw [hall]
    cases m'.running <;> rfl

/-- A call. -/
theorem inv_called (h : Inv wait m os) (a : Arguments) {changed : Bool}
    (hchanged : changed = true ↔ Reports (m.call a (next wait m a) changed)) :
    Right wait Reports os (m.call a (next wait m a) changed) ∧
      Inv wait (next wait m a) (os ++ [.called (m.call a (next wait m a) changed)]) := by
  by_cases hrunning : m.running = true
  · have hnext : next wait m a = m := if_pos hrunning
    rw [hnext] at hchanged ⊢
    exact inv_called_running h hrunning a hchanged
  · have hidle := Bool.eq_false_iff.2 hrunning
    have hlast := (h.idle hidle).2
    have hdue := due_iff h a
    by_cases hstart : a.force_refresh = true ∨
        refresh_interval_elapsed m.last_refresh_start a.now = true
    · have hstate : next wait m a = ⟨wait ((finished os).getLastD {}), some .running, a.start⟩ := by
        rw [next, if_neg hrunning, if_pos hstart, hlast]
      rw [hstate] at hchanged ⊢
      exact inv_called_idle h hidle a hchanged rfl (iff_of_true rfl (hdue.2 hstart)) rfl rfl
    · have hstate : next wait m a = ⟨(finished os).getLastD {}, none, m.last_refresh_start⟩ := by
        rw [next, if_neg hrunning, if_neg hstart, hlast]
      rw [hstate] at hchanged ⊢
      exact inv_called_idle h hidle a hchanged rfl
        (iff_of_false Bool.false_ne_true fun h => hstart (hdue.1 h)) rfl rfl

theorem inv_step {f : BackendModel α → Arguments → BackendModel α × Bool}
    (hf : ∀ m a, (f m a).1 = next wait m a ∧
      ((f m a).2 = true ↔ Reports (m.call a (f m a).1 (f m a).2)))
    (hright : Justified (Justifies wait Reports) os) (h : Inv wait m os) (e : Event α) :
    Justified (Justifies wait Reports) (os ++ ((machine f).step m e).2) ∧
      Inv wait ((machine f).step m e).1 (os ++ ((machine f).step m e).2) := by
  cases e with
  | refresh a =>
    obtain ⟨hstate, hchanged⟩ := hf m a
    have hcalled : Right wait Reports os (m.call a (f m a).1 (f m a).2) ∧
        Inv wait (f m a).1 (os ++ [.called (m.call a (f m a).1 (f m a).2)]) := by
      rw [hstate] at hchanged ⊢
      exact inv_called h a hchanged
    exact ⟨justified_concat.2 ⟨hright, hcalled.1⟩, hcalled.2⟩
  | finish result =>
    cases hrunning : m.running with
    | false =>
      have hsame : (machine f).step m (.finish result) = (m, []) := by simp [machine, hrunning]
      rw [hsame, List.append_nil]
      exact ⟨hright, h⟩
    | true =>
      have hstep : (machine f).step m (.finish result) =
          ({ m with refresh_task := some (.ready result) }, [.finished result]) := by
        simp [machine, hrunning]
      obtain ⟨hstarts, hresults, hshown⟩ := h.running hrunning
      rw [hstep]
      obtain ⟨hfinished, htaken, hsame⟩ := ended os result
      refine ⟨justified_concat.2 ⟨hright, hstarts⟩, ?_, ?_, ?_, ?_⟩
      · rw [hfinished, htaken, hresults]
        rfl
      · rw [hsame, htaken, hstarts, hresults]
        rfl
      · rw [hsame]
        exact h.last_start
      · rw [htaken]
        exact hshown

theorem inv_init : Inv wait {} ([] : List (Obs α)) := ⟨rfl, rfl, rfl, rfl⟩

/-- What every run of a model shows. -/
theorem justified_of_spec {f : BackendModel α → Arguments → BackendModel α × Bool}
    (hf : ∀ m a, (f m a).1 = next wait m a ∧
      ((f m a).2 = true ↔ Reports (m.call a (f m a).1 (f m a).2))) (es : List (Event α)) :
    Justified (Justifies wait Reports) ((machine f).run ⟨{}, []⟩ es).history :=
  ((machine f).run_invariant
    (I := fun c => Justified (Justifies wait Reports) c.history ∧ Inv wait c.state c.history)
    (fun _ e h => inv_step hf h.1 h.2 e) ⟨justified_nil _, inv_init⟩ es).1

end

/-- The models with a text, in any order of calls and ends of tasks. -/
theorem refresh_justified [DecidableEq α] (text : String) (es : List (Event α)) :
    Justified (Justifies (waiting text) Changes)
      ((machine (BackendModel.refresh text)).run ⟨{}, []⟩ es).history :=
  justified_of_spec (fun m a => refresh_spec m a text) es

/-- The model of the I2C bus. -/
theorem i2c_justified (es : List (Event I2cAddress)) :
    Justified (Justifies id Scans)
      ((machine I2cConnectivityModel.refresh).run ⟨{}, []⟩ es).history :=
  justified_of_spec i2c_refresh_spec es

end BackendModel

end FactoryTest.Connectivity

import FactoryTest.Lib.Program
import Mathlib.Data.Nat.Notation

/-!
# The CAP fixture test and its surroundings

The state of `CapFixtureTestModel` in `src/model/cap_fixture_test_model.cpp`, the services that
its worker calls, and what other threads do meanwhile.

**Time and other threads.** Between any two steps of the worker some time passes, and calls of
`cancel` may make progress: such a call first looks whether the run is `RUNNING`, and later sets
the flag. The surroundings say what happens, and what every call of a service answers. The clock
is in milliseconds and does not go back.

**History.** Every call of a service with its answer, every delay with whether it was completed,
and every change of the snapshot. Messages to the log are left out, and so is
`host_external_uart_selected_`, which nothing reads.
-/

namespace FactoryTest.Fixture

def K_POWER_ITEM : ℕ := 0
def K_I2C_ITEM : ℕ := 1
def K_GROVE_I2C_ITEM : ℕ := 2
def K_UART_ITEM : ℕ := 3
def K_GROVE_UART_ITEM : ℕ := 4
def K_SPI_ITEM : ℕ := 5
def K_USB_ITEM : ℕ := 6
def K_GPIO_ITEM : ℕ := 7

/-! ## The snapshot -/

/-- `CapFixtureRunState`. -/
inductive CapFixtureRunState
  | IDLE
  | RUNNING
  | PASSED
  | FAILED
  | CANCELED
  deriving DecidableEq

/-- `CapFixtureItemState`. -/
inductive CapFixtureItemState
  | PENDING
  | RUNNING
  | PASSED
  | FAILED
  deriving DecidableEq

/-- `CapFixtureItemSnapshot`. -/
structure CapFixtureItemSnapshot where
  name : String
  state : CapFixtureItemState := .PENDING
  detail : String := "Waiting"
  deriving DecidableEq

/-- `CapFixtureSnapshot`. -/
structure CapFixtureSnapshot where
  state : CapFixtureRunState := .IDLE
  items : List CapFixtureItemSnapshot := []
  active_index : ℕ := 0
  headline : String := "Install CAP fixture, then press Enter"
  error_message : String := ""
  revision : ℕ := 0
  deriving DecidableEq

/-- `CapFixtureTestModel`; its constructor names the items. -/
structure CapFixtureTestModel where
  snapshot : CapFixtureSnapshot := { items :=
    [{ name := "Power" }, { name := "I2C" }, { name := "Grove I2C" }, { name := "UART" },
      { name := "Grove UART" }, { name := "SPI" }, { name := "USB" }, { name := "GPIO" }] }
  active_item : ℕ := 6
  host_pin_function_known : Bool := false
  host_usb_function_selected : Bool := false
  gpio_test_lines_released : Bool := false
  cap_grove_i2c_active : Bool := false
  cap_grove_uart_active : Bool := false
  uart_session : Bool := false
  deriving DecidableEq

/-- The item gets a new state and detail. -/
def CapFixtureSnapshot.set_item (s : CapFixtureSnapshot) (index : ℕ) (state : CapFixtureItemState)
    (detail : String) : CapFixtureSnapshot :=
  { s with items := s.items.modify index fun item => { item with state, detail } }

/-! ## Services -/

/-- A call of a service. -/
inductive Call
  | set_external_bus_i2c_mode (enabled : Bool)
  | set_ext_5v_enabled (enabled : Bool)
  | set_grove_5v_enabled (enabled : Bool)
  | write_register (reg : UInt8) (data : List UInt8)
  | read_register (reg : UInt8) (size : ℕ)
  | read_charge_report
  | uart_open
  | uart_read_available
  | uart_write_text (text : List UInt8)
  | spi_transfer (tx : List UInt8)
  | select_usb_function
  | select_gpio_function
  | wait_for_usb_device
  | reset_usb_hub
  /-- `receive_usb_hid_text` waits until it can listen, and calls its `ready_action` then. -/
  | open_usb_hid
  | receive_usb_hid_text (expected : String)
  | wait_for_usb_disconnect
  | set_gpio_test_outputs (active : Bool)
  | read_gpio_test_output_levels
  | set_gpio_test_inputs
  deriving DecidableEq

/-- What a call answers: whether it succeeded, its `error_message` and its data. -/
structure Answer where
  ok : Bool := true
  error : String := ""
  bytes : List UInt8 := []
  deriving DecidableEq

/-- How many bytes a call fills in. -/
def Call.size : Call → Option ℕ
  | .read_register _ size => some size
  | .read_charge_report => some 1
  | .spi_transfer tx => some tx.length
  | .read_gpio_test_output_levels => some 1
  | _ => none

/-- A call that fills in so many bytes answers with so many. -/
def Answer.fit (a : Answer) (c : Call) : Answer :=
  match c.size with
  | none => a
  | some size => { a with bytes := (List.range size).map fun i => a.bytes.getD i 0 }

/-- What a call of `cancel` does next: look at the snapshot, or set the flag after it has. -/
inductive CancelStep
  | look
  | set
  deriving DecidableEq

/-- What happens between two steps of the worker. -/
structure Meanwhile where
  elapsed : ℕ := 0
  cancels : List CancelStep := []

/-- What happens before each step of the worker, and what each call answers. -/
structure Surroundings where
  meanwhile : ℕ → Meanwhile := fun _ => {}
  answer : ℕ → Call → Answer

/-! ## The world -/

/-- What can be observed of a run. -/
inductive Obs
  | call (c : Call) (a : Answer)
  /-- A frame was read from the UART. -/
  | frame (bytes : List UInt8)
  /-- A delay was completed or interrupted. -/
  | delay (reason : String) (completed : Bool)
  | fail (stage message : String)
  | begin_item (index : ℕ)
  | pass_item (index : ℕ)
  /-- The snapshot was changed. -/
  | snapshot (s : CapFixtureSnapshot)
  /-- The run looks at the flag for the last time. -/
  | verdict (canceled : Bool)
  deriving DecidableEq

/-- The model with its surroundings: the steps of the worker so far, the clock, the flag, and
whether a call of `cancel` has seen that the run is `RUNNING`. -/
structure World where
  surroundings : Surroundings
  moment : ℕ := 0
  now : ℕ := 0
  cancel_requested : Bool := false
  canceling : Bool := false
  model : CapFixtureTestModel := {}
  history : List Obs := []

namespace World

/-- A step of a call of `cancel`. -/
def cancel (w : World) : CancelStep → World
  | .look =>
    { w with canceling := w.canceling || w.model.snapshot.state = CapFixtureRunState.RUNNING }
  | .set => { w with cancel_requested := w.cancel_requested || w.canceling }

/-- Some time passes, and other threads make progress. -/
def pass (w : World) : World :=
  let during := w.surroundings.meanwhile w.moment
  during.cancels.foldl cancel { w with moment := w.moment + 1, now := w.now + during.elapsed }

/-- The snapshot is changed, as the observation says. -/
def publish (w : World) (seen : List Obs) (s : CapFixtureSnapshot) : World :=
  let s := { s with revision := s.revision + 1 }
  { w with model := { w.model with snapshot := s }, history := w.history ++ seen ++ [.snapshot s] }

end World

/-- What the worker runs; to give up is to return false. -/
abbrev Run := Program World

/-! ## Steps of the worker -/

/-- A call of a service. -/
def call (c : Call) : Run Answer := fun w =>
  let w := w.pass
  let a := (w.surroundings.answer w.moment c).fit c
  (some a, { w with history := w.history ++ [.call c a] })

/-- `cancel_requested_.load()`. -/
def canceled : Run Bool := fun w =>
  let w := w.pass
  (some w.cancel_requested, w)

/-- `steady_clock::now()`. -/
def clock : Run ℕ := fun w =>
  let w := w.pass
  (some w.now, w)

/-- `sleep_for`. -/
def sleep_for (milliseconds : ℕ) : Run Unit := fun w =>
  let w := w.pass
  (some (), { w with now := w.now + milliseconds })

/-- A member that only the worker uses is assigned. -/
def assign (f : CapFixtureTestModel → CapFixtureTestModel) : Run Unit := fun w =>
  (some (), { w with model := { f w.model with
    snapshot := w.model.snapshot, active_item := w.model.active_item } })

/-- The members that only the worker uses. -/
def members : Run CapFixtureTestModel := fun w => (some w.model, w)

/-- Something is noted that is not an action of the worker. -/
def note (o : Obs) : Run Unit := fun w => (some (), { w with history := w.history ++ [o] })

/-- `publish_`. -/
def publish_ (state : CapFixtureRunState) (headline : String) : Run Unit := fun w =>
  let w := w.pass
  (some (), w.publish [] { w.model.snapshot with state, headline })

/-- `fail_`. -/
def fail_ {α : Type} (stage message : String) : Run α := fun w =>
  let w := w.pass
  let s := { w.model.snapshot with
    state := CapFixtureRunState.FAILED
    headline := stage ++ " failed"
    error_message := message }
  (none, w.publish [.fail stage message] (s.set_item w.model.active_item .FAILED message))

/-- `begin_item_`. -/
def begin_item_ (index : ℕ) (detail : String) : Run Unit := fun w =>
  let w := w.pass
  let name := (w.model.snapshot.items[index]?.map (·.name)).getD ""
  let s := { w.model.snapshot with active_index := index, headline := "Running " ++ name }
  let w := { w with model.active_item := index }
  (some (), w.publish [.begin_item index] (s.set_item index .RUNNING detail))

/-- `pass_item_`. -/
def pass_item_ (index : ℕ) (detail : String) : Run Unit := fun w =>
  let w := w.pass
  (some (), w.publish [.pass_item index] (w.model.snapshot.set_item index .PASSED detail))

/-- The run fails unless the condition holds. -/
def check (c : Bool) (stage message : String) : Run Unit :=
  if c then pure () else fail_ stage message

/-- `while (steady_clock::now() < deadline)`; every round takes some time, so the loop comes to
its deadline before the fuel is used up. -/
def until_deadline {α β : Type} (milliseconds : ℕ) (body : β → Run (β ⊕ α)) (b : β) :
    Run (β ⊕ α) := do
  let start ← clock
  let deadline := start + milliseconds
  Program.loop (do return (← clock) < deadline) body (milliseconds + 1) b

/-! ## Shared helpers -/

/-- `delay_`. -/
def delay_ (milliseconds : ℕ) (reason : String) : Run Unit := do
  let interrupted ← until_deadline milliseconds (fun _ => do
    if ← canceled then return .inr ()
    sleep_for 10
    return .inl ()) ()
  note (.delay reason interrupted.isLeft)
  Program.proceed interrupted.isLeft

/-- `write_reg_`. -/
def write_reg_ (stage : String) (reg : UInt8) (data : List UInt8) : Run Unit := do
  Program.proceed (!(← canceled))
  let written ← call (.write_register reg data)
  check written.ok stage ("I2C register write failed: " ++ written.error)

/-- `read_reg_`. -/
def read_reg_ (stage : String) (reg : UInt8) (size : ℕ) : Run (List UInt8) := do
  Program.proceed (!(← canceled))
  let read ← call (.read_register reg size)
  check read.ok stage ("I2C register read failed: " ++ read.error)
  return read.bytes

/-- `hold_gpio_outputs_high_`. -/
def hold_gpio_outputs_high_ (stage : String) (milliseconds : ℕ) : Run Unit := do
  let interrupted ← until_deadline milliseconds (fun _ => do
    if ← canceled then return .inr ()
    let high ← call (.set_gpio_test_outputs true)
    check high.ok stage ("GPIO HIGH hold failed: " ++ high.error)
    sleep_for 10
    return .inl ()) ()
  Program.proceed interrupted.isLeft
  let high ← call (.set_gpio_test_outputs true)
  check high.ok stage ("final GPIO HIGH hold write failed: " ++ high.error)

/-- `select_host_pin_function_`; with the error if it fails. -/
def select_host_pin_function_ (usb_enabled : Bool) : Run (Option String) := do
  let m ← members
  if m.host_pin_function_known && m.host_usb_function_selected == usb_enabled then return none
  let selected ← call (if usb_enabled then .select_usb_function else .select_gpio_function)
  if selected.ok then
    assign fun m => { m with
      host_pin_function_known := true, host_usb_function_selected := usb_enabled }
    return none
  else return some selected.error

end FactoryTest.Fixture

import FactoryTest.Ir.Session
import FactoryTest.Lib.Program

/-!
# The IR fixture test

`IrFixtureTestModel` of `src/model/ir_fixture_test_model.cpp`: the worker sends four frames to the
fixture, opens the receiver and expects five replies.

**Time and other threads.** Between any two steps of the worker some time passes, and `cancel` or
a new `start` may set the flag; both then wait for the worker. The surroundings say what happens,
and what the services answer: the random address and commands, the devices, each send, the
opening of the receiver and each poll. The clock is in milliseconds and does not go back.

**History.** Every answer of a service, every reading of the clock and every sleep of the worker.
Messages to the log are left out.
-/

namespace FactoryTest.IrFixture

open FactoryTest.Ir

def K_TX_ITEM : ℕ := 0
def K_RX_ITEM : ℕ := 1
def K_TX_PACKET_COUNT : ℕ := 4
def K_RX_PACKET_COUNT : ℕ := 5
def K_FIXTURE_ADDRESS : UInt16 := 0xED2F
def K_TX_INTERVAL_MS : ℕ := 250
def K_RX_TIMEOUT_MS : ℕ := 3500
def K_POLL_INTERVAL_MS : ℕ := 20
def K_SLICE_MS : ℕ := 10

/-! ## The snapshot -/

inductive IrFixtureRunState
  | WAITING_FOR_FIXTURE
  | RUNNING
  | PASSED
  | FAILED
  | CANCELED
  deriving DecidableEq

inductive IrFixtureItemState
  | PENDING
  | RUNNING
  | PASSED
  | FAILED
  deriving DecidableEq

structure IrFixtureItemSnapshot where
  name : String
  state : IrFixtureItemState := .PENDING
  detail : String := "Waiting"
  deriving DecidableEq

structure IrFixtureSnapshot where
  state : IrFixtureRunState := .WAITING_FOR_FIXTURE
  items : List IrFixtureItemSnapshot := [{ name := "IR TX" }, { name := "IR RX" }]
  headline : String := "Prepare IR fixture, then press Enter"
  error_message : String := ""
  revision : ℕ := 0
  deriving DecidableEq

namespace IrFixtureSnapshot

variable (s : IrFixtureSnapshot)

/-- An item gets a detail. -/
def set_detail (index : ℕ) (detail : String) : IrFixtureSnapshot :=
  { s with items := s.items.modify index fun item => { item with detail } }

/-- An item gets a state and a detail. -/
def set_item (index : ℕ) (state : IrFixtureItemState) (detail : String) : IrFixtureSnapshot :=
  { s with items := s.items.modify index fun item => { item with state, detail } }

/-- The change that `start` makes. -/
def started : IrFixtureSnapshot :=
  { state := .RUNNING
    headline := "Checking IR transmitter and receiver"
    error_message := ""
    items := [{ name := "IR TX", state := .RUNNING, detail := "Preparing random frames" },
      { name := "IR RX", state := .PENDING, detail := "Waiting for fixture" }]
    revision := s.revision + 1 }

/-- The change that `fail_` makes: what runs fails too. -/
def failed (item_index : ℕ) (message : String) : IrFixtureSnapshot :=
  let items := s.items.map fun item =>
    if item.state = .RUNNING then
      { item with state := .FAILED, detail := "Fixture acknowledgement not verified" }
    else item
  { { s with items }.set_item item_index .FAILED message with
    state := .FAILED
    headline := "IR fixture test failed"
    error_message := message }

/-- The change after the flag was seen. -/
def canceled : IrFixtureSnapshot :=
  { s with state := .CANCELED, headline := "IR fixture test canceled" }

/-- The change after the receiver was opened. -/
def receiving (detail : String) : IrFixtureSnapshot :=
  ({ s with headline := "Validating fixture response" }.set_detail K_TX_ITEM
    "4 frames sent; waiting for verified reply").set_item K_RX_ITEM .RUNNING detail

/-- The change at the end. -/
def passed : IrFixtureSnapshot :=
  { (s.set_item K_TX_ITEM .PASSED "Fixture acknowledged all 4 frames").set_item K_RX_ITEM .PASSED
      "0xED2F: F1 F2 F3 F4 F5 verified" with
    state := .PASSED
    headline := "IR fixture test passed" }

end IrFixtureSnapshot

/-! ## The world -/

/-- What happens between two steps of the worker. -/
structure Meanwhile where
  elapsed : ℕ := 0
  cancel : Bool := false

/-- `IrSendResult`, as far as it is read. -/
structure IrSendResult where
  success : Bool := true
  message : String := ""

/-- What happens before each step of the worker, and what the services answer. -/
structure Surroundings where
  meanwhile : ℕ → Meanwhile := fun _ => {}
  dut_address : UInt16
  commands : Fin K_TX_PACKET_COUNT → UInt16
  sender_info : IrDeviceInfo
  receiver_info : IrDeviceInfo
  send_nec_packet : ℕ → UInt16 → UInt16 → IrSendResult
  /-- `receiver.start`, and the message of the receiver's snapshot. -/
  receiver_start : IrDeviceInfo → UInt16 → Bool → Bool × String
  poll : ℕ → IrReceiveSnapshot

inductive Obs
  | sender (available : Bool)
  | receiver (available : Bool)
  | send (address command : UInt16) (success : Bool)
  | opened (ok : Bool)
  | polled (received : IrReceiveSnapshot)
  | clock (now : ℕ)
  | slept (milliseconds : ℕ)
  deriving DecidableEq

/-- The model with its surroundings: the steps of the worker so far, the clock and the flag. -/
structure World where
  surroundings : Surroundings
  moment : ℕ := 0
  now : ℕ := 0
  cancel_requested : Bool := false
  snapshot : IrFixtureSnapshot := {}
  history : List Obs := []

namespace World

/-- Some time passes, and the flag may be set. -/
def pass (w : World) : World :=
  let during := w.surroundings.meanwhile w.moment
  { w with
    moment := w.moment + 1
    now := w.now + during.elapsed
    cancel_requested := w.cancel_requested || during.cancel }

/-- Something is observed. -/
def observe (w : World) (o : Obs) : World := { w with history := w.history ++ [o] }

end World

/-- What the worker runs; to give up is to return from `run_`. -/
abbrev Run := Program World

/-! ## Steps of the worker -/

/-- A service answers, and the answer is observed. -/
def call {α : Type} (answer : World → α) (seen : α → Obs) : Run α := fun w =>
  let w := w.pass
  (some (answer w), w.observe (seen (answer w)))

def read_sender_info : Run IrDeviceInfo :=
  call (fun w => w.surroundings.sender_info) fun info => .sender info.available

def read_receiver_info : Run IrDeviceInfo :=
  call (fun w => w.surroundings.receiver_info) fun info => .receiver info.available

def send_nec_packet (address command : UInt16) : Run IrSendResult :=
  call (fun w => w.surroundings.send_nec_packet w.moment address command) fun result =>
    .send address command result.success

def receiver_start (info : IrDeviceInfo) (expected_address : UInt16) (filter_address : Bool) :
    Run (Bool × String) :=
  call (fun w => w.surroundings.receiver_start info expected_address filter_address) fun result =>
    .opened result.1

def receiver_poll : Run IrReceiveSnapshot :=
  call (fun w => w.surroundings.poll w.moment) fun received => .polled received

/-- `cancel_requested_.load()`. -/
def canceled : Run Bool := fun w =>
  let w := w.pass
  (some w.cancel_requested, w)

/-- `steady_clock::now()`. -/
def clock : Run ℕ := call (fun w => w.now) .clock

/-- `sleep_for`. -/
def sleep_for (milliseconds : ℕ) : Run Unit := fun w =>
  let w := w.pass
  (some (), { w.observe (.slept milliseconds) with now := w.now + milliseconds })

/-- The snapshot is changed under the lock. -/
def update (f : IrFixtureSnapshot → IrFixtureSnapshot) : Run Unit := fun w =>
  let w := w.pass
  (some (), { w with snapshot := { f w.snapshot with revision := w.snapshot.revision + 1 } })

/-- `fail_`, and the end of `run_`. -/
def fail_ {α : Type} (item_index : ℕ) (message : String) : Run α := fun w =>
  let w := w.pass
  (none, { w with snapshot := { w.snapshot.failed item_index message with
    revision := w.snapshot.revision + 1 } })

/-- The run fails unless the condition holds. -/
def require (c : Bool) (item_index : ℕ) (message : String) : Run Unit :=
  if c then pure () else fail_ item_index message

/-! ## The run -/

def hex_word (value : UInt16) : String :=
  let digits := (Nat.toDigits 16 value.toNat).map Char.toUpper
  "0x" ++ String.ofList (List.replicate (4 - digits.length) '0' ++ digits)

def expected_fixture_command (index : ℕ) : UInt16 := 0x00F1 + UInt16.ofNat index

def tx_progress_text (index : ℕ) : String :=
  ["Sending random frame 1/4", "Sending random frame 2/4", "Sending random frame 3/4",
    "Sending random frame 4/4"].getD index "Sending random NEC32 frames"

def rx_progress_text (count : ℕ) : String :=
  ["Waiting for fixture reply", "Verified fixture reply 1/5", "Verified fixture reply 2/5",
    "Verified fixture reply 3/5", "Verified fixture reply 4/5"].getD count
    "Verified fixture reply 5/5"

/-- The loop of `delay_` over its slices. -/
def delay_slices : List ℕ → Run Unit
  | [] => pure ()
  | slice :: slices => do
    if ← canceled then return ()
    sleep_for slice
    delay_slices slices

/-- `delay_`; whether the flag is not set at the end. -/
def delay_ (milliseconds : ℕ) : Run Bool := do
  let rest := milliseconds % K_SLICE_MS
  delay_slices (List.replicate (milliseconds / K_SLICE_MS) K_SLICE_MS ++
    if rest = 0 then [] else [rest])
  return !(← canceled)

/-- The frames that are still to be sent. -/
def send_frames (dut_address : UInt16) (commands : Fin K_TX_PACKET_COUNT → UInt16) :
    List (Fin K_TX_PACKET_COUNT) → Run Unit
  | [] => pure ()
  | i :: frames => do
    if ← canceled then return ()
    update fun s =>
      { s with headline := "Sending random NEC32 frames" }.set_detail K_TX_ITEM
        (tx_progress_text i)
    let result ← send_nec_packet dut_address (commands i)
    require result.success K_TX_ITEM
      (if result.message = "" then "IR frame send failed" else result.message)
    if i.val + 1 < K_TX_PACKET_COUNT then
      if !(← delay_ K_TX_INTERVAL_MS) then return ()
    send_frames dut_address commands frames

/-- The flag is looked at, and the run ends if it is set. -/
def end_if_canceled : Run Unit := do
  if ← canceled then
    update IrFixtureSnapshot.canceled
    Program.giveUp

/-- What a poll delivered is compared, if it is a new packet of the fixture; the number of replies
after it. -/
def check_reply (received : IrReceiveSnapshot) (received_count : ℕ) : Run ℕ := do
  if received.data_changed && received.address_matched then
    let expected := expected_fixture_command received_count
    require (received.protocol = "NEC32") K_RX_ITEM
      ("Reply " ++ toString (received_count + 1) ++ " expected NEC32, got " ++
        if received.protocol = "" then "unknown protocol" else received.protocol)
    require (received.command = expected) K_RX_ITEM
      ("Reply " ++ toString (received_count + 1) ++ " expected " ++ hex_word expected ++
        ", got " ++ hex_word received.command)
    update (·.set_detail K_RX_ITEM (rx_progress_text (received_count + 1)))
    return received_count + 1
  else return received_count

/-- The receive loop with the number of replies so far; every round but the last takes the poll
interval, so the loop comes to its deadline before the fuel is used up. -/
def receive_replies (deadline : ℕ) : ℕ → ℕ → Run ℕ
  | 0, received_count => pure received_count
  | fuel + 1, received_count => do
    if ← canceled then return received_count
    if deadline ≤ (← clock) then return received_count
    if K_RX_PACKET_COUNT ≤ received_count then return received_count
    let received ← receiver_poll
    let received_count ← check_reply received received_count
    if received_count < K_RX_PACKET_COUNT then
      if !(← delay_ K_POLL_INTERVAL_MS) then return received_count
    receive_replies deadline fuel received_count

/-- `run_`. -/
def run_ (fuel : ℕ) : Run Unit := do
  let surroundings ← (fun w => (some w.surroundings, w) : Run Surroundings)
  let sender_info ← read_sender_info
  require sender_info.available K_TX_ITEM
    (if sender_info.error_message = "" then "IR transmitter unavailable"
      else sender_info.error_message)
  let receiver_info ← read_receiver_info
  require receiver_info.available K_RX_ITEM
    (if receiver_info.error_message = "" then "IR receiver unavailable"
      else receiver_info.error_message)
  send_frames surroundings.dut_address surroundings.commands (List.finRange K_TX_PACKET_COUNT)
  end_if_canceled
  let opened ← receiver_start receiver_info K_FIXTURE_ADDRESS true
  require opened.1 K_RX_ITEM
    (if opened.2 = "" then "IR receiver unavailable" else opened.2)
  update (·.receiving (rx_progress_text 0))
  let start ← clock
  let received_count ← receive_replies (start + K_RX_TIMEOUT_MS) fuel 0
  end_if_canceled
  require (received_count = K_RX_PACKET_COUNT) K_RX_ITEM
    ("Fixture reply timed out: " ++ toString received_count ++ "/5 received")
  update IrFixtureSnapshot.passed

/-- `start`, when no worker runs: the flag is cleared before the worker is started. -/
def start (surroundings : Surroundings) (s : IrFixtureSnapshot) : World :=
  { surroundings, snapshot := s.started }

/-- How a run ends. Fuel above the timeout is never used up. -/
def finished (surroundings : Surroundings) (s : IrFixtureSnapshot) : World :=
  (run_ (K_RX_TIMEOUT_MS + 2) (start surroundings s)).2

end FactoryTest.IrFixture

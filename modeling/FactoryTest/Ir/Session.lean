import FactoryTest.Ir.Packet
import FactoryTest.Lib.Run

/-!
# The infrared receiver session

`IrReceiverSession` of `src/platform/ir_service.cpp`: the receiver device is opened, polled and
closed, and the packets read from it are queued and delivered one for each poll.

**The device.** A start comes with what the system answers it, a poll with everything the device
has to read until a read says that there is no more (`EAGAIN`, `EINTR` or nothing read) or fails.
How it is split into reads does not matter to the code, as the buffers of one read are worked
through word by word.

**History.** A decoded packet shows whether it matched; a packet that differs from the one before
it is captured, and delivered by a later poll. Messages to the log are left out.

The constants `LIRC_*` are those of `linux/lirc.h`.
-/

namespace FactoryTest.Ir

def LIRC_CAN_REC_RAW : UInt32 := 0x00010000
def LIRC_CAN_REC_MODE2 : UInt32 := 0x00040000
def LIRC_CAN_REC_SCANCODE : UInt32 := 0x00080000
def LIRC_VALUE_MASK : UInt32 := 0x00ffffff
def LIRC_MODE2_MASK : UInt32 := 0xff000000
def LIRC_MODE2_SPACE : UInt32 := 0x00000000
def LIRC_MODE2_PULSE : UInt32 := 0x01000000
def LIRC_MODE2_TIMEOUT : UInt32 := 0x03000000
def LIRC_MODE2_OVERFLOW : UInt32 := 0x04000000

/-- `IrDeviceInfo`, as far as a start reads it. -/
structure IrDeviceInfo where
  available : Bool := false
  lirc_path : String := ""
  error_message : String := ""
  features : UInt32 := 0
  deriving DecidableEq

/-- What the system answers a start: whether a NEC protocol is enabled, whether the scancode mode
can be set, and the errors of opening the device and of setting another mode. -/
structure Opening where
  nec_scancode_ready : Bool := false
  open_error : Option String := none
  scancode_mode_ok : Bool := true
  rec_mode_error : Option String := none
  deriving DecidableEq

/-- What the device has to read, as scancodes or as words, and the error of the last read. -/
structure Reading where
  scancodes : List (List LircScancode) := []
  words : List (List UInt32) := []
  error : Option String := none

/-- What is observed of a session. -/
inductive Obs
  /-- A start, what it returned, and whether it opened the device. -/
  | start (expected_address : UInt16) (filter_address ok opens : Bool)
  /-- A packet was decoded, and matched or not. -/
  | packet (packet : NecPacket) (matched : Bool)
  | captured (snapshot : IrReceiveSnapshot)
  | delivered (snapshot : IrReceiveSnapshot)
  /-- A poll returned. -/
  | poll (snapshot : IrReceiveSnapshot)
  /-- The session was stopped, by a call or after an error. -/
  | closed
  deriving DecidableEq

/-- `IrReceiverSession`; `fd` says whether the descriptor is open. -/
structure IrReceiverSession where
  fd : Bool := false
  scancode_mode : Bool := false
  mode2 : Bool := true
  pulse_space_buffer : List UInt32 := []
  pending_receives : List IrReceiveSnapshot := []
  receive_state : IrReceiveSnapshot := {}
  snapshot : IrReceiveSnapshot := {}
  deriving DecidableEq

namespace IrReceiverSession

/-- `stop`. -/
def stop (s : IrReceiverSession) : IrReceiverSession × List Obs :=
  ({ s with
      fd := false
      scancode_mode := false
      pulse_space_buffer := []
      pending_receives := []
      receive_state := {}
      snapshot.opened := false },
    [.closed])

/-! ## Starting -/

/-- The start of a session that is open: the snapshot gets the new setting. -/
def restart (s : IrReceiverSession) (expected_address : UInt16) (filter_address : Bool) :
    IrReceiverSession × List Obs :=
  ({ s with
      snapshot.expected_address := expected_address
      snapshot.address_filter_enabled := filter_address },
    [.start expected_address filter_address true false])

/-- The mode of the open device is set, to scancode mode if it can be and otherwise to a raw
mode; with the error, if that fails too. -/
def set_rec_mode (s : IrReceiverSession) (info : IrDeviceInfo) (device : Opening) :
    IrReceiverSession × Option String :=
  let s := { s with scancode_mode := false, mode2 := info.features &&& LIRC_CAN_REC_MODE2 ≠ 0 }
  let has_raw_receive := info.features &&& (LIRC_CAN_REC_MODE2 ||| LIRC_CAN_REC_RAW) ≠ 0
  if info.features &&& LIRC_CAN_REC_SCANCODE ≠ 0 ∧
      (device.nec_scancode_ready ∨ has_raw_receive = false) ∧ device.scancode_mode_ok then
    ({ s with scancode_mode := true }, none)
  else (s, device.rec_mode_error)

/-- `start(info, expected_address, filter_address)`. -/
def start (s : IrReceiverSession) (info : IrDeviceInfo) (device : Opening)
    (expected_address : UInt16) (filter_address : Bool) : IrReceiverSession × List Obs :=
  if s.fd then s.restart expected_address filter_address
  else
    let snapshot : IrReceiveSnapshot :=
      { expected_address, address_filter_enabled := filter_address, device_path := info.lirc_path }
    let s := { s with snapshot, pending_receives := [], receive_state := snapshot }
    if !info.available then
      ({ s with snapshot.message :=
          if info.error_message = "" then "IR receiver unavailable" else info.error_message },
        [.start expected_address filter_address false false])
    else
      match device.open_error with
      | some error =>
        ({ s with snapshot.message := "Open receiver failed: " ++ error },
          [.start expected_address filter_address false false])
      | none =>
        match { s with fd := true }.set_rec_mode info device with
        | (s, some error) =>
          let (s, seen) := stop { s with
            snapshot.message := "Set receiver mode failed: " ++ error }
          (s, seen ++ [.start expected_address filter_address false false])
        | (s, none) =>
          ({ s with
              snapshot.opened := true
              snapshot.message := "Waiting for NEC data"
              pulse_space_buffer := [] },
            [.start expected_address filter_address true true])

/-- `start(expected_address, filter_address)`; `info` is what `read_receiver_info` returns. -/
def start_default (s : IrReceiverSession) (info : IrDeviceInfo) (device : Opening)
    (expected_address : UInt16) (filter_address : Bool) : IrReceiverSession × List Obs :=
  if s.fd then s.restart expected_address filter_address
  else s.start info device expected_address filter_address

/-! ## Polling -/

/-- One signal is finalized, and queued if it changed the data. `packet` is what is decoded of
it. -/
def receive (s : IrReceiverSession) (finalized : IrReceiveSnapshot → IrReceiveSnapshot)
    (packet : Option NecPacket) : IrReceiverSession × List Obs :=
  let received := finalized { s.receive_state with data_changed := false }
  let seen := (packet.map fun packet => .packet packet received.address_matched).toList
  if received.data_changed then
    ({ s with
        receive_state := received
        pending_receives := s.pending_receives ++ [received] },
      seen ++ [.captured received])
  else ({ s with receive_state := received }, seen)

/-- The packet in a scancode. -/
def scancode_packet (scancode : LircScancode) : Option NecPacket :=
  if scancode.flags &&& LIRC_SCANCODE_FLAG_REPEAT ≠ 0 then none else decode_scancode scancode

/-- The packet in a pulse train. -/
def pulse_packet (durations : List UInt32) : Option NecPacket :=
  (decode_nec_packet durations).bind parse_nec_bytes

def read_scancode (s : IrReceiverSession) (scancode : LircScancode) :
    IrReceiverSession × List Obs :=
  s.receive (finalize_receive_scancode · scancode) (scancode_packet scancode)

/-- The pulse train in the buffer is received, and the buffer cleared. -/
def flush (s : IrReceiverSession) : IrReceiverSession × List Obs :=
  let (s', seen) :=
    s.receive (finalize_receive · s.pulse_space_buffer) (pulse_packet s.pulse_space_buffer)
  ({ s' with pulse_space_buffer := [] }, seen)

/-- The buffer is received if it holds a packet or has grown too long. -/
def check_buffer (s : IrReceiverSession) : IrReceiverSession × List Obs :=
  let (s, seen) :=
    if 2 + K_PACKET_BYTES * 16 + 1 ≤ s.pulse_space_buffer.length ∧
        (decode_nec_packet s.pulse_space_buffer).isSome then s.flush
    else (s, [])
  if 160 < s.pulse_space_buffer.length then
    let (s, more) := s.flush
    (s, seen ++ more)
  else (s, seen)

/-- The end of a pulse train. -/
def end_train (s : IrReceiverSession) : IrReceiverSession × List Obs :=
  if s.pulse_space_buffer ≠ [] then s.flush else (s, [])

/-- One word of a raw mode. -/
def read_word (s : IrReceiverSession) (word : UInt32) : IrReceiverSession × List Obs :=
  let mode := word &&& LIRC_MODE2_MASK
  let value := word &&& LIRC_VALUE_MASK
  if s.mode2 then
    if mode = LIRC_MODE2_TIMEOUT ∨ mode = LIRC_MODE2_OVERFLOW then s.end_train
    else if mode = LIRC_MODE2_SPACE ∨ mode = LIRC_MODE2_PULSE then
      if mode = LIRC_MODE2_SPACE ∧ 12000 < value then s.end_train
      else check_buffer { s with pulse_space_buffer := s.pulse_space_buffer ++ [value] }
    else s.check_buffer
  else check_buffer { s with pulse_space_buffer := s.pulse_space_buffer ++ [word] }

/-- What was read is worked through in order. -/
def read_each {α : Type} (read : IrReceiverSession → α → IrReceiverSession × List Obs) :
    IrReceiverSession → List α → IrReceiverSession × List Obs
  | s, [] => (s, [])
  | s, x :: xs =>
    let (s, seen) := read s x
    let (s, more) := read_each read s xs
    (s, seen ++ more)

/-- The loops of `poll` that read the device. -/
def read_device (s : IrReceiverSession) (reading : Reading) : IrReceiverSession × List Obs :=
  if s.scancode_mode then read_each read_scancode s reading.scancodes.flatten
  else read_each read_word s reading.words.flatten

/-- The first pending packet is delivered. -/
def deliver (s : IrReceiverSession) : IrReceiverSession × List Obs :=
  match s.pending_receives with
  | [] => (s, [])
  | received :: rest =>
    ({ s with snapshot := received, pending_receives := rest }, [.delivered received])

/-- `poll`. -/
def poll (s : IrReceiverSession) (reading : Reading) : IrReceiverSession × List Obs :=
  let s := { s with snapshot.data_changed := false }
  if !s.fd then (s, [.poll s.snapshot])
  else
    let (s, seen) := s.read_device reading
    match reading.error with
    | some error =>
      let (s, closed) := stop { s with snapshot.message := "Receive failed: " ++ error }
      (s, seen ++ closed ++ [.poll s.snapshot])
    | none =>
      let (s, delivered) := s.deliver
      (s, seen ++ delivered ++ [.poll s.snapshot])

/-! ## The machine -/

/-- A call, with what the system answers. -/
inductive Call
  | start_default (info : IrDeviceInfo) (device : Opening) (expected_address : UInt16)
      (filter_address : Bool)
  | start (info : IrDeviceInfo) (device : Opening) (expected_address : UInt16)
      (filter_address : Bool)
  | poll (reading : Reading)
  | stop

def step (s : IrReceiverSession) : Call → IrReceiverSession × List Obs
  | .start_default info device address filter => s.start_default info device address filter
  | .start info device address filter => s.start info device address filter
  | .poll reading => s.poll reading
  | .stop => s.stop

end IrReceiverSession

/-- The session. -/
def receiver : Machine IrReceiverSession IrReceiverSession.Call Obs := ⟨IrReceiverSession.step⟩

end FactoryTest.Ir

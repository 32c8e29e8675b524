import Mathlib.Data.Nat.Notation
import Mathlib.Tactic.Common

/-!
# Infrared packets

The decoding of NEC packets in `src/platform/ir_service.cpp`, from pulse trains and from the
scancodes of the kernel, and the snapshot of the receiver that both end in. Durations are in
microseconds. Messages to the log are left out.
-/

namespace FactoryTest.Ir

def K_PACKET_BYTES : ℕ := 4
def K_NEC_HDR_PULSE_US : UInt32 := 9000
def K_NEC_HDR_SPACE_US : UInt32 := 4500
def K_NEC_BIT_PULSE_US : UInt32 := 560
def K_NEC_ZERO_SPACE_US : UInt32 := 560
def K_NEC_ONE_SPACE_US : UInt32 := 1690
def K_PROTOCOL_NEC : String := "NEC"
def K_PROTOCOL_NECX : String := "NECX"
def K_PROTOCOL_NEC32 : String := "NEC32"

/-- `IrReceiveSnapshot`. -/
structure IrReceiveSnapshot where
  opened : Bool := false
  signal_seen : Bool := false
  data_changed : Bool := false
  address_matched : Bool := false
  address_filter_enabled : Bool := false
  expected_address : UInt16 := 0
  address : UInt16 := 0
  command : UInt16 := 0
  data : List UInt8 := []
  protocol : String := ""
  device_path : String := ""
  raw_summary : String := ""
  message : String := ""
  deriving DecidableEq

/-- What is decoded of a packet. -/
structure NecPacket where
  data : List UInt8
  address : UInt16
  command : UInt16
  protocol : String
  deriving DecidableEq

/-! ## Bytes -/

/-- `make_nec_command`. -/
def make_nec_command (command_byte : UInt8) : UInt16 :=
  command_byte.toUInt16 ||| (~~~command_byte).toUInt16 <<< 8

/-- `make_nec_bytes`. -/
def make_nec_bytes (address command : UInt16) : List UInt8 :=
  [(address &&& 0xff).toUInt8, (address >>> 8 &&& 0xff).toUInt8,
    (command &&& 0xff).toUInt8, (command >>> 8 &&& 0xff).toUInt8]

/-- `make_standard_nec_bytes`. -/
def make_standard_nec_bytes (address command : UInt8) : List UInt8 :=
  [address, ~~~address, command, ~~~command]

/-- `parse_nec_bytes`. -/
def parse_nec_bytes (bytes : List UInt8) : Option NecPacket :=
  match bytes with
  | [b₀, b₁, b₂, b₃] =>
    let protocol :=
      if b₀ ^^^ b₁ = 0xff then K_PROTOCOL_NEC
      else if b₂ ^^^ b₃ = 0xff then K_PROTOCOL_NECX
      else K_PROTOCOL_NEC32
    some ⟨bytes, b₀.toUInt16 ||| b₁.toUInt16 <<< 8, b₂.toUInt16 ||| b₃.toUInt16 <<< 8, protocol⟩
  | _ => none

/-! ## Pulse trains -/

/-- The pulse and the space of a bit of the byte. -/
def encode_bit (byte : UInt8) (bit : ℕ) : List UInt32 :=
  [K_NEC_BIT_PULSE_US,
    if byte &&& 1 <<< UInt8.ofNat bit ≠ 0 then K_NEC_ONE_SPACE_US else K_NEC_ZERO_SPACE_US]

/-- `encode_nec_packet`. -/
def encode_nec_packet (bytes : List UInt8) : List UInt32 :=
  [K_NEC_HDR_PULSE_US, K_NEC_HDR_SPACE_US] ++
    bytes.flatMap (fun byte => (List.range 8).flatMap (encode_bit byte)) ++ [K_NEC_BIT_PULSE_US]

/-- `approx`. -/
def approx (value target tolerance : UInt32) : Bool :=
  target ≤ value + tolerance && value ≤ target + tolerance

/-- The bit that a pulse and a space stand for. -/
def decode_bit (pulse space : UInt32) : Option Bool :=
  if !approx pulse K_NEC_BIT_PULSE_US 450 then none
  else if approx space K_NEC_ONE_SPACE_US 850 then some true
  else if !approx space K_NEC_ZERO_SPACE_US 500 then none
  else some false

/-- The byte with the bit set, if it is a one. -/
def set_bit (byte : UInt8) (bit : ℕ) (one : Bool) : UInt8 :=
  if one then byte ||| 1 <<< UInt8.ofNat bit else byte

/-- The bits of a byte, and the durations that follow them. -/
def decode_bits (bits : List ℕ) (byte : UInt8) (durations : List UInt32) :
    Option (UInt8 × List UInt32) :=
  match bits with
  | [] => some (byte, durations)
  | bit :: bits =>
    match durations with
    | pulse :: space :: durations =>
      (decode_bit pulse space).bind fun one =>
        decode_bits bits (set_bit byte bit one) durations
    -- Never reached: there are enough durations.
    | _ => none

/-- That many bytes. -/
def decode_bytes : ℕ → List UInt32 → Option (List UInt8)
  | 0, _ => some []
  | count + 1, durations =>
    (decode_bits (List.range 8) 0 durations).bind fun (byte, durations) =>
      (decode_bytes count durations).map (byte :: ·)

/-- `decode_nec_packet_from`. -/
def decode_nec_packet_from (durations : List UInt32) (start : ℕ) : Option (List UInt8) :=
  if durations.length < start + (2 + K_PACKET_BYTES * 16 + 1) then none
  else
    match durations.drop start with
    | pulse :: space :: durations =>
      if !approx pulse K_NEC_HDR_PULSE_US 2500 || !approx space K_NEC_HDR_SPACE_US 1800 then none
      else decode_bytes K_PACKET_BYTES durations
    | _ => none

/-- `decode_nec_packet`. -/
def decode_nec_packet (durations : List UInt32) : Option (List UInt8) :=
  (List.range (durations.length - 2)).findSome? (decode_nec_packet_from durations)

/-- `summarize_raw`. -/
def summarize_raw (durations : List UInt32) : String :=
  String.intercalate ", " ((durations.take 12).map fun d => toString d.toNat ++ "us") ++
    if 12 < durations.length then " ..." else ""

/-! ## Scancodes -/

/-- The remote control protocols of the kernel. -/
inductive RcProto
  | NEC
  | NECX
  | NEC32
  | other (value : ℕ)
  deriving DecidableEq

/-- `lirc_scancode`. -/
structure LircScancode where
  timestamp : UInt64 := 0
  flags : UInt16 := 0
  rc_proto : RcProto
  keycode : UInt32 := 0
  scancode : UInt64
  deriving DecidableEq

def LIRC_SCANCODE_FLAG_REPEAT : UInt16 := 2

/-- `decode_scancode`. -/
def decode_scancode (scancode : LircScancode) : Option NecPacket :=
  let command_byte := (scancode.scancode &&& 0xff).toUInt8
  let command := make_nec_command command_byte
  match scancode.rc_proto with
  | .NEC =>
    let address_byte := (scancode.scancode >>> 8 &&& 0xff).toUInt8
    some ⟨make_standard_nec_bytes address_byte command_byte,
      address_byte.toUInt16 ||| (~~~address_byte).toUInt16 <<< 8, command, K_PROTOCOL_NEC⟩
  | .NECX =>
    let address := (scancode.scancode >>> 8 &&& 0xffff).toUInt16
    some ⟨make_nec_bytes address command, address, command, K_PROTOCOL_NECX⟩
  | .NEC32 =>
    let value := (scancode.scancode &&& 0xffffffff).toUInt32
    let address := (value >>> 16 &&& 0xffff).toUInt16
    let command := (value &&& 0xffff).toUInt16
    some ⟨make_nec_bytes address command, address, command, K_PROTOCOL_NEC32⟩
  | .other _ => none

/-! ## Receiving -/

/-- A decoded packet is matched against the expected address, compared with the one before, and
stored. -/
def IrReceiveSnapshot.store (snapshot : IrReceiveSnapshot) (packet : NecPacket)
    (raw_summary : String) : IrReceiveSnapshot :=
  let matched := !snapshot.address_filter_enabled || packet.address = snapshot.expected_address
  { snapshot with
    signal_seen := true
    data_changed := packet.data ≠ snapshot.data || packet.address ≠ snapshot.address ||
      packet.command ≠ snapshot.command || packet.protocol ≠ snapshot.protocol ||
      matched ≠ snapshot.address_matched
    data := packet.data
    address := packet.address
    command := packet.command
    protocol := packet.protocol
    address_matched := matched
    raw_summary := raw_summary
    message := if matched then packet.protocol ++ " packet received" else "NEC address mismatch" }

/-- `finalize_receive`. -/
def finalize_receive (snapshot : IrReceiveSnapshot) (durations : List UInt32) :
    IrReceiveSnapshot :=
  match (decode_nec_packet durations).bind parse_nec_bytes with
  | some packet => snapshot.store packet (summarize_raw durations)
  | none =>
    { snapshot with
      signal_seen := true
      raw_summary := summarize_raw durations
      data_changed := false
      message := "IR signal received (raw)" }

/-- `finalize_receive_scancode`. -/
def finalize_receive_scancode (snapshot : IrReceiveSnapshot) (scancode : LircScancode) :
    IrReceiveSnapshot :=
  if scancode.flags &&& LIRC_SCANCODE_FLAG_REPEAT ≠ 0 then
    { snapshot with signal_seen := true, message := "NEC repeat received" }
  else
    match decode_scancode scancode with
    | none => { snapshot with signal_seen := true, message := "IR scancode received" }
    | some packet => snapshot.store packet ""

end FactoryTest.Ir

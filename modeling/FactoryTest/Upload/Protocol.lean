import FactoryTest.Json.Serialization

/-!
# The factory upload protocol

The line protocol of `src/platform/factory_upload_service.cpp`: the lower device sends
`M5FACTORY:HANDSHAKE` and `M5FACTORY:ACK_RESULT` lines, the tester answers a handshake with an
`M5FACTORY:ACK` line and sends one `M5FACTORY:RESULT` line per upload. A line is the list of
its characters without the closing line feed; JSON payloads are strings.
-/

namespace FactoryTest.Upload

open Serialization

def K_HANDSHAKE_COMMAND : List Char := "M5FACTORY:HANDSHAKE".toList
def K_ACK_COMMAND : List Char := "M5FACTORY:ACK".toList
def K_RESULT_COMMAND : List Char := "M5FACTORY:RESULT".toList
def K_RESULT_ACK_COMMAND : List Char := "M5FACTORY:ACK_RESULT".toList
def K_MAX_PROTOCOL_LINE : ℕ := 511
def K_MAX_RX_LINE : ℕ := 1024

/-- `command_matches`. -/
def command_matches (line command : List Char) : Bool :=
  command.isPrefixOf line &&
    (line.length == command.length || (line)[command.length]? == some ' ')

/-- `payload_after_command`. -/
def payload_after_command (line command : List Char) : String :=
  String.ofList ((line.drop command.length).dropWhile (· == ' '))

/-- `object_field`. -/
def object_field (object : OutputValue) (key : String) : Option OutputValue :=
  match object with
  | .object values => Assoc.find? key values
  | _ => none

/-- `std::fabs(value - 1.0) > 0.0001`. The bound is the binary64 value of `0.0001`. Near `1.0`
the subtraction is exact, and further away it cannot round across the bound. -/
def differs_from_one : Double → Bool
  | .finite q _ =>
    let bound : ℚ := 7378697629483821 / 73786976294838206464
    decide (bound < q - 1) || decide (bound < 1 - q)
  | .infinity _ => true
  | .nan => false

/-- `parse_handshake`: the error message, or the sequence number if there is one. -/
def parse_handshake (cJSON : CJsonLibrary) (payload : String) : Except String (Option ℤ) :=
  match parse_json_output cJSON payload with
  | .error e => .error ("invalid handshake JSON: " ++ e)
  | .ok (.object values) =>
    match object_field (.object values) "proto" with
    | some (.number proto) =>
      if differs_from_one proto then .error "handshake proto must be 1"
      else
        match object_field (.object values) "role" with
        | some (.string role) =>
          if role ≠ "tab5" then .error "handshake role must be tab5"
          else
            match object_field (.object values) "seq" with
            | none => .ok none
            | some (.number seq) =>
              if seq.isfinite then .ok (some seq.truncate)
              else .error "handshake seq must be a number"
            | some _ => .error "handshake seq must be a number"
        | _ => .error "handshake role must be tab5"
    | _ => .error "handshake proto must be 1"
  | .ok _ => .error "handshake payload is not a JSON object"

/-- What `parse_result_ack` reads from an `ACK_RESULT` payload. -/
structure ResultAck where
  saved : Bool
  status : String
  message : String
  deriving DecidableEq

/-- The value of a string field, empty if there is none. -/
def string_field (object : OutputValue) (key : String) : String :=
  match object_field object key with
  | some (.string value) => value
  | _ => ""

/-- `parse_result_ack`. -/
def parse_result_ack (cJSON : CJsonLibrary) (payload : String) : Except String ResultAck :=
  match parse_json_output cJSON payload with
  | .error e => .error ("invalid ACK_RESULT JSON: " ++ e)
  | .ok (.object values) =>
    match object_field (.object values) "saved" with
    | some (.boolean saved) =>
      .ok ⟨saved, string_field (.object values) "status", string_field (.object values) "message"⟩
    | _ => .error "ACK_RESULT saved must be a boolean"
  | .ok _ => .error "ACK_RESULT payload is not a JSON object"

/-- `FactoryUploadConfig`. -/
structure FactoryUploadConfig where
  vendor_id : ℕ := 0x303A
  product_id : ℕ := 0x1001
  baud_rate : ℤ := 5000000
  tester_model : String := "FactoryTestApp"
  tester_firmware : String := "unknown"
  deriving DecidableEq

/-- The text `send_handshake_ack` writes in answer to a handshake. -/
def ack_line (config : FactoryUploadConfig) (sequence : Option ℤ) : List Char :=
  K_ACK_COMMAND ++ " \x7b\"proto\":1,\"role\":\"tester\",\"model\":\"".toList ++
    config.tester_model.toList ++ "\",\"fw\":\"".toList ++ config.tester_firmware.toList ++
    "\"".toList ++
    (match sequence with
      | some seq => ",\"seq\":".toList ++ (toString seq).toList
      | none => []) ++
    "\x7d\n".toList

/-- The text `run` writes to upload a payload. -/
def result_line (payload : List Char) : List Char := K_RESULT_COMMAND ++ ' ' :: payload ++ ['\n']

/-- The payload `queue` keeps: `std::remove` of the carriage returns and the line feeds. -/
def strip_line_breaks (payload : List Char) : List Char :=
  (payload.filter (· != '\r')).filter (· != '\n')

/-- A payload that `queue` does not refuse on its own account: not empty, and short enough for
a protocol line. -/
def admissible (payload : List Char) : Bool :=
  !payload.isEmpty && K_RESULT_COMMAND.length + 1 + payload.length ≤ K_MAX_PROTOCOL_LINE

/-- The line is a handshake that `send_handshake_ack` answers. -/
def ValidHandshake (cJSON : CJsonLibrary) (line : List Char) : Prop :=
  command_matches line K_HANDSHAKE_COMMAND = true ∧
    ∃ seq, parse_handshake cJSON (payload_after_command line K_HANDSHAKE_COMMAND) = .ok seq

/-- The line is an `ACK_RESULT` that reports the result saved. -/
def SavedAck (cJSON : CJsonLibrary) (line : List Char) : Prop :=
  command_matches line K_RESULT_ACK_COMMAND = true ∧
    ∃ ack, parse_result_ack cJSON (payload_after_command line K_RESULT_ACK_COMMAND) = .ok ack ∧
      ack.saved = true

/-! ## The result line -/

theorem mem_strip_line_breaks {payload : List Char} {c : Char}
    (h : c ∈ strip_line_breaks payload) : c ∈ payload ∧ c ≠ '\r' ∧ c ≠ '\n' := by
  simp only [strip_line_breaks, List.mem_filter, bne_iff_ne] at h
  exact ⟨h.1.1, h.1.2, h.2⟩

theorem result_line_eq (payload : List Char) :
    result_line payload = (K_RESULT_COMMAND ++ ' ' :: payload) ++ ['\n'] := by
  simp [result_line]

/-- Before its line feed, the line of an admissible payload has at most 511 characters. -/
theorem result_line_length {payload : List Char} (h : admissible payload = true) :
    (K_RESULT_COMMAND ++ ' ' :: payload).length ≤ K_MAX_PROTOCOL_LINE := by
  simp only [admissible, Bool.and_eq_true, decide_eq_true_eq] at h
  rw [List.length_append, List.length_cons]
  omega

/-- Before its line feed, the line of a stripped payload has no line feed. -/
theorem not_mem_result_line (payload : List Char) :
    '\n' ∉ K_RESULT_COMMAND ++ ' ' :: strip_line_breaks payload := by
  intro h
  rcases List.mem_append.1 h with h | h
  · revert h; decide
  · rcases List.mem_cons.1 h with h | h
    · exact absurd h (by decide)
    · exact (mem_strip_line_breaks h).2.2 rfl

/-! ## Accepted handshakes -/

/-- What `parse_handshake` requires of an accepted payload: a JSON object whose `proto` is a
number that does not differ from `1.0` and whose `role` is `tab5`. -/
theorem parse_handshake_ok {cJSON : CJsonLibrary} {payload : String} {seq : Option ℤ}
    (h : parse_handshake cJSON payload = .ok seq) :
    ∃ values proto, parse_json_output cJSON payload = .ok (.object values) ∧
      Assoc.find? "proto" values = some (.number proto) ∧ differs_from_one proto = false ∧
      Assoc.find? "role" values = some (.string "tab5") := by
  unfold parse_handshake at h
  split at h
  case h_2 values hparse =>
    split at h
    case h_1 proto hproto =>
      split_ifs at h with hone
      split at h
      case h_1 role hrole =>
        split_ifs at h with htab
        refine ⟨values, proto, hparse, hproto, by simpa using hone, ?_⟩
        rw [← not_not.1 htab]
        exact hrole
      case h_2 => cases h
    case h_2 => cases h
  all_goals cases h

end FactoryTest.Upload

import FactoryTest.Json.CJson
import FactoryTest.Session.Record

/-!
# Session and result documents

The JSON documents of `src/model/test_session.cpp`: what `persist_` and `build_result_json`
build, and what `parse_session_document` reads. Members stand in the order in which they are
added. Allocation does not fail.
-/

namespace FactoryTest.Session

def K_SESSION_SCHEMA_VERSION : ℕ := 2
def K_SEQUENCE_ID : String := "cp0-full-v1"

/-! ## Building -/

/-- `cJSON_AddStringToObject`. -/
def string_member (key value : String) : String × CJson := (key, .string (c_str value))

/-- `cJSON_AddBoolToObject`. -/
def bool_member (key : String) (value : Bool) : String × CJson := (key, .bool value)

/-- `cJSON_AddNumberToObject` of an unsigned integer. -/
def number_member (key : String) (value : ℕ) : String × CJson := (key, .number (.ofNat value))

/-- `add_evidence_value`. -/
def evidence_member : String × EvidenceValue → String × CJson
  | (key, .boolean value) => (c_str key, .bool value)
  | (key, .number value) => (c_str key, .number value)
  | (key, .string value) => (c_str key, .string (c_str value))

/-- `add_evidence_object`. -/
def evidence_object (evidence : TestEvidence) : CJson :=
  .object (evidence.entries.map evidence_member)

/-- An item of `append_details`. -/
def detail_item (detail : NamedTestResult) : CJson :=
  .object [string_member "name" detail.test_name,
    string_member "result" (test_result_text detail.result)]

/-- `append_details`. -/
def details_array (details : List NamedTestResult) : CJson := .array (details.map detail_item)

/-- The members of a record that both documents add only where there is something to add. -/
def evidence_members (test : TestRecord) : List (String × CJson) :=
  (if test.evidence.entries.isEmpty then [] else [("evidence", evidence_object test.evidence)]) ++
    if test.details.isEmpty then [] else [("details", details_array test.details)]

/-- The record as `persist_` writes it. -/
def session_test_item (test : TestRecord) : CJson :=
  .object ([string_member "id" test.id,
    string_member "name" test.name,
    bool_member "completed" test.completed,
    bool_member "attempted" test.attempted,
    number_member "attempt_count" test.attempt_count,
    string_member "attempt_started_at" test.attempt_started_at,
    string_member "attempt_finished_at" test.attempt_finished_at,
    string_member "completed_at" test.completed_at] ++
    (if test.completed then [string_member "result" (test_result_text test.result)] else []) ++
    evidence_members test)

/-- The record as `build_result_json` writes it. -/
def result_test_member (test : TestRecord) : String × CJson :=
  (c_str test.id, .object ([
    string_member "result" (if test.completed then test_result_text test.result else "FAIL"),
    bool_member "attempted" test.attempted,
    bool_member "has_evidence" (!test.evidence.entries.isEmpty)] ++
    evidence_members test))

/-- The record as `build_upload_result_json` writes it. -/
def upload_test_member (test : TestRecord) : String × CJson :=
  (c_str test.id, .bool (test.completed && test.result = .PASS))

/-! ## Reading -/

/-- `json_string`; `none` is the null pointer. -/
def json_string (object : CJson) (key : String) : Option String :=
  match object.GetObjectItemCaseSensitive key with
  | some (.string value) => some value
  | _ => none

/-- `json_bool`. -/
def json_bool (object : CJson) (key : String) (fallback : Bool := false) : Bool :=
  match object.GetObjectItemCaseSensitive key with
  | some (.bool value) => value
  | _ => fallback

/-- `static_cast<std::size_t>` of a nonnegative double. Where the conversion is undefined, beyond
the largest `std::size_t`, it saturates. -/
def size_of_double (value : Double) : ℕ := min value.truncate.toNat (2 ^ 64 - 1)

/-- `json_size`. -/
def json_size (object : CJson) (key : String) (fallback : ℕ := 0) : ℕ :=
  match object.GetObjectItemCaseSensitive key with
  | some (.number value) => if value.nonnegative then size_of_double value else fallback
  | _ => fallback

/-- A member of the object that `parse_evidence` reads; `none` if it is refused. -/
def parse_evidence_value : String × CJson → Option EvidenceValue
  | (key, .bool value) => if key = "" then none else some (.boolean value)
  | (key, .number value) =>
    if key = "" then none else if value.isfinite then some (.number value) else none
  | (key, .string value) => if key = "" then none else some (.string value)
  | _ => none

/-- The loop of `parse_evidence`. -/
def parse_evidence_members : List (String × CJson) → TestEvidence → Option TestEvidence
  | [], evidence => some evidence
  | member :: members, evidence =>
    match parse_evidence_value member with
    | some value => parse_evidence_members members (evidence.emplace member.1 value)
    | none => none

/-- `parse_evidence`; `none` where it returns false. -/
def parse_evidence : Option CJson → Option TestEvidence
  | none => some .empty
  | some (.object members) => parse_evidence_members members .empty
  | some _ => none

/-- The loop of `parse_details`. -/
def parse_details_items : List CJson → Option (List NamedTestResult)
  | [] => some []
  | child :: children =>
    match child, json_string child "name", json_string child "result" with
    | .object _, some name, some result =>
      (parse_details_items children).map (⟨name, test_result_from_text (some result)⟩ :: ·)
    | _, _, _ => none

/-- `parse_details`; `none` where it returns false. -/
def parse_details : Option CJson → Option (List NamedTestResult)
  | none => some []
  | some (.array items) => parse_details_items items
  | some _ => none

/-- One record of the `tests` array. -/
def parse_test (test : CJson) : Except String TestRecord :=
  match test with
  | .object _ =>
    match json_string test "id", json_string test "name" with
    | some test_id, some test_name =>
      let completed := json_bool test "completed"
      match parse_evidence (test.GetObjectItemCaseSensitive "evidence"),
          parse_details (test.GetObjectItemCaseSensitive "details") with
      | some evidence, some details =>
        .ok {
          id := test_id
          name := test_name
          completed := completed
          attempted := json_bool test "attempted"
          attempt_count := json_size test "attempt_count"
          attempt_started_at := (json_string test "attempt_started_at").getD ""
          attempt_finished_at := (json_string test "attempt_finished_at").getD ""
          completed_at := (json_string test "completed_at").getD ""
          result := if completed then test_result_from_text (json_string test "result") else .FAIL
          evidence := evidence
          details := details }
      | _, _ => .error "session test evidence is invalid"
    | _, _ => .error "session test identity is missing"
  | _ => .error "session test entry is invalid"

/-- The loop over the `tests` array. -/
def parse_tests : List CJson → Except String (List TestRecord)
  | [] => .ok []
  | test :: tests =>
    match parse_test test with
    | .ok record =>
      match parse_tests tests with
      | .ok records => .ok (record :: records)
      | .error error => .error error
    | .error error => .error error

/-- `LoadedSession`. -/
structure LoadedSession where
  state : SessionState
  id : String
  sequence_number : ℕ
  started_at : String
  updated_at : String
  completed_at : String
  current_test_id : String
  result_path : String
  metadata : SessionMetadata
  tests : List TestRecord
  deriving DecidableEq

/-- `parse_session_document` once the text is parsed: the error message, or the session. -/
def parse_session_root (root : CJson) : Except String LoadedSession :=
  match root with
  | .object _ =>
    match root.GetObjectItemCaseSensitive "schema_version" with
    | some (.number schema) =>
      if CJson.valueint schema ≠ K_SESSION_SCHEMA_VERSION then .error "unsupported session schema"
      else
        match root.GetObjectItemCaseSensitive "session",
            root.GetObjectItemCaseSensitive "device",
            root.GetObjectItemCaseSensitive "tests" with
        | some (.object session), some (.object device), some (.array tests) =>
          let session : CJson := .object session
          let device : CJson := .object device
          match json_string session "id", json_string session "state",
              json_string session "started_at" with
          | some id, some state, some started_at =>
            match parse_tests tests with
            | .ok records =>
              .ok {
                state := session_state_from_text state
                id := id
                sequence_number := json_size session "sequence_number"
                started_at := started_at
                updated_at := nonempty_or ((json_string session "updated_at").getD "") started_at
                completed_at := (json_string session "completed_at").getD ""
                current_test_id := (json_string session "current_test").getD ""
                result_path := (json_string root "result_path").getD ""
                metadata := {
                  sku := (json_string device "sku").getD "UNKNOWN"
                  serial_number := (json_string device "sn").getD "UNKNOWN"
                  station := (json_string device "station").getD "AUTO_TEST"
                  firmware := (json_string device "firmware").getD "UNKNOWN"
                  commit := (json_string device "commit").getD "UNKNOWN" }
                tests := records }
            | .error error => .error error
          | _, _, _ => .error "session JSON is missing identity fields"
        | _, _, _ => .error "session JSON is missing required sections"
    | _ => .error "unsupported session schema"
  | _ => .error "invalid session JSON"

/-- `parse_session_document`. -/
def parse_session_document (cJSON : CJsonLibrary) (text : String) : Except String LoadedSession :=
  match cJSON.ParseWithLength text with
  | some root => parse_session_root root
  | none => .error "invalid session JSON"

/-- `print_json`; `none` is the empty string. -/
def print_json (cJSON : CJsonLibrary) (root : CJson) (formatted : Bool) : Option String :=
  if formatted then (cJSON.Print root).map (· ++ "\n")
  else (cJSON.PrintUnformatted root).filter (· ≠ "")

end FactoryTest.Session

import FactoryTest.Session.Document
import Mathlib.Data.List.TakeWhile
import Mathlib.Logic.Function.Basic

/-!
# The session manager

`SessionManager` of `src/model/test_session.cpp`. An operation takes the manager and the disk to
the manager and the disk after it, and says whether it returned true.

**Answers.** What the clock and the file system answer during a call comes with the call
(`Answers`). A write of a file either replaces the file or leaves it as it is; temporary files
are left out.

**Disk.** A disk maps the path of a file to its text. Directories are seen only when they are
listed, and what a listing shows comes with the call as well.
-/

namespace FactoryTest.Session

def K_SESSION_SUFFIX : String := ".session.json"
def K_RESULT_SUFFIX : String := ".result.json"

/-! ## The clock -/

/-- A reading of `std::chrono::system_clock`: the calendar fields of `utc_time` and the
milliseconds since the epoch. -/
structure TimePoint where
  tm_year : ℕ
  tm_mon : ℕ
  tm_mday : ℕ
  tm_hour : ℕ
  tm_min : ℕ
  tm_sec : ℕ
  milliseconds : ℕ
  deriving DecidableEq

/-- `%0<width>d`. -/
def padded (width n : ℕ) : List Char :=
  let digits := Nat.toDigits 10 n
  List.replicate (width - digits.length) '0' ++ digits

/-- The text of a `std::snprintf` into a buffer of 32 characters. -/
def buffer_text (text : List Char) : String := String.ofList (text.take 31)

/-- `iso_timestamp`. -/
@[irreducible]
def iso_timestamp (now : TimePoint) : String :=
  buffer_text (padded 4 (now.tm_year + 1900) ++ '-' :: padded 2 (now.tm_mon + 1) ++
    '-' :: padded 2 now.tm_mday ++ 'T' :: padded 2 now.tm_hour ++ ':' :: padded 2 now.tm_min ++
    ':' :: padded 2 now.tm_sec ++ ['Z'])

/-- `session_timestamp`. -/
def session_timestamp (now : TimePoint) : String :=
  buffer_text (padded 4 (now.tm_year + 1900) ++ padded 2 (now.tm_mon + 1) ++
    padded 2 now.tm_mday ++ '-' :: padded 2 now.tm_hour ++ padded 2 now.tm_min ++
    padded 2 now.tm_sec ++ '-' :: padded 3 (now.milliseconds % 1000))

/-- `epoch_milliseconds`. -/
def epoch_milliseconds (now : TimePoint) : ℕ := now.milliseconds

/-! ## Paths -/

/-- `has_suffix`. -/
def has_suffix (value suffix : String) : Bool := suffix.toList.isSuffixOf value.toList

/-- `directory / filename`, for a filename without separators. -/
def path_join (directory filename : String) : String :=
  if directory = "" ∨ directory.toList.getLast? = some '/' then directory ++ filename
  else directory ++ "/" ++ filename

/-- `path.filename()`. -/
def path_filename (path : String) : String :=
  String.ofList (path.toList.reverse.takeWhile (· ≠ '/')).reverse

/-- `path.parent_path()`. -/
def parent_path (path : String) : String :=
  let rest := path.toList.reverse.dropWhile (· ≠ '/')
  let parent := rest.dropWhile (· = '/')
  if parent.isEmpty && !rest.isEmpty then "/" else String.ofList parent.reverse

/-- `result_path_for_session`. -/
def result_path_for_session (session_path : String) : String :=
  let filename := path_filename session_path
  let filename :=
    if has_suffix filename K_SESSION_SUFFIX then
      String.ofList (filename.toList.take (filename.length - K_SESSION_SUFFIX.length))
    else filename
  path_join (parent_path session_path) (filename ++ K_RESULT_SUFFIX)

/-! ## Files -/

/-- The files of a disk, each with its text. -/
abbrev Disk := String → Option String

/-- How far a `write_text_file_atomic` gets. -/
inductive WriteAnswer
  | directory_error (message : String)
  | open_error
  | write_error
  | sync_error
  | rename_error (message : String)
  | written
  deriving DecidableEq

/-- `write_text_file_atomic`: the error message, or the disk with the file replaced. -/
def write_text_file_atomic (disk : Disk) (path text : String) :
    WriteAnswer → Except String Disk
  | .directory_error message => .error ("failed to create session directory: " ++ message)
  | .open_error => .error "failed to open temporary session file"
  | .write_error => .error "failed to write temporary session file"
  | .sync_error => .error "failed to sync temporary session file"
  | .rename_error message => .error ("failed to replace session file: " ++ message)
  | .written => .ok (Function.update disk path (some text))

/-- `read_text_file`. -/
def read_text_file (disk : Disk) (path : String) : String := (disk path).getD ""

/-- An entry of a directory: `none` where the call fails. -/
structure DirectoryEntry where
  filename : String
  is_regular_file : Option Bool := some true
  last_write_time : Option ℤ
  deriving DecidableEq

/-- What the file system says of the session directory. -/
structure Listing where
  is_directory : Bool
  entries : List DirectoryEntry
  deriving DecidableEq

/-- The loop of `load_latest_recoverable` over the directory: whether `ec` is set, and the
latest session file so far with its time. An error of `is_regular_file` leaves `ec` set, which
hides the entries that follow. -/
def latest_loop : List DirectoryEntry → Bool → Option (String × ℤ) → Option (String × ℤ)
  | [], _, latest => latest
  | entry :: entries, ec, latest =>
    if ec then latest_loop entries ec latest
    else
      match entry.is_regular_file with
      | none => latest_loop entries true latest
      | some regular =>
        if !regular || !has_suffix entry.filename K_SESSION_SUFFIX then
          latest_loop entries ec latest
        else
          match entry.last_write_time with
          | none => latest_loop entries ec latest
          | some write_time =>
            match latest with
            | none => latest_loop entries ec (some (entry.filename, write_time))
            | some (latest_filename, latest_time) =>
              if latest_time < write_time ∨
                  write_time = latest_time ∧ latest_filename < entry.filename then
                latest_loop entries ec (some (entry.filename, write_time))
              else latest_loop entries ec latest

/-- The filename of the session file to recover. -/
def latest_session (listing : Listing) : Option String :=
  if listing.is_directory then (latest_loop listing.entries false none).map Prod.fst else none

/-! ## The manager -/

/-- `SessionManager`. -/
structure SessionManager where
  state : SessionState := .NONE
  session_id : String := ""
  sequence_number : ℕ := 0
  started_at : String := ""
  updated_at : String := ""
  completed_at : String := ""
  current_test_id : String := ""
  session_path : String := ""
  result_path : String := ""
  last_error : String := ""
  metadata : SessionMetadata := {}
  tests : List TestRecord := []
  deriving DecidableEq

/-- A manager and the disk it works on. -/
structure World where
  manager : SessionManager := {}
  disk : Disk := fun _ => none

/-- What the clock and the file system answer during one call. `now` is the first reading of the
clock and `now_next` the second; `write` is the first write of the session file, `write_result`
the one of the result file and `write_next` the second one of the session file. -/
structure Answers where
  now : TimePoint
  now_next : TimePoint := now
  write : WriteAnswer := .written
  write_result : WriteAnswer := .written
  write_next : WriteAnswer := .written
  deriving DecidableEq

namespace SessionManager

/-- `active`. -/
def active (m : SessionManager) : Bool := m.state = .IN_PROGRESS

/-- `recoverable`. -/
def recoverable (m : SessionManager) : Bool := m.active && m.session_path ≠ ""

/-- `set_error_`. -/
def set_error (m : SessionManager) (message : String) : SessionManager :=
  { m with last_error := message }

/-- The document that `persist_` builds. -/
def session_document (m : SessionManager) : CJson :=
  .object [
    ("session", .object [
      string_member "id" m.session_id,
      string_member "state" (session_state_text m.state),
      string_member "sequence" K_SEQUENCE_ID,
      number_member "sequence_number" m.sequence_number,
      string_member "started_at" m.started_at,
      string_member "updated_at" m.updated_at,
      string_member "completed_at" m.completed_at,
      string_member "current_test" m.current_test_id]),
    ("device", .object [
      string_member "sku" m.metadata.sku,
      string_member "sn" m.metadata.serial_number,
      string_member "station" m.metadata.station,
      string_member "firmware" m.metadata.firmware,
      string_member "commit" m.metadata.commit]),
    ("tests", .array (m.tests.map session_test_item)),
    number_member "schema_version" K_SESSION_SCHEMA_VERSION,
    string_member "result_path" m.result_path]

/-- The document that `build_result_json` builds. -/
def result_document (m : SessionManager) : CJson :=
  let session_summary := summary m.state m.tests
  let passed := session_summary.completed = session_summary.total ∧ session_summary.failed = 0
  .object [
    ("test_details", .object [
      ("tests", .object (m.tests.map result_test_member)),
      string_member "detail_schema" K_SEQUENCE_ID,
      string_member "session_id" m.session_id,
      string_member "started_at" m.started_at,
      string_member "completed_at" m.completed_at]),
    number_member "seq" m.sequence_number,
    string_member "sku" m.metadata.sku,
    string_member "sn" m.metadata.serial_number,
    string_member "station" m.metadata.station,
    string_member "status" (if passed then "PASS" else "FAIL"),
    string_member "firmware" m.metadata.firmware,
    string_member "commit" m.metadata.commit]

/-- `build_result_json`; `none` is the empty string. -/
def build_result_json (cJSON : CJsonLibrary) (m : SessionManager) (formatted : Bool) :
    Option String :=
  if m.session_id = "" ∨ m.tests.isEmpty then none
  else print_json cJSON m.result_document formatted

/-- The document that `build_upload_result_json` builds. -/
def upload_document (m : SessionManager) : CJson :=
  let session_summary := summary m.state m.tests
  let passed := session_summary.completed = session_summary.total ∧ session_summary.failed = 0
  .object [
    ("test_details", .object (m.tests.map upload_test_member)),
    number_member "seq" m.sequence_number,
    string_member "sku" m.metadata.sku,
    string_member "sn" m.metadata.serial_number,
    string_member "station" m.metadata.station,
    string_member "status" (if passed then "PASS" else "FAIL"),
    string_member "firmware" m.metadata.firmware,
    string_member "commit" m.metadata.commit]

/-- `build_upload_result_json`; `none` is the empty string. -/
def build_upload_result_json (cJSON : CJsonLibrary) (m : SessionManager) (formatted : Bool) :
    Option String :=
  if m.session_id = "" ∨ m.tests.isEmpty ∨ m.state ≠ .COMPLETED then none
  else print_json cJSON m.upload_document formatted

end SessionManager

/-! ## Operations -/

section

variable (cJSON : CJsonLibrary)

/-- `persist_`, with the answers of the clock and of the file system. -/
def persist (w : World) (now : TimePoint) (write : WriteAnswer) : World × Bool :=
  let m := w.manager
  if m.session_path = "" then ({ w with manager := m.set_error "session path is empty" }, false)
  else
    let m :=
      { m with updated_at := if m.updated_at = "" then iso_timestamp now else m.updated_at }
    match print_json cJSON m.session_document true with
    | none => ({ w with manager := m.set_error "failed to format session JSON" }, false)
    | some text =>
      match write_text_file_atomic w.disk m.session_path text write with
      | .error write_error =>
        ({ w with manager := m.set_error (nonempty_or write_error
          "failed to format session JSON") }, false)
      | .ok disk => (⟨{ m with last_error := "" }, disk⟩, true)

/-- Persist a changed session, and restore what the change touched if that fails. -/
def persist_or_restore (w : World) (changed : SessionManager)
    (restore : SessionManager → SessionManager) (now : TimePoint) (write : WriteAnswer) :
    World × Bool :=
  match persist cJSON { w with manager := changed } now write with
  | (w, true) => (w, true)
  | (w, false) => ({ w with manager := restore w.manager }, false)

/-- `write_result_`. -/
def write_result (w : World) (write : WriteAnswer) : World × Bool :=
  let m := w.manager
  match m.build_result_json cJSON true with
  | none => ({ w with manager := m.set_error "failed to build protocol result JSON" }, false)
  | some text =>
    match write_text_file_atomic w.disk m.result_path text write with
    | .error write_error => ({ w with manager := m.set_error write_error }, false)
    | .ok disk => ({ w with disk := disk }, true)

/-- `reset_`. -/
def reset (w : World) : World := { w with manager := {} }

/-- `abandon`. -/
def abandon (w : World) (a : Answers) : World × Bool :=
  let m := w.manager
  if m.state ≠ .IN_PROGRESS then (w, true)
  else
    persist_or_restore cJSON w
      { m with state := .ABANDONED, current_test_id := "", updated_at := iso_timestamp a.now }
      (fun m' => { m' with
        state := m.state, current_test_id := m.current_test_id, updated_at := m.updated_at })
      a.now a.write

/-- The test of the plan in `start_new`, with the ids seen so far. -/
def valid_plan : List TestDefinition → List String → Bool
  | [], _ => true
  | test :: tests, test_ids =>
    !(test.id = "" || test.name = "" || test_ids.contains test.id) &&
      valid_plan tests (test.id :: test_ids)

/-- The session that `start_new` makes of the plan at a reading of the clock. -/
def new_session (directory : String) (tests : List TestDefinition) (metadata : SessionMetadata)
    (now : TimePoint) : SessionManager :=
  let session_id := "factorytest-" ++ session_timestamp now
  let session_path := path_join directory (session_id ++ K_SESSION_SUFFIX)
  { state := .IN_PROGRESS
    session_id := session_id
    sequence_number := epoch_milliseconds now
    started_at := iso_timestamp now
    updated_at := iso_timestamp now
    session_path := session_path
    result_path := result_path_for_session session_path
    metadata := {
      sku := nonempty_or metadata.sku "UNKNOWN"
      serial_number := nonempty_or metadata.serial_number "UNKNOWN"
      station := nonempty_or metadata.station "AUTO_TEST"
      firmware := nonempty_or metadata.firmware "UNKNOWN"
      commit := short_commit metadata.commit }
    tests := tests.map fun test => { id := test.id, name := test.name } }

/-- `start_new`, in the directory that `default_session_directory` returns. If a session has to
be abandoned first, that takes the first answers. -/
def start_new (directory : String) (w : World) (tests : List TestDefinition)
    (metadata : SessionMetadata) (a : Answers) : World × Bool :=
  let w := { w with manager := { w.manager with last_error := "" } }
  if tests.isEmpty then
    ({ w with manager := w.manager.set_error "test plan is empty" }, false)
  else if !valid_plan tests [] then
    ({ w with manager := w.manager.set_error "test plan contains an invalid or duplicate id" },
      false)
  else
    let abandons := w.manager.state = .IN_PROGRESS
    match (if abandons then abandon cJSON w a else (w, true)) with
    | (w, false) => (w, false)
    | (w, true) =>
      let now := if abandons then a.now_next else a.now
      match persist cJSON { w with manager := new_session directory tests metadata now } now
          (if abandons then a.write_next else a.write) with
      | (w, true) => (w, true)
      | (w, false) => ({ w with manager := { last_error := w.manager.last_error } }, false)

/-- The check of a loaded session against the plan: the records with the names of the plan, or
`none` if the ids differ. -/
def match_plan : List TestRecord → List TestDefinition → Option (List TestRecord)
  | [], [] => some []
  | record :: records, expected :: expected_tests =>
    if record.id = expected.id then
      (match_plan records expected_tests).map ({ record with name := expected.name } :: ·)
    else none
  | _, _ => none

/-- What `load_latest_recoverable` makes of the text of the file at `path`. -/
def load_text (path text : String) (expected_tests : List TestDefinition) :
    Option SessionManager :=
  if text = "" then none
  else
    match parse_session_document cJSON text with
    | .error _ => none
    | .ok loaded =>
      if loaded.state ≠ .IN_PROGRESS then none
      else
        match match_plan loaded.tests expected_tests with
        | none => none
        | some tests =>
          some {
            state := loaded.state
            session_id := loaded.id
            sequence_number := loaded.sequence_number
            started_at := loaded.started_at
            updated_at := loaded.updated_at
            completed_at := loaded.completed_at
            current_test_id := loaded.current_test_id
            session_path := path
            result_path :=
              if loaded.result_path = "" then result_path_for_session path else loaded.result_path
            metadata := loaded.metadata
            tests := tests }

/-- `load_latest_recoverable`. -/
def load_latest_recoverable (directory : String) (w : World)
    (expected_tests : List TestDefinition) (listing : Listing) : World × Bool :=
  let w := reset w
  match latest_session listing with
  | none => (w, false)
  | some filename =>
    let latest_path := path_join directory filename
    match load_text cJSON latest_path (read_text_file w.disk latest_path) expected_tests with
    | none => (w, false)
    | some manager => ({ w with manager := manager }, true)

/-- `set_current_test`. -/
def set_current_test (w : World) (test_id : String) (a : Answers) : World × Bool :=
  let m := w.manager
  if !m.active || (find_test m.tests test_id).isNone then
    ({ w with manager := m.set_error "cannot select a test outside an active session" }, false)
  else if m.current_test_id = test_id then (w, true)
  else
    persist_or_restore cJSON w
      { m with current_test_id := test_id, updated_at := iso_timestamp a.now }
      (fun m' => { m' with current_test_id := m.current_test_id, updated_at := m.updated_at })
      a.now a.write

/-- The record that an operation of an active session finds. -/
def active_test (m : SessionManager) (test_id : String) : Option TestRecord :=
  if m.active then find_test m.tests test_id else none

/-- What `begin_test` makes of a record. The count is a `std::size_t` and wraps around. -/
def begin_attempt (now : String) (test : TestRecord) : TestRecord :=
  { test with
    attempted := true
    attempt_count := (test.attempt_count + 1) % 2 ^ 64
    attempt_started_at := now
    attempt_finished_at := ""
    evidence := .empty }

@[simp] theorem begin_attempt_id {now : String} (test : TestRecord) :
    (begin_attempt now test).id = test.id := rfl

/-- `begin_test`. -/
def begin_test (w : World) (test_id : String) (a : Answers) : World × Bool :=
  let m := w.manager
  let refuse : World × Bool :=
    ({ w with manager := m.set_error "cannot begin an unavailable test" }, false)
  match active_test m test_id with
  | none => refuse
  | some test =>
    if test.completed then refuse
    else
      let now := iso_timestamp a.now
      persist_or_restore cJSON w
        { m with
          current_test_id := test_id
          tests := modify_test test_id (begin_attempt now) m.tests
          updated_at := now }
        (fun m' => { m' with
          tests := modify_test test_id (fun _ => test) m'.tests
          current_test_id := m.current_test_id
          updated_at := m.updated_at })
        a.now a.write

/-- The test of an evidence entry in `record_evidence`. -/
def valid_evidence : String × EvidenceValue → Bool
  | (key, .number value) => key ≠ "" && value.isfinite
  | (key, _) => key ≠ ""

/-- What `record_evidence` makes of a record. -/
def add_evidence (now : String) (evidence : TestEvidence) (test : TestRecord) : TestRecord :=
  let test :=
    if test.attempted then test
    else { test with attempted := true, attempt_count := 1, attempt_started_at := now }
  { test with
    evidence :=
      evidence.entries.foldl (fun all entry => all.assign entry.1 entry.2) test.evidence }

@[simp] theorem add_evidence_id (now : String) (evidence : TestEvidence) (test : TestRecord) :
    (add_evidence now evidence test).id = test.id := by
  unfold add_evidence
  split <;> rfl

/-- `record_evidence`. The clock is read twice if the test was not attempted before. -/
def record_evidence (w : World) (test_id : String) (evidence : TestEvidence) (a : Answers) :
    World × Bool :=
  let m := w.manager
  let refuse : World × Bool :=
    ({ w with manager := m.set_error "cannot record evidence for an unavailable test" }, false)
  match active_test m test_id with
  | none => refuse
  | some test =>
    if test.completed || evidence.entries.isEmpty then refuse
    else if !evidence.entries.all valid_evidence then
      ({ w with manager := m.set_error "test evidence contains an invalid key or number" }, false)
    else
      let updated_now := if test.attempted then a.now else a.now_next
      persist_or_restore cJSON w
        { m with
          tests := modify_test test_id (add_evidence (iso_timestamp a.now) evidence) m.tests
          updated_at := iso_timestamp updated_now }
        (fun m' => { m' with
          tests := modify_test test_id (fun _ => test) m'.tests
          updated_at := m.updated_at })
        updated_now a.write

/-- `record_evidence` of a single value. -/
def record_evidence_value (w : World) (test_id key : String) (value : EvidenceValue)
    (a : Answers) : World × Bool :=
  record_evidence cJSON w test_id (OrderedMap.empty.emplace key value) a

/-- `finalize`, with the reading of the clock and the answers to its two writes. -/
def finalize (w : World) (now : TimePoint) (write_result_answer write : WriteAnswer) :
    World × Bool :=
  let m := w.manager
  if m.state = .COMPLETED then (w, true)
  else if !m.active || next_incomplete_index m.tests < m.tests.length then
    ({ w with manager := m.set_error "cannot finalize an incomplete test session" }, false)
  else
    let restore (m' : SessionManager) : SessionManager :=
      { m' with
        state := m.state
        completed_at := m.completed_at
        updated_at := m.updated_at
        current_test_id := m.current_test_id }
    match write_result cJSON { w with manager := { m with
        state := .COMPLETED
        completed_at := iso_timestamp now
        updated_at := iso_timestamp now
        current_test_id := "" } } write_result_answer with
    | (w, false) => ({ w with manager := restore w.manager }, false)
    | (w, true) => persist_or_restore cJSON w w.manager restore now write

/-- What `complete_test` makes of a record. -/
def mark_completed (result : TestResult) (details : List NamedTestResult) (now : String)
    (test : TestRecord) : TestRecord :=
  { test with
    completed := true
    result := result
    completed_at := now
    details := details
    attempt_finished_at := if test.attempted then now else test.attempt_finished_at }

@[simp] theorem mark_completed_id {result : TestResult} {details : List NamedTestResult}
    {now : String} (test : TestRecord) :
    (mark_completed result details now test).id = test.id := rfl

/-- `complete_test`. -/
def complete_test (w : World) (test_id : String) (result : TestResult)
    (details : List NamedTestResult) (a : Answers) : World × Bool :=
  let m := w.manager
  match active_test m test_id with
  | none =>
    ({ w with manager := m.set_error "cannot complete a test outside an active session" }, false)
  | some test =>
    let now := iso_timestamp a.now
    match persist_or_restore cJSON w
        { m with
          tests := modify_test test_id (mark_completed result details now) m.tests
          updated_at := now }
        (fun m' => { m' with
          tests := modify_test test_id (fun _ => test) m'.tests
          updated_at := m.updated_at })
        a.now a.write with
    | (w, false) => (w, false)
    | (w, true) =>
      if w.manager.tests.length ≤ next_incomplete_index w.manager.tests then
        finalize cJSON w a.now_next a.write_result a.write_next
      else (w, true)

end

end FactoryTest.Session

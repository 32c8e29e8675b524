import FactoryTest.Json.Serialization

/-!
# The configuration of the application

`AppConfigStore` of `src/model/app_config.cpp`. `load` reads the configuration file field by
field, replaces by its default what is missing or invalid, and writes the file again if it had
to.

The world of the store is its configuration file. Whether the file can be inspected, opened and
replaced comes with the call (`LoadAnswers`); temporary files are left out.
-/

namespace FactoryTest.Config

open Serialization

def K_MIN_LOG_SEGMENT_SIZE : ℕ := 64 * 1024
def K_UART_BAUD_RATES : List ℤ := [9600, 19200, 38400, 57600, 115200]
def K_LOG_LEVELS : List String := ["trace", "debug", "info", "warn", "error", "fatal", "off"]
def K_LANGUAGES : List String := ["en", "zh_CN"]
def K_MAX_EXACT_JSON_INTEGER : ℕ := 9007199254740991
def K_SCHEMA_VERSION : ℤ := 1

/-! ## The configuration -/

/-- `AppConfig::Ui`. -/
structure Ui where
  dark_mode : Bool := true
  language : String := "en"
  key_click_enabled : Bool := true
  key_click_volume_percent : ℤ := 70
  deriving DecidableEq

/-- `AppConfig::Network`. -/
structure Network where
  iperf_host : String := "192.168.10.187"
  iperf_port : ℤ := 5201
  deriving DecidableEq

/-- `AppConfig::Uart`. -/
structure Uart where
  baud_rate : ℤ := 9600
  deriving DecidableEq

/-- `AppConfig::Logging`. -/
structure Logging where
  level : String := "debug"
  max_segment_size_bytes : ℕ := 5 * 1024 * 1024
  max_directory_size_bytes : ℕ := 50 * 1024 * 1024
  deriving DecidableEq

/-- `AppConfig::Factory`. -/
structure Factory where
  station_id : String := "AUTO_TEST"
  deriving DecidableEq

/-- `AppConfig`. -/
structure AppConfig where
  ui : Ui := {}
  network : Network := {}
  uart : Uart := {}
  logging : Logging := {}
  factory : Factory := {}
  schema_version : ℤ := K_SCHEMA_VERSION
  deriving DecidableEq

/-- `config_to_output`. -/
def config_to_output (config : AppConfig) : OutputValue :=
  .object [
    ("factory", .object [("station_id", .string config.factory.station_id)]),
    ("logging", .object [
      ("level", .string config.logging.level),
      ("max_directory_size_bytes", .number (.ofNat config.logging.max_directory_size_bytes)),
      ("max_segment_size_bytes", .number (.ofNat config.logging.max_segment_size_bytes))]),
    ("network", .object [
      ("iperf_host", .string config.network.iperf_host),
      ("iperf_port", .number (.ofInt config.network.iperf_port))]),
    ("schema_version", .number (.ofInt config.schema_version)),
    ("uart", .object [("baud_rate", .number (.ofInt config.uart.baud_rate))]),
    ("ui", .object [
      ("dark_mode", .boolean config.ui.dark_mode),
      ("key_click_enabled", .boolean config.ui.key_click_enabled),
      ("key_click_volume_percent", .number (.ofInt config.ui.key_click_volume_percent)),
      ("language", .string config.ui.language)])]

/-! ## Reading a field -/

/-- `object_member`; `none` is the null pointer. -/
def object_member (object : Option OutputValue) (key : String) : Option OutputValue :=
  match object with
  | some (.object object_values) => Assoc.find? key object_values
  | _ => none

/-- `corrected` and the diagnostics while the fields are read. -/
structure Progress where
  corrected : Bool := false
  diagnostics : List String := []
  deriving DecidableEq

/-- A value had to be corrected. -/
def Progress.correct (p : Progress) (diagnostic : String) : Progress :=
  ⟨true, p.diagnostics ++ [diagnostic]⟩

/-- The message of `use_default`. -/
def use_default (field : String) : String :=
  "config field '" ++ field ++ "' is missing or invalid; using default"

/-- What the `read_` functions have in common: a value that was found, or the fallback. -/
def read_field {α : Type} (found : Option α) (field : String) (fallback : α) (p : Progress) :
    α × Progress :=
  match found with
  | some value => (value, p)
  | none => (fallback, p.correct (use_default field))

/-- The value of a boolean. -/
def boolean_value : Option OutputValue → Option Bool
  | some (.boolean bool_value) => some bool_value
  | _ => none

/-- `read_bool`. -/
def read_bool (object : Option OutputValue) (key field : String) (fallback : Bool)
    (p : Progress) : Bool × Progress :=
  read_field (boolean_value (object_member object key)) field fallback p

/-- The value of a string that is not empty and is allowed. -/
def string_value (allowed : Option (List String)) : Option OutputValue → Option String
  | some (.string string_value) =>
    if string_value ≠ "" ∧ allowed.all (·.contains string_value) then some string_value else none
  | _ => none

/-- `read_string`. -/
def read_string (object : Option OutputValue) (key field : String) (fallback : String)
    (p : Progress) (allowed : Option (List String) := none) : String × Progress :=
  read_field (string_value allowed (object_member object key)) field fallback p

/-- `integer_value`. -/
def integer_value (value : Option OutputValue) (minimum maximum : ℤ) : Option ℤ :=
  match value with
  | some (.number (.finite q _)) =>
    if (⌊q⌋ : ℚ) ≠ q ∨ q < minimum ∨ maximum < q then none else some ⌊q⌋
  | _ => none

/-- `read_int`. -/
def read_int (object : Option OutputValue) (key field : String) (fallback minimum maximum : ℤ)
    (p : Progress) : ℤ × Progress :=
  read_field (integer_value (object_member object key) minimum maximum) field fallback p

/-- `read_size`. -/
def read_size (object : Option OutputValue) (key field : String) (fallback minimum : ℕ)
    (p : Progress) : ℕ × Progress :=
  read_field ((integer_value (object_member object key) minimum K_MAX_EXACT_JSON_INTEGER).map
    Int.toNat) field fallback p

/-- `is_supported_baud_rate`. -/
def is_supported_baud_rate (baud_rate : ℤ) : Bool := K_UART_BAUD_RATES.contains baud_rate

/-- The part of `load` that reads the fields of a supported document. -/
def read_fields (root : OutputValue) (p : Progress) : AppConfig × Progress :=
  let defaults : AppConfig := {}
  let ui := object_member (some root) "ui"
  let (dark_mode, p) := read_bool ui "dark_mode" "ui.dark_mode" defaults.ui.dark_mode p
  let (language, p) :=
    read_string ui "language" "ui.language" defaults.ui.language p (some K_LANGUAGES)
  let (key_click_enabled, p) :=
    read_bool ui "key_click_enabled" "ui.key_click_enabled" defaults.ui.key_click_enabled p
  let (key_click_volume_percent, p) :=
    read_int ui "key_click_volume_percent" "ui.key_click_volume_percent"
      defaults.ui.key_click_volume_percent 0 100 p
  let network := object_member (some root) "network"
  let (iperf_host, p) :=
    read_string network "iperf_host" "network.iperf_host" defaults.network.iperf_host p
  let (iperf_port, p) :=
    read_int network "iperf_port" "network.iperf_port" defaults.network.iperf_port 1 65535 p
  let uart := object_member (some root) "uart"
  let (baud_rate, p) :=
    read_int uart "baud_rate" "uart.baud_rate" defaults.uart.baud_rate 1 1000000 p
  let (baud_rate, p) :=
    if is_supported_baud_rate baud_rate then (baud_rate, p)
    else (defaults.uart.baud_rate, p.correct (use_default "uart.baud_rate"))
  let logging := object_member (some root) "logging"
  let (level, p) :=
    read_string logging "level" "logging.level" defaults.logging.level p (some K_LOG_LEVELS)
  let (segment, p) :=
    read_size logging "max_segment_size_bytes" "logging.max_segment_size_bytes"
      defaults.logging.max_segment_size_bytes K_MIN_LOG_SEGMENT_SIZE p
  let (directory, p) :=
    read_size logging "max_directory_size_bytes" "logging.max_directory_size_bytes"
      defaults.logging.max_directory_size_bytes K_MIN_LOG_SEGMENT_SIZE p
  let ((segment, directory), p) :=
    if directory < segment then
      ((defaults.logging.max_segment_size_bytes, defaults.logging.max_directory_size_bytes),
        p.correct ("logging.max_directory_size_bytes must be at least " ++
          "max_segment_size_bytes; using defaults"))
    else ((segment, directory), p)
  let factory := object_member (some root) "factory"
  let (station_id, p) :=
    read_string factory "station_id" "factory.station_id" defaults.factory.station_id p
  ({ ui := ⟨dark_mode, language, key_click_enabled, key_click_volume_percent⟩
     network := ⟨iperf_host, iperf_port⟩
     uart := ⟨baud_rate⟩
     logging := ⟨level, segment, directory⟩
     factory := ⟨station_id⟩ }, p)

/-! ## Files -/

/-- How far a `write_atomic` gets. -/
inductive WriteAnswer
  | directory_error (message : String)
  | permissions_error (message : String)
  | open_error (message : String)
  | write_error
  | sync_error
  | rename_error (message : String)
  /-- The file is replaced, but not its directory synced. -/
  | directory_sync_error
  | written
  deriving DecidableEq

/-- `write_atomic`: the file after it, and the error message if it fails. -/
def write_atomic (file : Option String) (text : String) :
    WriteAnswer → Option String × Option String
  | .directory_error message => (file, some ("failed to create config directory: " ++ message))
  | .permissions_error message => (file, some ("failed to secure config directory: " ++ message))
  | .open_error message => (file, some ("failed to create temporary config file: " ++ message))
  | .write_error => (file, some "failed to write temporary config file")
  | .sync_error => (file, some "failed to sync temporary config file")
  | .rename_error message => (file, some ("failed to replace config file: " ++ message))
  | .directory_sync_error => (some text, some "failed to sync config directory")
  | .written => (some text, none)

/-- `AppConfigStore`; the path is empty where `HOME` is not set. -/
structure AppConfigStore where
  path : String
  config : AppConfig := {}
  last_error : String := ""
  diagnostics : List String := []
  deriving DecidableEq

/-- A store and its file. -/
structure World where
  store : AppConfigStore
  file : Option String
  deriving DecidableEq

/-- What the file system answers during a `load`. -/
structure LoadAnswers where
  exists_error : Option String := none
  opens : Bool := true
  write : WriteAnswer := .written
  deriving DecidableEq

/-- The text that `save` writes. -/
def config_text (config : AppConfig) : String :=
  output_value_to_pretty_string (config_to_output config) ++ "\n"

/-- `save`. -/
def save (w : World) (write : WriteAnswer) : World × Bool :=
  if w.store.path = "" then
    ({ w with store := { w.store with
      last_error := "HOME is not set; cannot resolve config path" } }, false)
  else
    match write_atomic w.file (config_text w.store.config) write with
    | (file, none) => (⟨{ w.store with last_error := "" }, file⟩, true)
    | (file, some error_message) => (⟨{ w.store with last_error := error_message }, file⟩, false)

/-- Add to the diagnostics. -/
def World.diagnose (w : World) (diagnostic : String) : World :=
  { w with store := { w.store with diagnostics := w.store.diagnostics ++ [diagnostic] } }

/-- `save` inside `load`, which notes its error. -/
def save_or_diagnose (w : World) (write : WriteAnswer) : World × Bool :=
  match save w write with
  | (w, true) => (w, true)
  | (w, false) => (w.diagnose w.store.last_error, false)

section

variable (cJSON : CJsonLibrary)

/-- `parse_json_file`, of a file that is there. -/
def parse_json_file (path text : String) (opens : Bool) : Except String OutputValue :=
  if opens then parse_json_output cJSON text else .error ("failed to open file: " ++ path)

/-- `load`. -/
def load (w : World) (a : LoadAnswers) : World × Bool :=
  let w := { w with store := { path := w.store.path } }
  let fail (last_error : String) : World × Bool :=
    ({ w with store := { w.store with last_error := last_error, diagnostics := [last_error] } },
      false)
  if w.store.path = "" then fail "HOME is not set; cannot resolve config path"
  else
    match a.exists_error with
    | some message => fail ("failed to inspect config file: " ++ message)
    | none =>
      match w.file with
      | none => save_or_diagnose w a.write
      | some text =>
        let refuse (last_error : String) : World × Bool :=
          ({ w with store := { w.store with
              last_error := last_error
              diagnostics := [last_error ++ "; using defaults without overwriting the file"] } },
            true)
        match parse_json_file cJSON w.store.path text a.opens with
        | .error error_message => refuse error_message
        | .ok (.object object_values) =>
          let root : OutputValue := .object object_values
          if (integer_value (object_member (some root) "schema_version") K_SCHEMA_VERSION
              K_SCHEMA_VERSION).isNone then
            (w.diagnose "unsupported or missing config schema_version; using defaults", true)
          else
            let (config, p) := read_fields root {}
            let w :=
              { w with store := { w.store with config := config, diagnostics := p.diagnostics } }
            if p.corrected then save_or_diagnose w a.write else (w, true)
        | .ok _ => refuse "config root must be a JSON object"

end

end FactoryTest.Config

import FactoryTest.Lib.Directory
import Mathlib.Data.List.Sort

/-!
# The file logger

`src/logger/logger.cpp`, as far as it writes files: lines go to a segment, a segment that is full
is closed and the next one opened, and old segments are removed to keep the directory small. What
is printed on the terminal is left out.

**The surroundings.** A call comes with what clock, process and file system answer. Texts are
lists of bytes, and counters natural numbers; the sizes of the files of a directory are added up
modulo 2^64. A path leads to a directory, one path for each.

**History.** Operations on files are observed in their order, together with the lines that are
logged and the limits that a start sets.
-/

namespace FactoryTest.Logger

/-- A `std::string`. -/
abbrev Text := List UInt8

/-- The bytes of an ASCII text. -/
def ascii (s : String) : Text := s.toList.map fun c => UInt8.ofNat c.toNat

/-- `{}` of a natural number. -/
def decimal (n : ℕ) : Text := (Nat.toDigits 10 n).map fun c => UInt8.ofNat c.toNat

/-- `{:03d}` of a natural number. -/
def decimal3 (n : ℕ) : Text :=
  List.replicate (3 - (decimal n).length) 48 ++ decimal n

def K_LOG_FILE_PREFIX : Text := ascii "factory-test-"
def K_LOG_FILE_SUFFIX : Text := ascii ".log"

/-- `LogLevel`. -/
inductive LogLevel
  | TRACE
  | DEBUG
  | INFO
  | WARN
  | ERROR
  | FATAL
  | OFF
  deriving DecidableEq

/-- The value of the enumerator. -/
def LogLevel.rank : LogLevel → ℕ
  | TRACE => 0
  | DEBUG => 1
  | INFO => 2
  | WARN => 3
  | ERROR => 4
  | FATAL => 5
  | OFF => 6

/-- `levelto_string`. -/
def levelto_string : LogLevel → Text
  | .TRACE => ascii "T"
  | .DEBUG => ascii "D"
  | .INFO => ascii "I"
  | .WARN => ascii "W"
  | .ERROR => ascii "E"
  | .FATAL => ascii "F"
  | .OFF => ascii "?"

/-- `FileLogConfig`. -/
structure FileLogConfig where
  directory : Text := []
  max_segment_size_bytes : UInt64 := 5 * 1024 * 1024
  max_directory_size_bytes : UInt64 := 50 * 1024 * 1024
  enabled : Bool := true

/-- `LoggerState`. `current_path` is a directory and a name in it. -/
structure LoggerState where
  level : LogLevel := .DEBUG
  tag : Text := []
  file_logging_enabled : Bool := false
  file_error_reported : Bool := false
  directory : Text := []
  current_path : Option (Text × Text) := none
  run_name : Text := []
  max_segment_size : ℕ := 5 * 1024 * 1024
  max_directory_size : ℕ := 50 * 1024 * 1024
  current_size : ℕ := 0
  segment_index : ℕ := 0
  /-- Whether `file` is open. -/
  file : Bool := false
  run_sequence : ℕ := 0

/-- What a call is answered. -/
structure Answers where
  home : Option Text := none
  run_timestamp : Text := []
  header_timestamp : Text := []
  line_timestamp : Text := []
  thread_id : Text := []
  process_id : Text := []
  /-- The time that the file system gives to what is written. -/
  write_time : ℤ := 0
  /-- The directory is there or can be created. -/
  creates : Bool := true
  /-- The directory can be read. -/
  lists : Bool := true
  removes : Text → Bool := fun _ => true
  /-- A name that is free can be opened. -/
  opens : Text → Bool := fun _ => true
  /-- How much of a text arrives if `fwrite` or `fflush` fails. -/
  written : Text → Option ℕ := fun _ => none

/-- What is observed. -/
inductive Obs
  /-- File logging started with these limits. -/
  | started (max_segment_size max_directory_size : ℕ)
  /-- A line for the file. -/
  | logged (line : Text)
  | created (directory name : Text)
  | wrote (directory name bytes : Text)
  | removed (directory name : Text)
  /-- A message on `stderr`. -/
  | reported (message : Text)
  deriving DecidableEq

/-- The directories, by their paths. -/
abbrev FileSystem := Text → Directory Text UInt8

/-- The logger, the files, and what was observed so far. -/
structure World where
  state : LoggerState
  files : FileSystem
  history : List Obs

namespace World

/-! ## Files -/

def observe (w : World) (o : Obs) : World := { w with history := w.history ++ [o] }

def remove (w : World) (directory name : Text) : World :=
  { w with
    files := Function.update w.files directory ((w.files directory).remove name)
    history := w.history ++ [.removed directory name] }

/-- `open_exclusive_file`; none if the name is taken. -/
def open_exclusive_file (w : World) (a : Answers) (directory name : Text) : Option World :=
  ((w.files directory).create? name a.write_time).map fun created =>
    { w with
      files := Function.update w.files directory created
      history := w.history ++ [.created directory name] }

/-- Bytes arrive in the open file. -/
def write (w : World) (a : Answers) (bytes : Text) : World :=
  match w.state.current_path with
  | some (directory, name) =>
    { w with
      files := Function.update w.files directory
        ((w.files directory).append name bytes a.write_time)
      history := w.history ++ [.wrote directory name bytes] }
  -- Never reached: an open file has a path.
  | none => w

end World

/-! ## Texts -/

/-- `base_name`; none for a null pointer. -/
def base_name (path : Option Text) : Option Text :=
  match path with
  | none => none
  | some [] => none
  | some path => some (path.reverse.takeWhile fun c => c ≠ 47 ∧ c ≠ 92).reverse

/-- `make_prefix` with a timestamp. -/
def make_prefix (level : LogLevel) (tag timestamp : Text) (file : Option Text) (line : ℤ) : Text :=
  (if tag = [] then [] else ascii "[" ++ tag ++ ascii "]") ++
    ascii "[" ++ levelto_string level ++ ascii "]" ++
    ascii "[" ++ timestamp ++ ascii "]" ++
    match base_name file with
    | some name =>
      if 0 < line then ascii "[" ++ name ++ ascii ":" ++ decimal line.toNat ++ ascii "]" else []
    | none => []

/-- `file_log_line`. -/
def file_log_line (a : Answers) (level : LogLevel) (tag message : Text) (file : Option Text)
    (line : ℤ) : Text :=
  make_prefix level tag a.line_timestamp file line ++ ascii "[tid=" ++ a.thread_id ++ ascii "]" ++
    ascii " " ++ message ++ ascii "\n"

/-- The marker of `truncate_line`. -/
def marker : Text := ascii "... [truncated]\n"

/-- `truncate_line`. -/
def truncate_line (line : Text) (maximum_size : ℕ) : Text :=
  if line.length ≤ maximum_size then line
  else if maximum_size ≤ marker.length then line.take maximum_size
  else line.take (maximum_size - marker.length) ++ marker

/-- `has_prefix_and_suffix`. -/
def has_prefix_and_suffix (value front back : Text) : Bool :=
  front.length + back.length ≤ value.length && front.isPrefixOf value && back.isSuffixOf value

/-- The file name of a segment. -/
def segment_name (run_name : Text) (segment : ℕ) : Text :=
  run_name ++ ascii "-part" ++ decimal3 segment ++ K_LOG_FILE_SUFFIX

/-- The first line of a segment. -/
def segment_header (a : Answers) (run_name : Text) (segment : ℕ) : Text :=
  ascii "[logger][I][" ++ a.header_timestamp ++ ascii "][tid=" ++ a.thread_id ++ ascii "] run=" ++
    run_name ++ ascii " pid=" ++ a.process_id ++ ascii " segment=" ++ decimal segment ++ ascii "\n"

/-- `lhs / rhs` of two paths. -/
def path_append (lhs rhs : Text) : Text :=
  if lhs.getLast? = some 47 then lhs ++ rhs else lhs ++ ascii "/" ++ rhs

/-- `string` of `current_path`. -/
def path_string (path : Option (Text × Text)) : Text :=
  match path with
  | some (directory, name) => path_append directory name
  | none => []

/-- `configured_directory`. -/
def configured_directory (config : FileLogConfig) (a : Answers) : Text :=
  if config.directory ≠ [] then config.directory
  else
    match a.home with
    | some (c :: home) =>
      path_append (path_append (path_append (path_append (c :: home) (ascii ".local"))
        (ascii "state")) (ascii "factory-test")) (ascii "logs")
    | _ => []

/-! ## Segments -/

namespace World

/-- `close_file_locked`. -/
def close_file (w : World) : World :=
  if !w.state.file then w
  else { w with
    state.file := false
    state.current_path := none
    state.current_size := 0 }

/-- `report_file_error_locked`. -/
def report_file_error (w : World) (message : Text) : World :=
  let w := w.close_file
  let w := { w with state.file_logging_enabled := false }
  if !w.state.file_error_reported then
    { w.observe (.reported message) with state.file_error_reported := true }
  else w

end World

/-- `ManagedFile`. -/
structure ManagedFile where
  name : Text
  size : ℕ
  write_time : ℤ
  deriving DecidableEq

/-- The order in which files are removed. -/
def ManagedFile.before (lhs rhs : ManagedFile) : Prop :=
  if lhs.write_time ≠ rhs.write_time then lhs.write_time < rhs.write_time
  else lhs.name < rhs.name

instance : DecidableRel ManagedFile.before := fun lhs rhs => by
  unfold ManagedFile.before
  infer_instance

/-- The name of a log file. -/
def is_log_name (name : Text) : Bool :=
  has_prefix_and_suffix name K_LOG_FILE_PREFIX K_LOG_FILE_SUFFIX

/-- The log files of the directory other than the current one. -/
def managed_files (state : LoggerState) (directory : Directory Text UInt8) : List ManagedFile :=
  directory.entries.filterMap fun (name, node) =>
    match node with
    | .file content write_time =>
      if is_log_name name = false ∨ some (state.directory, name) = state.current_path then none
      else some ⟨name, content.length, write_time⟩
    | .other => none

/-- The loop that removes files, with `total_size` a `std::uintmax_t`; none if one cannot be
removed. -/
def remove_files_locked (w : World) (a : Answers) (target_size : ℕ) :
    List ManagedFile → ℕ → World × Option ℕ
  | [], total_size => (w, some total_size)
  | file :: files, total_size =>
    if total_size ≤ target_size then (w, some total_size)
    else if !a.removes file.name then (w, none)
    else
      remove_files_locked (w.remove w.state.directory file.name) a target_size files
        ((total_size + 2 ^ 64 - file.size) % 2 ^ 64)

/-- `make_directory_room_locked`, with `total_size` a `std::uintmax_t`. -/
def make_directory_room_locked (w : World) (a : Answers) (reserved_bytes : ℕ) : World × Bool :=
  if w.state.max_directory_size < reserved_bytes then (w, false)
  else if !a.lists then (w, false)
  else
    let directory := w.files w.state.directory
    let target_size := w.state.max_directory_size - reserved_bytes
    let files := (managed_files w.state directory).insertionSort ManagedFile.before
    match remove_files_locked w a target_size files ((directory.size fun _ => true) % 2 ^ 64) with
    | (w, some total_size) => (w, total_size ≤ target_size)
    | (w, none) => (w, false)

/-- `write_bytes_locked`. -/
def write_bytes (w : World) (a : Answers) (text : Text) : World × Bool :=
  if !w.state.file ∨ text = [] then (w, w.state.file)
  else
    match a.written text with
    | some arrived =>
      ((w.write a (text.take arrived)).report_file_error
        (ascii "failed to write " ++ path_string w.state.current_path), false)
    | none =>
      let w := w.write a text
      ({ w with state.current_size := w.state.current_size + text.length }, true)

/-- What the loop of `open_next_segment_locked` ends with. -/
inductive Opening
  | opened (run_name : Text) (segment : ℕ)
  | failed (run_name : Text) (segment : ℕ)
  /-- The names run out; there are always enough. -/
  | stuck

/-- The loop of `open_next_segment_locked`, for at most `tries` names. -/
def find_segment (a : Answers) (directory : Directory Text UInt8) (base_run_name : Text)
    (first : Bool) (tries : ℕ) (run_name : Text) (collision_index opened_segment : ℕ) : Opening :=
  match tries with
  | 0 => .stuck
  | tries + 1 =>
    let name := segment_name run_name opened_segment
    if (directory.find? name).isNone then
      if a.opens name then .opened run_name opened_segment else .failed run_name opened_segment
    else if first then
      find_segment a directory base_run_name first tries
        (base_run_name ++ ascii "-c" ++ decimal (collision_index + 1)) (collision_index + 1)
        opened_segment
    else
      find_segment a directory base_run_name first tries run_name collision_index
        (opened_segment + 1)

/-- `open_next_segment_locked`. -/
def open_next_segment (w : World) (a : Answers) : World × Bool :=
  let w := w.close_file
  match make_directory_room_locked w a w.state.max_segment_size with
  | (w, false) => (w.report_file_error (ascii "cannot enforce log directory size limit"), false)
  | (w, true) =>
    let directory := w.files w.state.directory
    match find_segment a directory w.state.run_name (w.state.segment_index = 0)
        (directory.entries.length + 1) w.state.run_name 0 w.state.segment_index with
    | .stuck => (w, false)
    | .failed run_name segment =>
      let w := { w with
        state.run_name := run_name
        state.current_path := some (w.state.directory, segment_name run_name segment) }
      (w.report_file_error (ascii "failed to open " ++ path_string w.state.current_path), false)
    | .opened run_name segment =>
      match w.open_exclusive_file a w.state.directory (segment_name run_name segment) with
      -- Never reached: the name is free.
      | none => (w, false)
      | some w =>
        let w := { w with
          state.run_name := run_name
          state.current_path := some (w.state.directory, segment_name run_name segment)
          state.file := true
          state.segment_index := segment + 1 }
        write_bytes w a (truncate_line (segment_header a run_name segment) w.state.max_segment_size)

/-! ## Calls -/

/-- `Logger::init`. -/
def init (w : World) (a : Answers) (config : FileLogConfig) : World :=
  let w := w.close_file
  let w := { w with
    state.file_logging_enabled := false
    state.file_error_reported := false
    state.directory := []
    state.run_name := []
    state.segment_index := 0 }
  if !config.enabled then w
  else if config.max_segment_size_bytes = 0 ∨ config.max_directory_size_bytes = 0 then
    w.report_file_error (ascii "log size limits must be greater than zero")
  else
    let w := { w with state.directory := configured_directory config a }
    if w.state.directory = [] then w.report_file_error (ascii "HOME is not set")
    else
      let w := { w with
        state.max_directory_size := config.max_directory_size_bytes.toNat
        state.max_segment_size :=
          min config.max_segment_size_bytes.toNat config.max_directory_size_bytes.toNat }
      if !a.creates then w.report_file_error (ascii "failed to create " ++ w.state.directory)
      else
        let w := { w with
          state.run_name := K_LOG_FILE_PREFIX ++ a.run_timestamp ++ ascii "-p" ++ a.process_id ++
            ascii "-r" ++ decimal w.state.run_sequence
          state.run_sequence := w.state.run_sequence + 1
          state.file_logging_enabled := true }
        (open_next_segment
          (w.observe (.started w.state.max_segment_size w.state.max_directory_size)) a).1

/-- `Logger::shutdown`. -/
def shutdown (w : World) : World :=
  let w := w.close_file
  { w with state.file_logging_enabled := false }

/-- `Logger::log`. -/
def log (w : World) (a : Answers) (level : LogLevel) (msg : Text) (file : Option Text)
    (line : ℤ) : World :=
  if level.rank < w.state.level.rank ∨ w.state.level = .OFF then w
  else if !w.state.file_logging_enabled then w
  else
    let log_line := file_log_line a level w.state.tag msg file line
    let w := w.observe (.logged log_line)
    let log_line :=
      if w.state.max_segment_size < log_line.length then
        truncate_line log_line w.state.max_segment_size
      else log_line
    let append (w : World) : World :=
      let remaining := w.state.max_segment_size - w.state.current_size
      (write_bytes w a (truncate_line log_line remaining)).1
    if 0 < w.state.current_size ∧
        w.state.max_segment_size < w.state.current_size + log_line.length then
      match open_next_segment w a with
      | (w, false) => w
      | (w, true) => append w
    else append w

/-- A call. -/
inductive Call
  | init (config : FileLogConfig)
  | shutdown
  | log (level : LogLevel) (msg : Text) (file : Option Text) (line : ℤ)
  | set_level (level : LogLevel)
  | set_tag (tag : Text)

/-- A call, with its answers. -/
def step (w : World) : Call × Answers → World
  | (.init config, a) => init w a config
  | (.shutdown, _) => shutdown w
  | (.log level msg file line, a) => log w a level msg file line
  | (.set_level level, _) => { w with state.level := level }
  | (.set_tag tag, _) => { w with state.tag := tag }

def run (w : World) (calls : List (Call × Answers)) : World := calls.foldl step w

end FactoryTest.Logger

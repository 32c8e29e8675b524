import FactoryTest.DeviceInfo.Registers
import FactoryTest.Lib.Program
import FactoryTest.Lib.ShellWords
import FactoryTest.Process.Run
import Mathlib.Algebra.Group.Int.Defs
import Mathlib.Algebra.Group.Nat.Defs
import Mathlib.Data.List.DropRight

/-!
# Upgrading the firmware of the IO expander

`src/platform/py32_upgrade_service.cpp`: a package of firmware is checked, extracted, checked again
and written to the device by a script that comes with it.

**Surroundings.** Every moment of a run has its own answers: what is found in the file system, how
a command ends and which lines it writes, what the registers hold. Messages to the log are left
out.

**History.** Every action of the run with whether it succeeded, and the progress as it is
published. A command is noted before the lines that it writes.

**Theorem (`verify_command_words`).** Whatever the names of the directory and of the file are, the
shell cuts the command that verifies checksums into a change to that directory and a check of that
file, each name being one word.
-/

namespace FactoryTest.Upgrade

open DeviceInfo Process Program

/-- The bytes of a text of the program. -/
def utf8 (text : String) : Text := text.toUTF8.toList

/-! ## Constants -/

def K_ARCHIVE_NAME : Text := utf8 "cardputerzero_ioe1_upgrade.tar.gz"
def K_PACKAGE_DIR : Text := utf8 "cardputerzero_ioe1_upgrade-main"
def K_SCRIPT_NAME : Text := utf8 "upgrade_io1.py"
def K_FIRMWARE_NAME : Text := utf8 "app_without_flash_Z_48MHZ(0x4F~0x50)_0x01.h"
def K_TARGET_VERSION : String := "0x5A01"

/-! ## Paths -/

/-- `'/'`. -/
def slash : UInt8 := 47

/-- `path::filename`. -/
def filename (path : Text) : Text := path.rtakeWhile (· ≠ slash)

/-- `path::parent_path`. -/
def parent_path (path : Text) : Text :=
  let directory := path.rdropWhile (· ≠ slash)
  let stripped := directory.rdropWhile (· = slash)
  if stripped = [] ∧ directory ≠ [] then [slash] else stripped

/-- `operator/`, of a path with a relative one. -/
def join (path name : Text) : Text :=
  if path = [] ∨ path.getLast? = some slash then path ++ name else path ++ slash :: name

/-! ## Commands -/

/-- `shell_quote`. -/
def shell_quote (value : Text) : Text :=
  [39] ++ value.flatMap (fun ch => if ch = 39 then [39, 92, 39, 39] else [ch]) ++ [39]

/-- The command of `verify_checksums`. -/
def verify_command (directory checksum_file : Text) : Text :=
  utf8 "cd " ++ shell_quote directory ++ utf8 " && sha256sum -c " ++
    shell_quote (filename checksum_file)

def is_space (c : UInt8) : Bool := c = 32 ∨ 9 ≤ c ∧ c ≤ 13

def is_digit (c : UInt8) : Bool := 48 ≤ c ∧ c ≤ 57

/-- `rfind`: where the pattern occurs last. -/
def rfind (text pattern : Text) : Option ℕ :=
  (List.range (text.length + 1)).reverse.find? fun i => pattern.isPrefixOf (text.drop i)

/-- The end of a line. -/
def is_line_end (c : UInt8) : Bool := c = 10 ∨ c = 13

/-- `process_error`. -/
def process_error (result : ProcessResult) (fallback : String) : Text :=
  if result.error_message ≠ [] then result.error_message
  else if result.timed_out then utf8 "Command timed out"
  else if result.stderr_text ≠ [] then
    let text := result.stderr_text.rdropWhile is_line_end
    match rfind text (utf8 "RESULT: FAILED") with
    | some failed => (text.drop failed).takeWhile fun c => !is_line_end c
    | none => text.rtakeWhile fun c => !is_line_end c
  else utf8 fallback

/-! ## The words of the verification -/

theorem shell_quote_eq (value : Text) : shell_quote value = sh.quoteText value := rfl

/-- The command, cut at its blanks. -/
theorem verify_command_eq (directory checksum_file : Text) :
    verify_command directory checksum_file = utf8 "cd" ++ 32 :: (sh.quoteText directory ++
      32 :: 38 :: 38 :: 32 :: (utf8 "sha256sum" ++ 32 :: (utf8 "-c" ++
        32 :: sh.quoteText (filename checksum_file)))) := by
  have hfirst : utf8 "cd " = utf8 "cd" ++ [32] := by decide +kernel
  have hsecond : utf8 " && sha256sum -c " = 32 :: 38 :: 38 :: 32 ::
      (utf8 "sha256sum" ++ 32 :: (utf8 "-c" ++ [32])) := by decide +kernel
  rw [verify_command, shell_quote_eq, shell_quote_eq, hfirst, hsecond]
  simp only [List.append_assoc, List.cons_append, List.nil_append]

theorem plain_words :
    sh.Plain (utf8 "cd") ∧ sh.Plain (utf8 "sha256sum") ∧ sh.Plain (utf8 "-c") := by
  have hwords : utf8 "cd" = [99, 100] ∧ utf8 "-c" = [45, 99] ∧
      utf8 "sha256sum" = [115, 104, 97, 50, 53, 54, 115, 117, 109] := by decide +kernel
  obtain ⟨hcd, hcheck, hsum⟩ := hwords
  rw [hcd, hcheck, hsum]
  refine ⟨⟨⟨99, _, rfl, rfl⟩, List.forall_iff_forall_mem.1 ?_⟩,
    ⟨⟨115, _, rfl, rfl⟩, List.forall_iff_forall_mem.1 ?_⟩,
    ⟨⟨45, _, rfl, rfl⟩, List.forall_iff_forall_mem.1 ?_⟩⟩ <;> decide

/-- The command reads as `cd` to the directory, and then the check of the file in it. -/
theorem verify_command_words (directory checksum_file : Text) :
    sh.read .between (verify_command directory checksum_file) =
      some [.word (utf8 "cd"), .word directory, .and_if, .word (utf8 "sha256sum"),
        .word (utf8 "-c"), .word (filename checksum_file)] := by
  obtain ⟨hcd, hsum, hcheck⟩ := plain_words
  have hblank : sh.role 32 = .blank := rfl
  have hname := (sh.stands_quoteText (filename checksum_file)).last
  rw [verify_command_eq, hcd.stands.blank hblank, (sh.stands_quoteText directory).blank hblank,
    Shell.read_and_if rfl hblank, hsum.stands.blank hblank, hcheck.stands.blank hblank, hname]
  rfl

/-! ## Lines of the script -/

/-- What a format of `sscanf` asks for. -/
inductive Directive
  | literal (c : UInt8)
  | space
  /-- `%*d`. -/
  | skipped
  /-- `%d`. -/
  | int

/-- The value of decimal digits. -/
def decimal (digits : Text) : ℤ := digits.foldl (fun n c => 10 * n + (c.toNat - 48)) 0

/-- `%d`: white space, a sign, digits. The number is read as a `long` and stored as an `int`. -/
def scan_int (text : Text) : Option (ℤ × Text) :=
  let text := text.dropWhile is_space
  let negative := text.head? = some 45
  let text := if negative ∨ text.head? = some 43 then text.tail else text
  let digits := text.takeWhile is_digit
  if digits = [] then none
  else
    let value := if negative then -decimal digits else decimal digits
    let long := max (-2 ^ 63) (min value (2 ^ 63 - 1))
    some (Int.bmod long (2 ^ 32), text.dropWhile is_digit)

/-- `sscanf`, up to the first `%d`. -/
def sscanf : List Directive → Text → Option ℤ
  | [], _ => none
  | .literal c :: format, text =>
    match text with
    | [] => none
    | c' :: text => if c' = c then sscanf format text else none
  | .space :: format, text => sscanf format (text.dropWhile is_space)
  | .skipped :: format, text => (scan_int text).bind fun (_, text) => sscanf format text
  | .int :: _, text => (scan_int text).map Prod.fst

/-- A text of a format. -/
def literals (text : String) : List Directive :=
  (utf8 text).map fun c => if is_space c then .space else .literal c

/-- What both formats end with: `%*d/%*d bytes %d%%`. -/
def progress_format (text : String) : List Directive :=
  literals text ++ [.skipped, .literal 47, .skipped] ++ literals " bytes " ++ [.int]

/-- `parse_firmware_percent`. -/
def parse_firmware_percent (line : Text) : Option ℤ :=
  let line := line.takeWhile (· ≠ 0)
  (sscanf (progress_format "INFO: Firmware progress: ") line).or
    (sscanf (progress_format "Writing firmware: ") line)

/-! ## The world -/

/-- What each moment of a run answers. -/
structure Surroundings where
  now : ℕ → ℕ
  register : ℕ → Option UInt8
  /-- None if the file system cannot tell, and `is_regular_file` throws. -/
  is_regular_file : ℕ → Option Bool
  /-- What is thrown is caught somewhere, so that the destructors run. -/
  unwinds : Bool := false
  temp_directory_path : ℕ → Except Text Text
  create_directories : ℕ → Except Text Bool
  process_id : ℕ
  /-- How a command ends, and the lines that it writes. -/
  process : ℕ → ProcessResult × List Text

/-- An action that can fail. -/
inductive Action
  /-- A path is the one of a regular file. -/
  | file (path : Text)
  | directory (path : Text)
  | command (argv : List Text) (stdin_text : Text) (timeout_ms : ℕ)
  deriving DecidableEq

/-- What can be observed of a run. -/
inductive Obs
  | published (percent : ℤ) (status : String)
  | register_read (command : UInt8) (call : Call)
  | done (action : Action) (ok : Bool)
  /-- The temporary directory is removed. -/
  | removed (path : Text)
  deriving DecidableEq

/-- `Result`. -/
structure Result where
  success : Bool := false
  previous_version : String := ""
  current_version : String := ""
  error_status : String := "Upgrade failed"
  error_message : Text := []
  deriving DecidableEq

/-- The run with its surroundings; the caches are those of the registers of the version. -/
structure World where
  surroundings : Surroundings
  moment : ℕ := 0
  major_cache : Ioe1RegisterCache := {}
  minor_cache : Ioe1RegisterCache := {}
  result : Result := {}
  /-- The run is left by an exception, so `result` is not returned. -/
  threw : Bool := false
  history : List Obs := []

/-- What the run consists of; to give up is to return `result` as it is, or to throw. -/
abbrev Run := Program World

/-- An action, and the next moment. -/
def World.note (w : World) (o : Obs) : World :=
  { w with moment := w.moment + 1, history := w.history ++ [o] }

def clamp (value low high : ℤ) : ℤ := max low (min value high)

/-- `publish`. -/
def publish (percent : ℤ) (status : String) : Run Unit := fun w =>
  (some (), w.note (.published (clamp percent 0 100) status))

/-- The fields of `result` are assigned. -/
def assign (update : Result → Result) : Run Unit := fun w =>
  (some (), { w with result := update w.result })

/-- The run ends with an error. -/
def fail {α : Type} (error_status : String) (error_message : Text) : Run α := fun w =>
  (none, { w with result := { w.result with error_status, error_message } })

/-- A step that assigns the message itself if it fails. -/
def orFail {α : Type} (error_status : String) (m : Run α) : Run α :=
  m.otherwise fun w => (none, { w with result := { w.result with error_status } })

/-- `read_py32_firmware_version`. -/
def read_py32_firmware_version (force_refresh : Bool) : Run String := fun w =>
  let major := read_cached_ioe1_register w.major_cache
    ⟨w.surroundings.now w.moment, force_refresh, w.surroundings.register w.moment⟩
  let w := { w with major_cache := major.1 }.note (.register_read 0x02 major.2)
  match major.2.value with
  | none => (some K_EMPTY_VALUE, w)
  | some major_version =>
    let minor := read_cached_ioe1_register w.minor_cache
      ⟨w.surroundings.now w.moment, force_refresh, w.surroundings.register w.moment⟩
    let w := { w with minor_cache := minor.1 }.note (.register_read 0xBA minor.2)
    match minor.2.value with
    | none => (some K_EMPTY_VALUE, w)
    | some minor_version => (some (version_text major_version minor_version), w)

/-- `is_regular_file`. -/
def is_regular_file (path : Text) : Run Bool := fun w =>
  match w.surroundings.is_regular_file w.moment with
  | some regular => (some regular, w.note (.done (.file path) regular))
  | none => (none, { w.note (.done (.file path) false) with threw := true })

/-- The path has to be that of a regular file. -/
def require_file (path : Text) (error_status error_message : String) : Run Unit := do
  if ← is_regular_file path then pure () else fail error_status (utf8 error_message)

/-- The handler gets the lines. -/
def relay (line_handler : Text → Run Unit) : List Text → Run Unit
  | [] => pure ()
  | line :: lines => do
    line_handler line
    relay line_handler lines

/-- A command of which only the result is used: `process::run_command` and what is made of it. -/
def run_process (argv : List Text) (stdin_text : Text) (timeout_ms : ℕ)
    (line_handler : Text → Run Unit) (fallback : String) : Run Unit := do
  let (result, lines) ← fun w => (some (w.surroundings.process w.moment), w.note
    (.done (.command argv stdin_text timeout_ms) (w.surroundings.process w.moment).1.success))
  relay line_handler lines
  if result.success then pure ()
  else
    assign fun r => { r with error_message := process_error result fallback }
    giveUp

/-- `verify_checksums`; `process::run_shell` runs `/bin/sh`. -/
def verify_checksums (directory checksum_file : Text) : Run Unit :=
  run_process [utf8 "/bin/sh", utf8 "-c", verify_command directory checksum_file] [] 30000
    (fun _ => pure ()) "SHA256 verification failed"

/-- `run_command`. -/
def run_command (executable : Text) (args : List Text) (timeout_ms : ℕ) (stdin_text : Text)
    (line_handler : Text → Run Unit) : Run Unit :=
  run_process (executable :: args) stdin_text timeout_ms line_handler "Command failed"

/-- `make_temporary_directory`. -/
def make_temporary_directory : Run Text := fun w =>
  let timestamp := w.surroundings.now w.moment
  let name := utf8 ("factory_test_py32_upgrade_" ++ toString w.surroundings.process_id ++ "_" ++
    toString timestamp)
  match w.surroundings.temp_directory_path w.moment with
  | .error message => (none, { w with result := { w.result with error_message := message } }.note
      (.done (.directory name) false))
  | .ok temp =>
    let path := join temp name
    match w.surroundings.create_directories w.moment with
    | .ok true => (some path, w.note (.done (.directory path) true))
    | .ok false => (none, { w with result := { w.result with
        error_message := utf8 "Cannot create temporary directory" } }.note
          (.done (.directory path) false))
    | .error message => (none, { w with result := { w.result with error_message := message } }.note
        (.done (.directory path) false))

/-- The destructor of `TemporaryDirectory`. -/
def temporary_directory (path : Text) (w : World) : World :=
  if w.threw && !w.surroundings.unwinds then w else w.note (.removed path)

theorem temporary_directory_eq (path : Text) (w : World) :
    temporary_directory path w = w ∨ temporary_directory path w = w.note (.removed path) :=
  ite_eq_or_eq _ _ _

/-! ## The run -/

/-- `upgrade_line_handler`. -/
def upgrade_line_handler (line : Text) : Run Unit :=
  match parse_firmware_percent line with
  | some firmware_percent =>
    publish (55 + clamp firmware_percent 0 100 * 35 / 100)
      "Upgrading firmware. The screen may go black..."
  | none => pure ()

def package_path (dir : Text) : Text := join dir K_PACKAGE_DIR

def internal_checksums (dir : Text) : Text := join (package_path dir) (utf8 "SHA256SUMS.txt")

def script_path (dir : Text) : Text := join (package_path dir) K_SCRIPT_NAME

def firmware_path (dir : Text) : Text :=
  join (join (package_path dir) (utf8 "firmwares")) K_FIRMWARE_NAME

/-- What the run does in its temporary directory, up to the command that writes the firmware. -/
def prepare (archive_path dir : Text) : Run Unit := do
  publish 20 "Extracting firmware package..."
  orFail "Firmware package extraction failed" (run_command (utf8 "tar")
    [utf8 "-xzf", archive_path, utf8 "-C", dir] 30000 [] fun _ => pure ())
  require_file (internal_checksums dir) "Extracted firmware checksums not found"
    "Extracted firmware checksums not found"
  publish 30 "Verifying extracted firmware..."
  orFail "Extracted firmware verification failed"
    (verify_checksums (package_path dir) (internal_checksums dir))
  require_file (script_path dir) "Upgrade files not found"
    "PY32 upgrade script or 0x01 firmware not found"
  require_file (firmware_path dir) "Upgrade files not found"
    "PY32 upgrade script or 0x01 firmware not found"
  publish 38 "Checking 0x01 firmware..."
  orFail "Firmware validation failed" (run_command (utf8 "python3")
    [utf8 "-u", script_path dir, utf8 "-f", firmware_path dir, utf8 "--firmware-only"] 30000 []
    fun _ => pure ())
  publish 45 "Running upgrade dry run..."
  orFail "Upgrade dry run failed" (run_command (utf8 "python3")
    [utf8 "-u", script_path dir, utf8 "-b", utf8 "/dev/i2c-1", utf8 "-f", firmware_path dir,
      utf8 "--dry-run"] 30000 [] fun _ => pure ())

/-- What comes after the firmware was written. -/
def verify_version : Run Unit := do
  publish 92 "Verifying upgraded version..."
  let current_version ← read_py32_firmware_version true
  assign fun r => { r with current_version }
  if current_version ≠ K_TARGET_VERSION then
    fail "Version verification failed" (utf8 ("Upgraded version is " ++
      (if current_version = "" then "unavailable" else current_version) ++ ", expected " ++
      K_TARGET_VERSION))
  else
    assign fun r => { r with success := true }
    publish 100 "Upgrade complete (0x5A01). Please reboot."

/-- The firmware is written. -/
def program (dir : Text) : Run Unit := do
  publish 55 "Upgrading firmware. The screen may go black..."
  orFail "Firmware upgrade failed" (run_command (utf8 "python3")
    [utf8 "-u", script_path dir, utf8 "-b", utf8 "/dev/i2c-1", utf8 "-f", firmware_path dir] 180000
    (utf8 "\n\n") upgrade_line_handler)

/-- The package is checked. -/
def check_package (archive_path : Text) : Run Unit := do
  require_file archive_path "Firmware package not found" "Firmware package not found"
  let checksum_path := archive_path ++ utf8 ".sha256sum"
  require_file checksum_path "Firmware checksum file not found" "Firmware checksum file not found"
  publish 10 "Verifying firmware package..."
  orFail "Firmware package verification failed"
    (verify_checksums (parent_path archive_path) checksum_path)

/-- `run`. -/
def run (archive_path : Text) : Run Unit := do
  publish 2 "Checking current version..."
  let previous_version ← read_py32_firmware_version true
  assign fun r => { r with previous_version }
  if archive_path = [] ∨ filename archive_path ≠ K_ARCHIVE_NAME then
    fail "Firmware package not found" (utf8 "Firmware package not found")
  else
    check_package archive_path
    let dir ← orFail "Temporary directory creation failed" make_temporary_directory
    Program.scope (do prepare archive_path dir; program dir; verify_version)
      (temporary_directory dir)

/-- What a run leaves, whatever the caches hold when it begins. -/
def upgrade (archive_path : Text) (surroundings : Surroundings)
    (major_cache minor_cache : Ioe1RegisterCache) : World :=
  (run archive_path { surroundings, major_cache, minor_cache }).2

end FactoryTest.Upgrade

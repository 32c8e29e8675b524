import FactoryTest.Cap.Hardware

/-!
# The test of the CC1101 CAP

`src/platform/cap_cc1101_service.cpp` and the worker of `src/model/cap_cc1101_test_model.cpp`. Two
chips share a bus: the CC1101 has a chip select of its own, and the one of the ST25R3916 is a GPIO
line that the software sets around every transfer.

**Theorem (`sessions_bus`).** Over any number of tests, whatever the hardware answers and whenever
they are canceled, the rail is on whenever the bus is used, and off after every test.
-/

namespace FactoryTest.CapCc1101

open Cap

/-! ## The service -/

def K_CC_SRES : UInt8 := 0x30
def K_CC_SIDLE : UInt8 := 0x36
def K_CC_PARTNUM : UInt8 := 0x30
def K_CC_VERSION : UInt8 := 0x31
def K_CC_MARCSTATE : UInt8 := 0x35
def K_CC_PKTSTATUS : UInt8 := 0x38
def K_CC_STATUS_READ : UInt8 := 0xC0
def K_CC_IDLE_STATE : UInt8 := 0x01
def K_ST_OPERATION_CONTROL : UInt8 := 0x02
def K_ST_FIFO_STATUS1 : UInt8 := 0x1E
def K_ST_FIFO_STATUS2 : UInt8 := 0x1F
def K_ST_IDENTITY : UInt8 := 0x3F
def K_ST_REGISTER_READ : UInt8 := 0x40

/-- `hex_byte`. -/
def hex_byte (value : UInt8) : String :=
  let digit (n : ℕ) : Char := "0123456789ABCDEF".toList.getD n '0'
  "0x" ++ String.ofList [digit (value.toNat / 16), digit (value.toNat % 16)]

/-- `Cc1101Config`. -/
structure Cc1101Config where
  spi_path : String := "/dev/spidev0.1"
  spi_speed_hz : UInt32 := 4000000

/-- `Cc1101Result`. -/
structure Cc1101Result where
  detected : Bool := false
  initialized : Bool := false
  part_number : UInt8 := 0
  version : UInt8 := 0
  chip_status : UInt8 := 0
  marc_state : UInt8 := 0
  packet_status : UInt8 := 0
  error_message : String := ""
  deriving DecidableEq

/-- `St25r3916Config`. -/
structure St25r3916Config where
  spi_path : String := "/dev/spidev0.1"
  spi_speed_hz : UInt32 := 5000000
  software_cs : Gpio.OutputLineConfig := ⟨"/dev/gpiochip0", 22, "factory-test-st25r3916-cs"⟩

/-- `St25r3916Result`. -/
structure St25r3916Result where
  detected : Bool := false
  communication_verified : Bool := false
  identity : UInt8 := 0
  identity_readback : UInt8 := 0
  operation_control : UInt8 := 0
  fifo_status1 : UInt8 := 0
  fifo_status2 : UInt8 := 0
  error_message : String := ""
  deriving DecidableEq

variable {S R α : Type}

/-- `Cc1101Device::strobe`, with the status. -/
def strobe (device : Device) (command : UInt8) : Run S UInt8 := do
  match ← device.transfer [command] with
  | status :: _ => return status
  | [] => fail ("empty SPI response to strobe " ++ hex_byte command)

/-- `Cc1101Device::read_status`. -/
def read_status (device : Device) (reg : UInt8) : Run S UInt8 := do
  match ← device.transfer [reg ||| K_CC_STATUS_READ, 0x00] with
  | _ :: value :: _ => return value
  | _ => fail ("short SPI response from status register " ++ hex_byte reg)

/-- Reads that are joined by `||`: the first that fails is the last, and `error` is its message. -/
def read_all : List (Run S UInt8 × (UInt8 → R → R)) → R → Run S (Bool × R)
  | [], result => pure (true, result)
  | (read, set) :: reads, result => do
    match ← read.attempt with
    | some value => read_all reads (set value result)
    | none => return (false, result)

/-- What `probe_cc1101` makes of the registers. -/
def judge_cc1101 (result : Cc1101Result) : Cc1101Result :=
  let result := { result with
    detected := result.part_number = 0x00 ∧
      (result.version = 0x04 ∨ result.version = 0x14 ∨ result.version = 0x17) }
  if !result.detected then
    { result with error_message := "unexpected PARTNUM=" ++ hex_byte result.part_number ++
        " VERSION=" ++ hex_byte result.version }
  else if result.chip_status &&& 0x80 ≠ 0 ∨ result.marc_state &&& 0x1F ≠ K_CC_IDLE_STATE then
    { result with error_message := "unexpected status=" ++ hex_byte result.chip_status ++
        " MARCSTATE=" ++ hex_byte result.marc_state }
  else { result with initialized := true }

/-- The registers of the CC1101 in the order in which they are read. -/
def cc1101_reads (device : Device) : List (Run S UInt8 × (UInt8 → Cc1101Result → Cc1101Result)) :=
  [(strobe device K_CC_SIDLE, fun value result => { result with chip_status := value }),
    (read_status device K_CC_PARTNUM, fun value result => { result with part_number := value }),
    (read_status device K_CC_VERSION, fun value result => { result with version := value }),
    (read_status device K_CC_MARCSTATE, fun value result => { result with marc_state := value }),
    (read_status device K_CC_PKTSTATUS, fun value result => { result with packet_status := value })]

/-- `probe_cc1101` after the device was opened. -/
def probe_device (progress : String → Run S Unit) (device : Device) : Run S Cc1101Result := do
  progress "Resetting CC1101 and reading identity/status"
  match ← (strobe device K_CC_SRES).attempt with
  | none => return { error_message := ← error_message }
  | some _ =>
    if ← canceled then return { error_message := "test canceled" }
    else
      let (read, result) ← read_all (cc1101_reads device) {}
      if read then return judge_cc1101 result
      else return { result with error_message := ← error_message }

/-- `run_cc1101_test`. -/
def run_cc1101_test (config : Cc1101Config) (progress : String → Run S Unit) :
    Run S Cc1101Result := do
  let device_config : DeviceConfig := { path := config.spi_path, speed_hz := config.spi_speed_hz }
  match ← (Device.open_device device_config).attempt with
  | none => return { error_message := ← error_message }
  | some device => (probe_device progress device).scope device.destroy

/-- The line of the software chip select. -/
def chip_select : ℕ := 0

/-- `transfer_with_software_cs`. -/
def transfer_with_software_cs (device : Device) (tx : List UInt8) : Run S (List UInt8) := do
  match ← (set_line chip_select false).attempt with
  | none => fail ("assert software CS: " ++ (← error_message))
  | some () =>
    let rx ← (device.transfer tx).attempt
    let error ← error_message
    match ← (set_line chip_select true).attempt with
    | none =>
      let deassert_error ← error_message
      fail ((if error ≠ "" then error ++ " | " else "") ++
        ("deassert software CS: " ++ deassert_error))
    | some () =>
      match rx with
      | some rx => return rx
      | none => fail error

/-- `read_st_register`. -/
def read_st_register (device : Device) (reg : UInt8) : Run S UInt8 := do
  match ← transfer_with_software_cs device [K_ST_REGISTER_READ ||| reg, 0x00] with
  | _ :: value :: _ => return value
  | _ => fail ("short SPI response from register " ++ hex_byte reg)

/-- What `run_st25r3916_test` makes of the registers. -/
def judge_st25r3916 (result : St25r3916Result) : St25r3916Result :=
  let detected : Bool := result.identity >>> 3 = 0x05
  let result := { result with
    detected
    communication_verified := detected && result.identity_readback = result.identity }
  if !result.communication_verified then
    { result with error_message :=
        if result.detected then "identity readback mismatch: " ++ hex_byte result.identity_readback
        else "unexpected IC identity " ++ hex_byte result.identity }
  else result

/-- The registers of the ST25R3916 in the order in which they are read. -/
def st25r3916_reads (device : Device) :
    List (Run S UInt8 × (UInt8 → St25r3916Result → St25r3916Result)) :=
  [(read_st_register device K_ST_IDENTITY, fun value result => { result with identity := value }),
    (read_st_register device K_ST_OPERATION_CONTROL,
      fun value result => { result with operation_control := value }),
    (read_st_register device K_ST_FIFO_STATUS1,
      fun value result => { result with fifo_status1 := value }),
    (read_st_register device K_ST_FIFO_STATUS2,
      fun value result => { result with fifo_status2 := value }),
    (read_st_register device K_ST_IDENTITY,
      fun value result => { result with identity_readback := value })]

/-- `run_st25r3916_test` after the device was opened. -/
def read_st25r3916 (progress : String → Run S Unit) (device : Device) : Run S St25r3916Result := do
  progress "Reading ST25R3916 identity/status registers"
  let (read, result) ← read_all (st25r3916_reads device) {}
  if !read then return { result with error_message := ← error_message }
  else if ← canceled then return { result with error_message := "test canceled" }
  else return judge_st25r3916 result

/-- `run_st25r3916_test` after the line of the chip select was made. -/
def select_st25r3916 (config : St25r3916Config) (progress : String → Run S Unit) :
    Run S St25r3916Result := do
  match ← (set_line chip_select true).attempt with
  | none => return { error_message := "initialize GPIO22 software CS: " ++ (← error_message) }
  | some () =>
    let device_config : DeviceConfig := {
      path := config.spi_path, speed_hz := config.spi_speed_hz, mode := 1, no_chip_select := true }
    match ← (Device.open_device device_config).attempt with
    | none => return { error_message := ← error_message }
    | some device => (read_st25r3916 progress device).scope device.destroy

/-- `run_st25r3916_test`. -/
def run_st25r3916_test (config : St25r3916Config) (progress : String → Run S Unit) :
    Run S St25r3916Result := do
  make_line chip_select config.software_cs
  (select_st25r3916 config progress).scope (drop_line chip_select)

/-! ## The worker -/

/-- `CapCc1101RunState`. -/
inductive CapCc1101RunState
  | WAITING_FOR_CAP
  | RUNNING
  | PASSED
  | FAILED
  | CANCELED
  deriving DecidableEq

/-- `CapCc1101Snapshot`; `cc_chip` and `st_chip` are its items. -/
structure CapCc1101Snapshot where
  state : CapCc1101RunState := .WAITING_FOR_CAP
  cc_chip : ItemSnapshot := { name := "CC1101" }
  st_chip : ItemSnapshot := { name := "ST25R" }
  headline : String := "Install CAP-CC1101, then press Enter"
  error_message : String := ""
  revision : ℕ := 0
  deriving DecidableEq

/-- `publish_`. -/
def publish_ (update : CapCc1101Snapshot → CapCc1101Snapshot) : Run CapCc1101Snapshot Unit :=
  Cap.publish_ fun snapshot =>
    let snapshot := update snapshot
    { snapshot with revision := snapshot.revision + 1 }

/-- What `start` publishes. -/
def start (snapshot : CapCc1101Snapshot) : CapCc1101Snapshot :=
  { snapshot with
    state := .RUNNING
    headline := "Testing CC1101 over SPI"
    error_message := ""
    cc_chip := { name := "CC1101", state := .RUNNING, detail := "Opening /dev/spidev0.1" }
    st_chip := { name := "ST25R" }
    revision := snapshot.revision + 1 }

def cc_ok (cc : Cc1101Result) : Bool := cc.detected && cc.initialized

def st_ok (st : St25r3916Result) : Bool := st.detected && st.communication_verified

/-- The snapshot after the run was canceled. -/
def publish_canceled : Run CapCc1101Snapshot Unit :=
  publish_ fun snapshot => { snapshot with state := .CANCELED, headline := "Test canceled" }

/-- The snapshot after the first chip. -/
def with_cc1101 (cc : Cc1101Result) (snapshot : CapCc1101Snapshot) : CapCc1101Snapshot :=
  { snapshot with
    cc_chip.state := if cc_ok cc then .PASSED else .FAILED
    cc_chip.detail :=
      if cc_ok cc then "PART " ++ hex_byte cc.part_number ++ " VER " ++ hex_byte cc.version ++
        " ST " ++ hex_byte cc.chip_status ++ " MARC " ++ hex_byte cc.marc_state
      else cc.error_message
    headline := "Testing ST25R3916 over SPI"
    st_chip.state := .RUNNING
    st_chip.detail := "SPI bus via spidev0.1, software CS on GPIO22" }

/-- The message after both chips. -/
def joined_message (message : String) (cc : Cc1101Result) (st : St25r3916Result) : String :=
  let message := if !cc_ok cc then cc.error_message else message
  if !st_ok st then (if message ≠ "" then message ++ " | " else message) ++ st.error_message
  else message

/-- The snapshot after both chips. -/
def with_st25r3916 (cc : Cc1101Result) (st : St25r3916Result) (snapshot : CapCc1101Snapshot) :
    CapCc1101Snapshot :=
  { snapshot with
    st_chip.state := if st_ok st then .PASSED else .FAILED
    st_chip.detail :=
      if st_ok st then "ID " ++ hex_byte st.identity ++ " OP " ++ hex_byte st.operation_control ++
        " FIFO " ++ hex_byte st.fifo_status1 ++ "/" ++ hex_byte st.fifo_status2
      else st.error_message
    state := if cc_ok cc && st_ok st then .PASSED else .FAILED
    headline :=
      if cc_ok cc && st_ok st then "CAP-CC1101 test passed" else "CAP-CC1101 test failed"
    error_message := joined_message snapshot.error_message cc st }

/-- The progress of the first chip. -/
def cc_progress (detail : String) : Run CapCc1101Snapshot Unit :=
  publish_ fun snapshot => { snapshot with cc_chip.detail := detail }

/-- The progress of the second chip. -/
def st_progress (detail : String) : Run CapCc1101Snapshot Unit :=
  publish_ fun snapshot => { snapshot with st_chip.detail := detail }

/-- `run_` while the rail is on. -/
def run_powered : Run CapCc1101Snapshot Unit := do
  let cc ← run_cc1101_test {} cc_progress
  if ← canceled then publish_canceled
  else
    publish_ (with_cc1101 cc)
    let st ← run_st25r3916_test {} st_progress
    if ← canceled then publish_canceled
    else publish_ (with_st25r3916 cc st)

/-- The snapshot after the rail could not be switched on. -/
def without_power (power_error : String) (snapshot : CapCc1101Snapshot) : CapCc1101Snapshot :=
  let message := "EXT 5V enable failed: " ++ power_error
  { snapshot with
    revision := snapshot.revision + 1
    state := .FAILED
    headline := "CAP-CC1101 test failed"
    error_message := message
    cc_chip.state := .FAILED
    cc_chip.detail := message }

/-- `run_`. -/
def run_ : Run CapCc1101Snapshot Unit := with_ext_5v without_power run_powered

/-- A test from `start` on; `start` has joined the worker before. -/
def test (surroundings : Surroundings) (snapshot : CapCc1101Snapshot) : World CapCc1101Snapshot :=
  (run_ { surroundings, snapshot := start snapshot }).2

/-! ## The bus -/

open Program

section

variable {s : Bus} {device : Device}

theorem strobe_on (hfd : s.device = some device.fd) (command : UInt8) :
    Triple (On (S := S) s) (strobe device command) (fun _ => On s) (On s) := by
  refine (transfer_on hfd _).bind fun rx => ?_
  cases rx with
  | nil => exact fail_on s _
  | cons status rest => exact triple_pure fun _ h => h

theorem read_status_on (hfd : s.device = some device.fd) (reg : UInt8) :
    Triple (On (S := S) s) (read_status device reg) (fun _ => On s) (On s) := by
  refine (transfer_on hfd _).bind fun rx => ?_
  rcases rx with _ | ⟨-, _ | ⟨value, rest⟩⟩
  · exact fail_on s _
  · exact fail_on s _
  · exact triple_pure fun _ h => h

theorem read_all_keeps {P : World S → Prop} {reads : List (Run S UInt8 × (UInt8 → R → R))}
    (hreads : ∀ read ∈ reads, Keeps P read.1) (result : R) {E : World S → Prop} :
    Triple P (read_all reads result) (fun _ => P) E := by
  induction reads generalizing result with
  | nil => exact triple_pure fun _ h => h
  | cons read reads ih =>
    obtain ⟨hread, hrest⟩ := List.forall_mem_cons.1 hreads
    refine (Triple.attempt hread).bind fun answer => ?_
    cases answer with
    | none => exact triple_pure fun _ h => h
    | some value => exact ih hrest _

theorem transfer_with_software_cs_on (hfd : s.device = some device.fd)
    (hline : chip_select ∈ s.lines) (tx : List UInt8) :
    Triple (On (S := S) s) (transfer_with_software_cs device tx) (fun _ => On s) (On s) := by
  have hfail : ∀ f : String → String,
      Triple (On (S := S) s) (do fail (f (← error_message)))
        (fun (_ : List UInt8) => On s) (On s) := fun f =>
    triple_error_message.bind fun _ => fail_on s _
  refine (set_line_on hline false).attempt.bind fun answer => ?_
  cases answer with
  | none => exact hfail _
  | some _ =>
    refine (transfer_on hfd tx).attempt.bind fun rx => ?_
    have hrx : Triple (fun w => rx.elim (On s w) fun _ => On s w) error_message
        (fun _ => On (S := S) s) (On s) := by
      intro w hw
      cases rx with
      | none => exact hw
      | some rx => exact hw
    refine hrx.bind fun error => (set_line_on hline true).attempt.bind fun answer => ?_
    cases answer with
    | none => exact hfail _
    | some _ =>
      cases rx with
      | none => exact fail_on s _
      | some rx => exact triple_pure fun _ h => h

theorem read_st_register_on (hfd : s.device = some device.fd) (hline : chip_select ∈ s.lines)
    (reg : UInt8) :
    Triple (On (S := S) s) (read_st_register device reg) (fun _ => On s) (On s) := by
  refine (transfer_with_software_cs_on hfd hline _).bind fun rx => ?_
  rcases rx with _ | ⟨-, _ | ⟨value, rest⟩⟩
  · exact fail_on s _
  · exact fail_on s _
  · exact triple_pure fun _ h => h

variable {progress : String → Run S Unit}
  (hprogress : ∀ (s : Bus) detail, Triple (On s) (progress detail) (fun _ => On s) fun _ => False)

include hprogress

theorem probe_device_on (hfd : s.device = some device.fd) :
    Triple (On s) (probe_device progress device) (fun _ => On s) fun _ => False := by
  refine (hprogress s _).bind fun _ => (strobe_on hfd _).attempt.bind fun answer => ?_
  cases answer with
  | none => exact triple_return_error _
  | some status =>
    refine (canceled_on s).bind fun canceled => ?_
    refine triple_ite (fun _ => triple_pure fun _ h => h) fun _ => ?_
    refine (read_all_keeps (fun read hread => ?_) _).bind fun answer => ?_
    · simp only [cc1101_reads, List.mem_cons, List.not_mem_nil, or_false] at hread
      rcases hread with rfl | rfl | rfl | rfl | rfl
      · exact strobe_on hfd _
      all_goals exact read_status_on hfd _
    · exact triple_ite (fun _ => triple_pure fun _ h => h) fun _ => triple_return_error _

theorem run_cc1101_test_on (config : Cc1101Config) :
    Triple (On ⟨.on, none, []⟩) (run_cc1101_test config progress) (fun _ => On ⟨.on, none, []⟩)
      fun _ => False := by
  refine (open_device_on [] _).attempt.bind fun answer => ?_
  cases answer with
  | none => exact triple_return_error _
  | some device =>
    exact (probe_device_on hprogress rfl).scope (fun _ w hw => destroy_device hw rfl)
      fun _ h => False.elim h

theorem read_st25r3916_on (hfd : s.device = some device.fd) (hline : chip_select ∈ s.lines) :
    Triple (On s) (read_st25r3916 progress device) (fun _ => On s) fun _ => False := by
  refine (hprogress s _).bind fun _ => ?_
  refine (read_all_keeps (fun read hread => ?_) _).bind fun answer => ?_
  · simp only [st25r3916_reads, List.mem_cons, List.not_mem_nil, or_false] at hread
    rcases hread with rfl | rfl | rfl | rfl | rfl
    all_goals exact read_st_register_on hfd hline _
  · refine triple_ite (fun _ => triple_return_error _) fun _ => ?_
    refine (canceled_on s).bind fun canceled => ?_
    exact triple_ite (fun _ => triple_pure fun _ h => h) fun _ => triple_pure fun _ h => h

theorem run_st25r3916_test_on (config : St25r3916Config) :
    Triple (On ⟨.on, none, []⟩) (run_st25r3916_test config progress)
      (fun _ => On ⟨.on, none, []⟩) fun _ => False := by
  have hselect : Triple (On ⟨.on, none, [chip_select]⟩) (select_st25r3916 config progress)
      (fun _ => On ⟨.on, none, [chip_select]⟩) fun _ => False := by
    refine (set_line_on List.mem_cons_self true).attempt.bind fun answer => ?_
    cases answer with
    | none => exact triple_return_error _
    | some _ =>
      refine (open_device_on [chip_select] _).attempt.bind fun answer => ?_
      cases answer with
      | none => exact triple_return_error _
      | some device =>
        exact (read_st25r3916_on hprogress rfl List.mem_cons_self).scope
          (fun _ w hw => destroy_device hw rfl) fun _ h => False.elim h
  exact (make_line_on (List.not_mem_nil) _).bind fun _ => hselect.scope
    (fun _ w hw => drop_line_on hw List.mem_cons_self rfl) fun _ h => False.elim h

end

/-! ## What every action keeps -/

section

variable {p : Obs S → Prop} {P : World S → Prop} {progress : String → Run S Unit}
  (hP : Invariant p P) (hopens : ∀ o : Obs S, o.Opens → p o)
  (hlooked : ∀ canceled, p (.looked canceled))
  (hprogress : ∀ detail, Keeps P (progress detail))

include hP hopens hlooked hprogress

theorem run_cc1101_test_keeps (hsends : ∀ o : Obs S, o.Sends → p o) (config : Cc1101Config) :
    Keeps P (run_cc1101_test config progress) := by
  have hstrobe : ∀ device command, Keeps P (strobe device command) := by
    intro device command
    refine (transfer_keeps hP hsends device _).bind fun rx => ?_
    cases rx with
    | nil => exact fail_keeps hP _
    | cons status rest => exact triple_pure fun _ h => h
  have hstatus : ∀ device reg, Keeps P (read_status device reg) := by
    intro device reg
    refine (transfer_keeps hP hsends device _).bind fun rx => ?_
    rcases rx with _ | ⟨-, _ | ⟨value, rest⟩⟩
    · exact fail_keeps hP _
    · exact fail_keeps hP _
    · exact triple_pure fun _ h => h
  have hprobe : ∀ device, Keeps P (probe_device progress device) := by
    intro device
    refine (hprogress _).bind fun _ => (triple_attempt_same (hstrobe _ _)).bind fun answer => ?_
    cases answer with
    | none => exact triple_return_error _
    | some status =>
      refine (canceled_keeps hP hlooked).bind fun canceled => ?_
      refine triple_ite (fun _ => triple_pure fun _ h => h) fun _ => ?_
      refine (read_all_keeps (fun read hread => ?_) _).bind fun answer => ?_
      · simp only [cc1101_reads, List.mem_cons, List.not_mem_nil, or_false] at hread
        rcases hread with rfl | rfl | rfl | rfl | rfl
        · exact hstrobe _ _
        all_goals exact hstatus _ _
      · exact triple_ite (fun _ => triple_pure fun _ h => h) fun _ => triple_return_error _
  refine (triple_attempt_same (open_device_keeps hP hopens _)).bind fun answer => ?_
  cases answer with
  | none => exact triple_return_error _
  | some device =>
    exact (hprobe device).scope
      (fun _ w hw => destroy_keeps hP (fun _ => hopens _ trivial) hw device)
      fun w hw => destroy_keeps hP (fun _ => hopens _ trivial) hw device

/-- The test of the second chip while its line is there. -/
theorem select_st25r3916_keeps (hset : Keeps P (set_line chip_select true))
    (hread : ∀ device reg, Keeps P (read_st_register device reg)) (config : St25r3916Config) :
    Keeps P (select_st25r3916 config progress) := by
  have hregisters : ∀ device, Keeps P (read_st25r3916 progress device) := by
    intro device
    refine (hprogress _).bind fun _ => ?_
    refine (read_all_keeps (fun read hmem => ?_) _).bind fun answer => ?_
    · simp only [st25r3916_reads, List.mem_cons, List.not_mem_nil, or_false] at hmem
      rcases hmem with rfl | rfl | rfl | rfl | rfl
      all_goals exact hread _ _
    · refine triple_ite (fun _ => triple_return_error _) fun _ => ?_
      refine (canceled_keeps hP hlooked).bind fun canceled => ?_
      exact triple_ite (fun _ => triple_pure fun _ h => h) fun _ => triple_pure fun _ h => h
  refine (triple_attempt_same hset).bind fun answer => ?_
  cases answer with
  | none => exact triple_return_error _
  | some _ =>
    refine (triple_attempt_same (open_device_keeps hP hopens _)).bind fun answer => ?_
    cases answer with
    | none => exact triple_return_error _
    | some device =>
      exact (hregisters device).scope
        (fun _ w hw => destroy_keeps hP (fun _ => hopens _ trivial) hw device)
        fun w hw => destroy_keeps hP (fun _ => hopens _ trivial) hw device

end

/-- A property that only published snapshots can change. -/
theorem run_st25r3916_test_keeps {p : Obs S → Prop} {P : World S → Prop}
    {progress : String → Run S Unit} (hP : Invariant p P)
    (hp : ∀ o : Obs S, o.snapshot = none → p o)
    (hprogress : ∀ detail, Keeps P (progress detail)) (config : St25r3916Config) :
    Keeps P (run_st25r3916_test config progress) := by
  have hset : ∀ active, Keeps P (set_line chip_select active) :=
    fun active => set_line_keeps hP (fun _ _ _ => hp _ rfl) _ _
  have hfail : ∀ f : String → String,
      Keeps P (do fail (f (← error_message)) : Run S (List UInt8)) :=
    fun f => triple_error_message.bind fun _ => fail_keeps hP _
  have hsent : ∀ device tx, Keeps P (Device.transfer device tx) :=
    fun device tx => transfer_keeps hP (fun o ho => hp o ho.snapshot) device tx
  have htransfer : ∀ device tx, Keeps P (transfer_with_software_cs device tx) := by
    intro device tx
    refine (triple_attempt_same (hset false)).bind fun answer => ?_
    cases answer with
    | none => exact hfail _
    | some _ =>
      refine (triple_attempt_same (hsent device tx)).bind fun rx => ?_
      refine triple_error_message.bind fun error => ?_
      refine (triple_attempt_same (hset true)).bind fun answer => ?_
      cases answer with
      | none => exact hfail _
      | some _ =>
        cases rx with
        | none => exact fail_keeps hP _
        | some rx => exact triple_pure fun _ h => h
  have hread : ∀ device reg, Keeps P (read_st_register device reg) := by
    intro device reg
    refine (htransfer device _).bind fun rx => ?_
    rcases rx with _ | ⟨-, _ | ⟨value, rest⟩⟩
    · exact fail_keeps hP _
    · exact fail_keeps hP _
    · exact triple_pure fun _ h => h
  have hselect := select_st25r3916_keeps hP (fun o ho => hp o ho.snapshot) (fun _ => hp _ rfl)
    hprogress (hset true) hread config
  exact (make_line_keeps hP (fun _ => hp _ rfl) _ _).bind fun _ => hselect.scope
    (fun _ w hw => drop_line_keeps hP (fun _ => hp _ rfl) hw _)
    fun w hw => drop_line_keeps hP (fun _ => hp _ rfl) hw _

/-! ## Runs -/

theorem publish_update_on (s : Bus) (update : CapCc1101Snapshot → CapCc1101Snapshot) :
    Triple (On s) (publish_ update) (fun _ => On s) fun _ => False := publish_on s _

theorem run_powered_on :
    Triple (On ⟨.on, none, []⟩) run_powered (fun _ => On ⟨.on, none, []⟩) fun _ => False := by
  refine (run_cc1101_test_on (fun s _ => publish_update_on s _) _).bind fun cc => ?_
  refine (canceled_on _).bind fun canceled => ?_
  refine triple_ite (fun _ => publish_update_on _ _) fun _ => ?_
  refine (publish_update_on _ _).bind fun _ => ?_
  refine (run_st25r3916_test_on (fun s _ => publish_update_on s _) _).bind fun st => ?_
  refine (canceled_on _).bind fun canceled => ?_
  exact triple_ite (fun _ => publish_update_on _ _) fun _ => publish_update_on _ _

theorem test_on (surroundings : Surroundings) (snapshot : CapCc1101Snapshot) :
    On {} (test surroundings snapshot) :=
  Keeps.apply ((with_ext_5v_on without_power run_powered_on).escape fun _ => False.elim)
    (on_start _ _)

/-- Over any number of tests the bus is used only while the rail is on and the device is open, and
everything is given back before the rail is switched off. -/
theorem sessions_bus (snapshot : CapCc1101Snapshot) (tests : List Surroundings) :
    (bus CapCc1101Snapshot).At {} (sessions test snapshot tests).1 ∧
      ∀ before o after fd, (sessions test snapshot tests).1 = before ++ o :: after → o.Uses fd →
        Powered before ∧ Opened fd before := by
  have hat := sessions_at (M := bus CapCc1101Snapshot)
    (fun surroundings snapshot => (test_on surroundings snapshot).history) snapshot tests
  exact ⟨hat, fun before o after fd heq ho => powered_of_uses (heq ▸ hat) ho⟩

end FactoryTest.CapCc1101

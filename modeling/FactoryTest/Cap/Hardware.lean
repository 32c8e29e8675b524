import FactoryTest.Lib.Monitor
import FactoryTest.Lib.Program
import FactoryTest.Gpio.Sysfs

/-!
# The hardware of a CAP test

What the worker of a CAP test meets: the switch of the 5 V rail, `Device` of
`src/platform/spi_device.cpp`, lines of a GPIO chip, the flag of `cancel` and the snapshot that it
publishes.

**Surroundings.** How the kernel answers is not known. Every moment of a run has its own answers,
and the flag is set at some moment of the run or not at all.

**History.** Every action of the worker with whether it succeeded. Messages to the log and
`sleep_for` are left out; nothing that is modelled here depends on the time.

**The bus** (`bus`). A monitor that reads such a history: the rail is switched off after everything
else was given back, and nothing is used before the rail is on.
-/

namespace FactoryTest.Cap

/-! ## Items -/

/-- The state of an item: `CapCc1101ItemState` and `CapLora1262ItemState`. -/
inductive ItemState
  | PENDING
  | RUNNING
  | PASSED
  | FAILED
  deriving DecidableEq

/-- An item of a snapshot: `CapCc1101ItemSnapshot` and `CapLora1262ItemSnapshot`. -/
structure ItemSnapshot where
  name : String
  state : ItemState := .PENDING
  detail : String := "Waiting"
  deriving DecidableEq

/-! ## What the kernel answers -/

/-- The `ioctl` requests of `Device`. -/
inductive Request
  | SPI_IOC_WR_MODE (mode : UInt8)
  | SPI_IOC_WR_BITS_PER_WORD (bits : UInt8)
  | SPI_IOC_WR_LSB_FIRST (lsb_first : UInt8)
  | SPI_IOC_WR_MAX_SPEED_HZ (speed : UInt32)
  | SPI_IOC_MESSAGE (tx : List UInt8)
  deriving DecidableEq

/-- What `ioctl` answers: whether it succeeded, `errno`, the mode it reads and the bytes that it
receives. -/
structure IoctlAnswer where
  ok : Bool
  errno : String := ""
  mode : UInt8 := 0
  rx : List UInt8 := []

/-- What each moment of a run answers, and when the flag is set. -/
structure Surroundings where
  canceled_from : Option ℕ := none
  write_binary : ℕ → Gpio.WriteAnswers
  open_path : ℕ → Except String ℕ
  ioctl : ℕ → IoctlAnswer
  set_line : ℕ → Gpio.SetAnswers

/-! ## The world -/

/-- What can be observed of a run. -/
inductive Obs (S : Type)
  /-- The rail is switched. -/
  | power (active ok : Bool)
  | opened (path : String) (fd : Option ℕ)
  | ioctl (fd : ℕ) (request : Request) (ok : Bool)
  /-- `SPI_IOC_RD_MODE`, and whether the mode is accepted. -/
  | mode_read (fd : ℕ) (accepted : Bool)
  /-- A message was sent, and bytes were received. -/
  | exchanged (fd : ℕ) (tx rx : List UInt8)
  | closed (fd : ℕ)
  | line_made (id : ℕ)
  | line_set (id : ℕ) (active ok : Bool)
  | line_dropped (id : ℕ)
  /-- The flag was looked at. -/
  | looked (canceled : Bool)
  | published (s : S)
  deriving DecidableEq

/-- What opening and closing a device leaves. -/
def Obs.Opens {S : Type} : Obs S → Prop
  | .opened _ _ | .mode_read _ _ | .closed _ => True
  | .ioctl _ (.SPI_IOC_MESSAGE _) _ => False
  | .ioctl _ _ _ => True
  | _ => False

/-- What sending a message leaves, whether it comes through or not. -/
def Obs.Sends {S : Type} : Obs S → Prop
  | .exchanged _ _ _ | .ioctl _ (.SPI_IOC_MESSAGE _) _ => True
  | _ => False

/-- The flag as it was seen. -/
def Obs.flag {S : Type} : Obs S → Option Bool
  | .looked canceled => some canceled
  | _ => none

/-- The snapshot as it was published. -/
def Obs.snapshot {S : Type} : Obs S → Option S
  | .published s => some s
  | _ => none

theorem Obs.Opens.snapshot {S : Type} {o : Obs S} (ho : o.Opens) : o.snapshot = none := by
  cases o <;> first | rfl | exact False.elim ho

theorem Obs.Sends.snapshot {S : Type} {o : Obs S} (ho : o.Sends) : o.snapshot = none := by
  cases o <;> first | rfl | exact False.elim ho

/-- The model with its surroundings; `error_message` is the argument of that name that functions
which give up have filled in. -/
structure World (S : Type) where
  surroundings : Surroundings
  moment : ℕ := 0
  error_message : String := ""
  gpio : Gpio.World := {}
  snapshot : S
  history : List (Obs S) := []

/-- What the worker runs; to give up is to return false. -/
abbrev Run (S : Type) := Program (World S)

variable {S α : Type}

/-- An action, and the next moment. -/
def World.note (w : World S) (o : Obs S) : World S :=
  { w with moment := w.moment + 1, history := w.history ++ [o] }

/-- An action is noted. -/
def note (o : Obs S) : Run S Unit := fun w => (some (), w.note o)

def fail (message : String) : Run S α := fun w => (none, { w with error_message := message })

/-- `error_message`. -/
def error_message : Run S String := fun w => (some w.error_message, w)

/-- `cancel_requested.load()`. -/
def canceled : Run S Bool := fun w =>
  let canceled := w.surroundings.canceled_from.any (· ≤ w.moment)
  (some canceled, w.note (.looked canceled))

/-- `publish_`; the update counts the revision. -/
def publish_ (update : S → S) : Run S Unit := fun w =>
  let w := { w with snapshot := update w.snapshot }
  (some (), w.note (.published w.snapshot))

/-! ## The rail -/

def K_EXT_5V_PATH : String := "/sys/class/leds/ext_5v_out/brightness"

/-- `write_sysfs_binary_value` for the rail. -/
def write_ext_5v (active : Bool) : Run S Unit := fun w =>
  match Gpio.write_sysfs_binary_value K_EXT_5V_PATH active
      (w.surroundings.write_binary w.moment) with
  | .ok () => (some (), w.note (.power active true))
  | .error message => (none, { w.note (.power active false) with error_message := message })

/-- The destructor of `PowerCleanup`. -/
def power_cleanup (w : World S) : World S := (write_ext_5v false w).2

/-- What the workers of both tests begin with: they switch the rail on, and publish what is left if
that fails. The rail stays on for the rest of their scope. -/
def with_ext_5v (without_power : String → S → S) (rest : Run S Unit) : Run S Unit := do
  match ← (write_ext_5v true).attempt with
  | none =>
    let power_error ← error_message
    let _ ← (write_ext_5v false).attempt
    publish_ (without_power power_error)
  | some () => rest.scope power_cleanup

/-- What tests that follow each other do, and the snapshot they leave. A test begins when the
worker of the one before it was joined. -/
def sessions (test : Surroundings → S → World S) (snapshot : S) :
    List Surroundings → List (Obs S) × S
  | [] => ([], snapshot)
  | surroundings :: later =>
    let w := test surroundings snapshot
    let (history, snapshot) := sessions test w.snapshot later
    (w.history ++ history, snapshot)

/-! ## SPI -/

/-- `DeviceConfig`. -/
structure DeviceConfig where
  path : String
  speed_hz : UInt32 := 1000000
  mode : UInt8 := 0
  bits_per_word : UInt8 := 8
  lsb_first : Bool := false
  no_chip_select : Bool := false
  deriving DecidableEq

def SPI_NO_CS : UInt8 := 0x40

/-- `Device`. -/
structure Device where
  fd : ℕ
  config : DeviceConfig
  deriving DecidableEq

/-- `::open`. -/
def open_path (path : String) : Run S ℕ := fun w =>
  match w.surroundings.open_path w.moment with
  | .ok fd => (some fd, w.note (.opened path (some fd)))
  | .error errno =>
    (none, { w.note (.opened path none) with error_message := "open " ++ path ++ ": " ++ errno })

/-- `ioctl`, of a request that transfers no bytes. -/
def ioctl (fd : ℕ) (request : Request) : Run S IoctlAnswer := fun w =>
  let answer := w.surroundings.ioctl w.moment
  (some answer, w.note (.ioctl fd request answer.ok))

/-- `close`. -/
def close (fd : ℕ) (w : World S) : World S := w.note (.closed fd)

/-- The requests of `open`, up to the first that fails. -/
def configure (path : String) (fd : ℕ) : List Request → Run S Unit
  | [] => pure ()
  | request :: requests => do
    let answer ← ioctl fd request
    if answer.ok then configure path fd requests
    else fail ("configure " ++ path ++ ": " ++ answer.errno)

/-- The message if the mode is not accepted. -/
def mode_error (config : DeviceConfig) (errno : String) : String :=
  if config.no_chip_select then "SPI controller did not accept SPI_NO_CS on " ++ config.path
  else "read mode from " ++ config.path ++ ": " ++ errno

/-- What `open` checks of the mode. -/
def check_mode (config : DeviceConfig) (fd : ℕ) : Run S Unit := fun w =>
  let answer := w.surroundings.ioctl w.moment
  if !answer.ok || config.no_chip_select && answer.mode &&& SPI_NO_CS = 0 then
    (none, { w.note (.mode_read fd false) with error_message := mode_error config answer.errno })
  else (some (), w.note (.mode_read fd true))

/-- What `open` sets and checks of an open file. -/
def set_up (config : DeviceConfig) (fd : ℕ) : Run S Unit := do
  configure config.path fd [
    .SPI_IOC_WR_MODE (if config.no_chip_select then config.mode ||| SPI_NO_CS else config.mode),
    .SPI_IOC_WR_BITS_PER_WORD config.bits_per_word,
    .SPI_IOC_WR_LSB_FIRST (if config.lsb_first then 1 else 0),
    .SPI_IOC_WR_MAX_SPEED_HZ config.speed_hz]
  check_mode config fd

namespace Device

/-- `Device::open`; a file that cannot be set up is closed. -/
def open_device (config : DeviceConfig) : Run S Device := do
  if config.path = "" then fail "SPI path is empty"
  else
    let fd ← open_path config.path
    (set_up config fd).otherwise fun w => (none, close fd w)
    return ⟨fd, config⟩

/-- The destructor of a `Device`. -/
def destroy (device : Device) (w : World S) : World S := close device.fd w

/-- `Device::transfer`: as many bytes are received as are sent. -/
def transfer (device : Device) (tx : List UInt8) : Run S (List UInt8) := fun w =>
  if tx = [] then (none, { w with error_message := "SPI transfer buffer is empty" })
  else
    let answer := w.surroundings.ioctl w.moment
    if answer.ok then
      let rx := (List.range tx.length).map fun i => answer.rx.getD i 0
      (some rx, { w.note (.exchanged device.fd tx rx) with error_message := "" })
    else
      (none, { w.note (.ioctl device.fd (.SPI_IOC_MESSAGE tx) false) with
        error_message := "SPI_IOC_MESSAGE on " ++ device.config.path ++ ": " ++ answer.errno })

end Device

/-! ## GPIO lines -/

/-- An `OutputLine` is made. -/
def make_line (id : ℕ) (config : Gpio.OutputLineConfig) : Run S Unit := fun w =>
  (some (), { w with gpio := w.gpio.put (.object id) (some { config := config }) w.gpio.log }.note
    (.line_made id))

/-- `OutputLine::set_value`. -/
def set_line (id : ℕ) (active : Bool) : Run S Unit := fun w =>
  let (result, gpio) := w.gpio.modify id fun line =>
    line.set_value (.object id) active (w.surroundings.set_line w.moment)
  match result with
  | some (.error message) =>
    (none, { w with gpio, error_message := message }.note (.line_set id active false))
  | _ => (some (), { w with gpio, error_message := "" }.note (.line_set id active true))

/-- The destructor of an `OutputLine`. -/
def drop_line (id : ℕ) (w : World S) : World S :=
  { w with gpio := w.gpio.destroy (.object id) }.note (.line_dropped id)

/-! ## The bus -/

/-- The rail as it was last switched. -/
inductive Rail
  | off
  | on
  /-- Switching it on failed. -/
  | failed
  deriving DecidableEq

/-- What a worker has: the rail, an open device and lines. -/
structure Bus where
  rail : Rail := .off
  device : Option ℕ := none
  lines : List ℕ := []
  deriving DecidableEq

/-- The rail is switched on first and off last, and in between a device is used only while it is
open, and a line only while it is there. -/
def Bus.next (s : Bus) : Obs S → Option Bus
  | .power true ok => if s = {} then some { rail := if ok then .on else .failed } else none
  | .power false _ => if s.rail ≠ .off ∧ s.device = none ∧ s.lines = [] then some {} else none
  | .opened _ fd => if s.rail = .on ∧ s.device = none then some { s with device := fd } else none
  | .ioctl fd _ _ | .mode_read fd _ | .exchanged fd _ _ =>
    if s.device = some fd then some s else none
  | .closed fd => if s.device = some fd then some { s with device := none } else none
  | .line_made id =>
    if s.rail = .on ∧ id ∉ s.lines then some { s with lines := id :: s.lines } else none
  | .line_set id _ _ => if id ∈ s.lines then some s else none
  | .line_dropped id =>
    if id ∈ s.lines ∧ s.device = none then some { s with lines := s.lines.filter (· ≠ id) }
    else none
  | .looked _ | .published _ => some s

def bus (S : Type) : Monitor Bus (Obs S) := ⟨{}, Bus.next⟩

/-- The bus is in this state, and its lines are the ones that are there. -/
structure On (s : Bus) (w : World S) : Prop where
  history : (bus S).At s w.history
  agrees : w.gpio.Agrees
  lines : ∀ id, id ∈ s.lines ↔ (w.gpio.lines (.object id)).isSome = true

section

variable {s : Bus} {w : World S}

theorem triple_error_message {P E : World S → Prop} :
    Program.Triple P error_message (fun _ => P) E := fun _ h => h

/-- The message is the answer. -/
theorem triple_return_error {P E : World S → Prop} (f : String → α) :
    Program.Triple P (do return f (← error_message)) (fun _ => P) E :=
  triple_error_message.bind fun _ => Program.triple_pure fun _ h => h

theorem On.same (h : On s w) {w' : World S} (hhistory : w'.history = w.history)
    (hgpio : w'.gpio = w.gpio) : On s w' :=
  ⟨hhistory ▸ h.history, hgpio ▸ h.agrees, hgpio ▸ h.lines⟩

/-- An action that changes no line. -/
theorem On.next (h : On s w) {w' : World S} {o : Obs S} {s' : Bus}
    (hhistory : w'.history = w.history ++ [o]) (hgpio : w'.gpio = w.gpio)
    (hlines : s'.lines = s.lines) (ho : s.next o = some s') : On s' w' :=
  ⟨hhistory ▸ h.history.concat ho, hgpio ▸ h.agrees, fun id => hlines ▸ hgpio ▸ h.lines id⟩

/-- A line has changed, or has come or gone. -/
theorem On.put (h : On s w) {w' : World S} {o : Obs S} {s' : Bus} (id : ℕ)
    (hhistory : w'.history = w.history ++ [o]) (hagrees : w'.gpio.Agrees)
    (hid : id ∈ s'.lines ↔ (w'.gpio.lines (.object id)).isSome = true)
    (hothers : ∀ other, other ≠ id → (other ∈ s'.lines ↔ other ∈ s.lines) ∧
      w'.gpio.lines (.object other) = w.gpio.lines (.object other))
    (ho : s.next o = some s') : On s' w' := by
  refine ⟨hhistory ▸ h.history.concat ho, hagrees, fun other => ?_⟩
  by_cases hother : other = id
  · exact hother ▸ hid
  · obtain ⟨hmem, hline⟩ := hothers other hother
    rw [hmem, h.lines other, hline]

theorem canceled_on (s : Bus) : Program.Triple (On (S := S) s) canceled (fun _ => On s)
    fun _ => False := by
  intro w hw
  exact hw.next rfl rfl rfl rfl

theorem publish_on (s : Bus) (update : S → S) :
    Program.Triple (On s) (publish_ update) (fun _ => On s) fun _ => False := by
  intro w hw
  exact hw.next rfl rfl rfl rfl

theorem fail_on (s : Bus) (message : String) {Q : α → World S → Prop} :
    Program.Triple (On s) (fail message) Q (On s) :=
  fun _ hw => hw.same rfl rfl

theorem ioctl_on {fd : ℕ} (hfd : s.device = some fd) (request : Request) :
    Program.Triple (On (S := S) s) (ioctl fd request) (fun _ => On s) fun _ => False := by
  intro w hw
  exact hw.next rfl rfl rfl (if_pos hfd)

theorem configure_on {fd : ℕ} (hfd : s.device = some fd) (path : String)
    (requests : List Request) :
    Program.Triple (On (S := S) s) (configure path fd requests) (fun _ => On s) (On s) := by
  induction requests with
  | nil => exact Program.triple_pure fun _ h => h
  | cons request requests ih =>
    refine ((ioctl_on hfd request).escape fun _ => False.elim).bind fun answer => ?_
    exact Program.triple_ite (fun _ => ih) fun _ => fail_on s _

theorem check_mode_on {fd : ℕ} (hfd : s.device = some fd) (config : DeviceConfig) :
    Program.Triple (On (S := S) s) (check_mode config fd) (fun _ => On s) (On s) := by
  intro w hw
  unfold check_mode
  dsimp only
  split_ifs with hrefused
  · exact hw.next rfl rfl rfl (if_pos hfd)
  · exact hw.next rfl rfl rfl (if_pos hfd)

theorem set_up_on {fd : ℕ} (hfd : s.device = some fd) (config : DeviceConfig) :
    Program.Triple (On (S := S) s) (set_up config fd) (fun _ => On s) (On s) :=
  (configure_on hfd config.path _).bind fun _ => check_mode_on hfd config

theorem destroy_device (h : On s w) {device : Device} (hfd : s.device = some device.fd) :
    On { s with device := none } (device.destroy w) :=
  h.next rfl rfl rfl (if_pos hfd)

/-- A device that could not be set up is closed. -/
theorem open_device_on (lines : List ℕ) (config : DeviceConfig) :
    Program.Triple (On (S := S) ⟨.on, none, lines⟩) (Device.open_device config)
      (fun device => On ⟨.on, some device.fd, lines⟩) (On ⟨.on, none, lines⟩) := by
  refine Program.triple_ite (fun _ => fail_on _ _) fun _ => ?_
  have hopen : Program.Triple (On (S := S) ⟨.on, none, lines⟩) (open_path config.path)
      (fun fd => On ⟨.on, some fd, lines⟩) (On ⟨.on, none, lines⟩) := by
    intro w hw
    unfold open_path
    cases w.surroundings.open_path w.moment with
    | ok fd => exact hw.next rfl rfl rfl (by simp [Bus.next])
    | error errno => exact hw.next rfl rfl rfl (by simp [Bus.next])
  refine hopen.bind fun fd => ?_
  refine Program.Triple.bind (Program.Triple.otherwise (set_up_on rfl config) ?_)
    fun _ => Program.triple_pure fun _ h => h
  intro w hw
  exact hw.next rfl rfl rfl (if_pos rfl)

theorem transfer_on {device : Device} (hfd : s.device = some device.fd) (tx : List UInt8) :
    Program.Triple (On (S := S) s) (device.transfer tx) (fun _ => On s) (On s) := by
  intro w hw
  unfold Device.transfer
  by_cases htx : tx = []
  · rw [if_pos htx]
    exact hw.same rfl rfl
  · rw [if_neg htx]
    by_cases hok : (w.surroundings.ioctl w.moment).ok
    · simp only [hok, if_true]
      exact hw.next rfl rfl rfl (if_pos hfd)
    · simp only [hok]
      exact hw.next rfl rfl rfl (if_pos hfd)

theorem object_ne {id other : ℕ} (h : other ≠ id) : Gpio.Holder.object other ≠ .object id := by
  intro heq
  injection heq with hid
  exact h hid

theorem make_line_on {id : ℕ} {lines : List ℕ} (hid : id ∉ lines)
    (config : Gpio.OutputLineConfig) :
    Program.Triple (On (S := S) ⟨.on, none, lines⟩) (make_line id config)
      (fun _ => On ⟨.on, none, id :: lines⟩) fun _ => False := by
  intro w hw
  have hnone : w.gpio.lines (.object id) = none := by
    cases hline : w.gpio.lines (.object id) with
    | none => rfl
    | some line => exact absurd ((hw.lines id).2 (by rw [hline]; rfl)) hid
  have hkept : Gpio.Kept (.object id) (some { config := config }) w.gpio.log :=
    .inl ⟨rfl, rfl, hw.agrees.held_eq_nil hnone⟩
  refine hw.put id rfl (hw.agrees.put (.refl hw.agrees.sound) hkept) ?_
    (fun other hother => ?_) (if_pos ⟨rfl, hid⟩)
  · simp [World.note]
  · exact ⟨by simp [hother], Gpio.World.put_lines_other _ (object_ne hother) _ _⟩

/-- A line that is there is set, or there is a message. -/
theorem set_line_on {id : ℕ} (hid : id ∈ s.lines) (active : Bool) :
    Program.Triple (On (S := S) s) (set_line id active) (fun _ => On s) (On s) := by
  intro w hw
  obtain ⟨line, hline⟩ := Option.isSome_iff_exists.1 ((hw.lines id).1 hid)
  obtain ⟨result, line', log, hset, -, hagrees⟩ := Gpio.put_set_value hw.agrees
    (hw.agrees.holds hline) active (w.surroundings.set_line w.moment)
  have hmodify : w.gpio.modify id (fun line => line.set_value (.object id) active
      (w.surroundings.set_line w.moment)) =
      (some result, w.gpio.put (.object id) (some line') log) := by
    unfold Gpio.World.modify
    rw [hline]
    dsimp only
    rw [hset]
  have hend : ∀ message ok, On s ({ w with
      gpio := w.gpio.put (.object id) (some line') log
      error_message := message }.note (.line_set id active ok)) := fun message ok =>
    hw.put id rfl hagrees (by simp [hid, World.note])
      (fun other hother => ⟨Iff.rfl, Gpio.World.put_lines_other _ (object_ne hother) _ _⟩)
      (if_pos hid)
  unfold set_line
  rw [hmodify]
  cases result with
  | error message => exact hend message false
  | ok _ => exact hend "" true

theorem drop_line_on {id : ℕ} (h : On s w) (hid : id ∈ s.lines) (hdevice : s.device = none) :
    On { s with lines := s.lines.filter (· ≠ id) } (drop_line id w) := by
  obtain ⟨line, hline⟩ := Option.isSome_iff_exists.1 ((h.lines id).1 hid)
  have hdestroy : w.gpio.destroy (.object id) =
      w.gpio.put (.object id) none (line.release_locked w.gpio.log).2 := by
    unfold Gpio.World.destroy
    rw [hline]
  refine h.put id rfl (h.agrees.destroy (.object id)).1 ?_ (fun other hother => ?_)
    (if_pos ⟨hid, hdevice⟩)
  · simp [drop_line, World.note, hdestroy]
  · refine ⟨by simp [hother], ?_⟩
    show (w.gpio.destroy (.object id)).lines (.object other) = _
    rw [hdestroy]
    exact Gpio.World.put_lines_other _ (object_ne hother) _ _

theorem power_cleanup_on {rail : Rail} (hrail : rail ≠ .off) (h : On ⟨rail, none, []⟩ w) :
    On {} (power_cleanup w) := by
  unfold power_cleanup write_ext_5v
  cases Gpio.write_sysfs_binary_value K_EXT_5V_PATH false
    (w.surroundings.write_binary w.moment) with
  | ok _ => exact h.next rfl rfl rfl (if_pos ⟨hrail, rfl, rfl⟩)
  | error message => exact h.next rfl rfl rfl (if_pos ⟨hrail, rfl, rfl⟩)

/-- The rail is off again, also if it could not be switched on. -/
theorem with_ext_5v_on {rest : Run S Unit} (without_power : String → S → S)
    (hrest : Program.Triple (On ⟨.on, none, []⟩) rest (fun _ => On ⟨.on, none, []⟩)
      fun _ => False) :
    Program.Triple (On {}) (with_ext_5v without_power rest) (fun _ => On {}) fun _ => False := by
  have henable : Program.Triple (On (S := S) {}) (write_ext_5v true)
      (fun _ => On ⟨.on, none, []⟩) (On ⟨.failed, none, []⟩) := by
    intro w hw
    unfold write_ext_5v
    cases Gpio.write_sysfs_binary_value K_EXT_5V_PATH true
      (w.surroundings.write_binary w.moment) with
    | ok _ => exact hw.next (o := .power true true) rfl rfl rfl rfl
    | error message => exact hw.next (o := .power true false) rfl rfl rfl rfl
  refine henable.attempt.bind fun answer => ?_
  cases answer with
  | none =>
    refine triple_error_message.bind fun power_error => ?_
    refine Program.Triple.bind (Q := fun _ => On {}) ?_ fun _ => publish_on _ _
    exact fun w hw => power_cleanup_on Rail.noConfusion hw
  | some _ =>
    exact hrest.scope (fun _ _ hw => power_cleanup_on Rail.noConfusion hw) fun _ h => False.elim h

theorem on_start (surroundings : Surroundings) (snapshot : S) :
    On {} { surroundings, snapshot : World S } :=
  ⟨Monitor.at_nil, Gpio.World.agrees_empty, fun id => by simp⟩

/-- If every test leads a monitor back to its first state, then so do any that follow each other. -/
theorem sessions_at {σ : Type} {M : Monitor σ (Obs S)} {test : Surroundings → S → World S}
    (htest : ∀ surroundings snapshot, M.At M.init (test surroundings snapshot).history)
    (snapshot : S) (tests : List Surroundings) : M.At M.init (sessions test snapshot tests).1 := by
  induction tests generalizing snapshot with
  | nil => exact Monitor.at_nil
  | cons surroundings later ih => exact (htest surroundings snapshot).append (ih _)

end

/-! ## What every action keeps -/

/-- What an action changes besides the lines and the message. -/
structure Acts (w w' : World S) (o : Obs S) : Prop where
  surroundings : w'.surroundings = w.surroundings
  moment : w'.moment = w.moment + 1
  history : w'.history = w.history ++ [o]
  snapshot : w'.snapshot = o.snapshot.getD w.snapshot
  flag : ∀ canceled, o.flag = some canceled →
    canceled = w.surroundings.canceled_from.any (· ≤ w.moment)

/-- A property that actions of a kind keep, and that does not depend on the lines and the
message. -/
structure Invariant (p : Obs S → Prop) (P : World S → Prop) : Prop where
  acts : ∀ w w' o, P w → Acts w w' o → p o → P w'
  same : ∀ w w', P w → w'.surroundings = w.surroundings → w'.moment = w.moment →
    w'.history = w.history → w'.snapshot = w.snapshot → P w'

section

variable {p : Obs S → Prop} {P : World S → Prop} (hP : Invariant p P)

include hP

theorem Invariant.note {w w' : World S} (hw : P w) {o : Obs S} (ho : p o) (hflag : o.flag = none)
    (hsurroundings : w'.surroundings = w.surroundings) (hmoment : w'.moment = w.moment + 1)
    (hhistory : w'.history = w.history ++ [o])
    (hsnapshot : w'.snapshot = o.snapshot.getD w.snapshot) : P w' :=
  hP.acts w w' o hw
    ⟨hsurroundings, hmoment, hhistory, hsnapshot, fun _ heq => nomatch hflag.symm.trans heq⟩ ho

theorem fail_keeps (message : String) : Program.Keeps P (fail message : Run S α) :=
  fun _ hw => hP.same _ _ hw rfl rfl rfl rfl

theorem canceled_keeps (hp : ∀ canceled, p (.looked canceled)) : Program.Keeps P canceled :=
  fun w hw => hP.acts w _ _ hw ⟨rfl, rfl, rfl, rfl, fun _ heq => (Option.some.inj heq).symm⟩ (hp _)

theorem publish_keeps {update : S → S} (hp : ∀ w, P w → p (.published (update w.snapshot))) :
    Program.Keeps P (publish_ update) :=
  fun w hw => hP.note hw (hp w hw) rfl rfl rfl rfl rfl

theorem power_cleanup_keeps (hp : ∀ ok, p (.power false ok)) {w : World S} (hw : P w) :
    P (power_cleanup w) := by
  unfold power_cleanup write_ext_5v
  cases Gpio.write_sysfs_binary_value K_EXT_5V_PATH false
    (w.surroundings.write_binary w.moment) with
  | ok _ => exact hP.note hw (hp true) rfl rfl rfl rfl rfl
  | error message => exact hP.note hw (hp false) rfl rfl rfl rfl rfl

theorem with_ext_5v_keeps (hpower : ∀ active ok, p (.power active ok))
    {without_power : String → S → S}
    (hpublished : ∀ message w, P w → p (.published (without_power message w.snapshot)))
    {rest : Run S Unit} (hrest : Program.Keeps P rest) :
    Program.Keeps P (with_ext_5v without_power rest) := by
  have henable : Program.Keeps P (write_ext_5v (S := S) true) := by
    intro w hw
    unfold write_ext_5v
    cases Gpio.write_sysfs_binary_value K_EXT_5V_PATH true
      (w.surroundings.write_binary w.moment) with
    | ok _ => exact hP.note hw (hpower true true) rfl rfl rfl rfl rfl
    | error message => exact hP.note hw (hpower true false) rfl rfl rfl rfl rfl
  have hcleanup : ∀ w, P w → P (power_cleanup w) :=
    fun w hw => power_cleanup_keeps hP (hpower false) hw
  refine (Program.triple_attempt_same henable).bind fun answer => ?_
  cases answer with
  | none =>
    refine triple_error_message.bind fun power_error => ?_
    exact Program.Triple.bind (Q := fun _ => P) hcleanup
      fun _ => publish_keeps hP (hpublished power_error)
  | some _ => exact hrest.scope (fun _ w hw => hcleanup w hw) hcleanup

theorem destroy_keeps (hp : ∀ fd, p (.closed fd)) {w : World S} (hw : P w) (device : Device) :
    P (device.destroy w) := hP.note hw (hp _) rfl rfl rfl rfl rfl

theorem make_line_keeps (hp : ∀ id, p (.line_made id)) (id : ℕ) (config : Gpio.OutputLineConfig) :
    Program.Keeps P (make_line id config) :=
  fun _ hw => hP.note hw (hp _) rfl rfl rfl rfl rfl

theorem drop_line_keeps (hp : ∀ id, p (.line_dropped id)) {w : World S} (hw : P w) (id : ℕ) :
    P (drop_line id w) := hP.note hw (hp _) rfl rfl rfl rfl rfl

theorem set_line_keeps (hp : ∀ id active ok, p (.line_set id active ok)) (id : ℕ) (active : Bool) :
    Program.Keeps P (set_line id active) := by
  intro w hw
  unfold set_line
  generalize w.gpio.modify id _ = answer
  obtain ⟨result, gpio⟩ := answer
  rcases result with _ | (message | _) <;>
    exact hP.note hw (hp id active _) rfl rfl rfl rfl rfl

theorem transfer_keeps (hp : ∀ o : Obs S, o.Sends → p o) (device : Device) (tx : List UInt8) :
    Program.Keeps P (device.transfer tx) := by
  intro w hw
  unfold Device.transfer
  by_cases htx : tx = []
  · rw [if_pos htx]
    exact hP.same _ _ hw rfl rfl rfl rfl
  · rw [if_neg htx]
    by_cases hok : (w.surroundings.ioctl w.moment).ok
    · simp only [hok, if_true]
      exact hP.note hw (hp (.exchanged _ _ _) trivial) rfl rfl rfl rfl rfl
    · simp only [hok]
      exact hP.note hw (hp (.ioctl _ (.SPI_IOC_MESSAGE _) _) trivial) rfl rfl rfl rfl rfl

theorem configure_keeps (path : String) (fd : ℕ) {requests : List Request}
    (hp : ∀ request ∈ requests, ∀ ok, p (.ioctl fd request ok)) :
    Program.Keeps P (configure path fd requests) := by
  induction requests with
  | nil => exact Program.triple_pure fun _ hw => hw
  | cons request requests ih =>
    obtain ⟨hrequest, hrest⟩ := List.forall_mem_cons.1 hp
    have hioctl : Program.Keeps P (ioctl fd request) :=
      fun w hw => hP.note hw (hrequest _) rfl rfl rfl rfl rfl
    exact hioctl.bind fun answer => Program.triple_ite (fun _ => ih hrest) fun _ => fail_keeps hP _

theorem set_up_keeps (hp : ∀ o : Obs S, o.Opens → p o) (config : DeviceConfig) (fd : ℕ) :
    Program.Keeps P (set_up config fd) := by
  refine (configure_keeps hP config.path fd fun request hmem ok => hp _ ?_).bind fun _ => ?_
  · simp only [List.mem_cons, List.not_mem_nil, or_false] at hmem
    rcases hmem with rfl | rfl | rfl | rfl <;> trivial
  · intro w hw
    unfold check_mode
    dsimp only
    split_ifs with hrefused
    · exact hP.note hw (hp (.mode_read fd false) trivial) rfl rfl rfl rfl rfl
    · exact hP.note hw (hp (.mode_read fd true) trivial) rfl rfl rfl rfl rfl

theorem open_device_keeps (hp : ∀ o : Obs S, o.Opens → p o) (config : DeviceConfig) :
    Program.Keeps P (Device.open_device config) := by
  refine Program.triple_ite (fun _ => fail_keeps hP _) fun _ => ?_
  have hopen : Program.Keeps P (open_path config.path) := by
    intro w hw
    unfold open_path
    cases w.surroundings.open_path w.moment with
    | ok fd => exact hP.note hw (hp (.opened _ _) trivial) rfl rfl rfl rfl rfl
    | error errno =>
      exact hP.note hw (hp (.opened config.path none) trivial) rfl rfl rfl rfl rfl
  refine hopen.bind fun fd => ?_
  refine Program.Triple.bind ((set_up_keeps hP hp config fd).otherwise ?_)
    fun _ => Program.triple_pure fun _ hw => hw
  exact fun w hw => hP.note hw (hp (.closed fd) trivial) rfl rfl rfl rfl rfl

end

/-! ## What the bus says -/

def Obs.IsPower (o : Obs S) : Prop := ∃ active ok, o = .power active ok

def Obs.Uses (fd : ℕ) (o : Obs S) : Prop :=
  (∃ request ok, o = .ioctl fd request ok) ∨ ∃ tx rx, o = .exchanged fd tx rx

/-- The rail was switched on, and not switched since. -/
def Powered (h : List (Obs S)) : Prop := Monitor.Since (· = .power true true) Obs.IsPower h

/-- The device was opened, and not closed since. -/
def Opened (fd : ℕ) (h : List (Obs S)) : Prop :=
  Monitor.Since (∃ path, · = .opened path (some fd)) (· = .closed fd) h

/-- What the state of the bus remembers. -/
structure Bus.Tells (s : Bus) (h : List (Obs S)) : Prop where
  powered : s.rail = .on → Powered h
  opened : ∀ fd, s.device = some fd → s.rail = .on ∧ Opened fd h

/-- An entry of another kind, after which rail and device are what they were. -/
theorem Bus.Tells.keep {s s' : Bus} {h : List (Obs S)} {o : Obs S} (htells : s.Tells h)
    (hrail : s'.rail = s.rail) (hdevice : s'.device = s.device) (hpower : ¬ o.IsPower)
    (hclosed : ∀ fd, o ≠ .closed fd) : s'.Tells (h ++ [o]) := by
  refine ⟨fun hon => (htells.powered (hrail ▸ hon)).concat hpower, fun fd hfd => ?_⟩
  obtain ⟨hon, hopened⟩ := htells.opened fd (hdevice ▸ hfd)
  exact ⟨hrail.trans hon, hopened.concat (hclosed fd)⟩

theorem Bus.Tells.next {s s' : Bus} {h : List (Obs S)} {o : Obs S} (htells : s.Tells h)
    (ho : s.next o = some s') : s'.Tells (h ++ [o]) := by
  have hother : (∀ active ok, o ≠ .power active ok) → ¬ o.IsPower := by
    rintro hne ⟨active, ok, heq⟩
    exact hne active ok heq
  cases o with
  | power active ok =>
    cases active with
    | false =>
      obtain ⟨-, heq⟩ := Option.ite_none_right_eq_some.1 ho
      cases Option.some.inj heq
      exact ⟨fun h => (nomatch h), fun _ h => (nomatch h)⟩
    | true =>
      obtain ⟨-, heq⟩ := Option.ite_none_right_eq_some.1 ho
      cases Option.some.inj heq
      refine ⟨fun hon => ?_, fun _ h => nomatch h⟩
      cases ok with
      | false => cases hon
      | true => exact Monitor.since_concat rfl
  | opened path fd =>
    obtain ⟨⟨hon, -⟩, heq⟩ := Option.ite_none_right_eq_some.1 ho
    cases Option.some.inj heq
    refine ⟨fun hon => (htells.powered hon).concat (hother fun _ _ h => nomatch h), ?_⟩
    rintro fd' rfl
    exact ⟨hon, Monitor.since_concat ⟨path, rfl⟩⟩
  | closed fd =>
    obtain ⟨-, heq⟩ := Option.ite_none_right_eq_some.1 ho
    cases Option.some.inj heq
    exact ⟨fun hon => (htells.powered hon).concat (hother fun _ _ h => nomatch h),
      fun _ h => nomatch h⟩
  | line_made id =>
    obtain ⟨-, heq⟩ := Option.ite_none_right_eq_some.1 ho
    cases Option.some.inj heq
    exact htells.keep rfl rfl (hother fun _ _ h => nomatch h) fun _ h => nomatch h
  | line_dropped id =>
    obtain ⟨-, heq⟩ := Option.ite_none_right_eq_some.1 ho
    cases Option.some.inj heq
    exact htells.keep rfl rfl (hother fun _ _ h => nomatch h) fun _ h => nomatch h
  | ioctl _ _ _ | mode_read _ _ | exchanged _ _ _ | line_set _ _ _ =>
    obtain ⟨-, heq⟩ := Option.ite_none_right_eq_some.1 ho
    cases Option.some.inj heq
    exact htells.keep rfl rfl (hother fun _ _ h => nomatch h) fun _ h => nomatch h
  | looked _ | published _ =>
    cases Option.some.inj ho
    exact htells.keep rfl rfl (hother fun _ _ h => nomatch h) fun _ h => nomatch h

theorem Bus.tells_nil : ({} : Bus).Tells ([] : List (Obs S)) :=
  ⟨fun h => (nomatch h), fun _ h => (nomatch h)⟩

theorem tells_of_at {s : Bus} {h : List (Obs S)} (hs : (bus S).At s h) : s.Tells h :=
  hs.induction Bus.tells_nil fun _ _ _ _ htells ho => htells.next ho

/-- A device is used only while it is open and the rail is on. -/
theorem powered_of_uses {s : Bus} {before after : List (Obs S)} {o : Obs S} {fd : ℕ}
    (hs : (bus S).At s (before ++ o :: after)) (ho : o.Uses fd) :
    Powered before ∧ Opened fd before := by
  obtain ⟨s', s'', hbefore, hnext⟩ := hs.allowed
  have hfd : s'.device = some fd := by
    rcases ho with ⟨request, ok, rfl⟩ | ⟨tx, rx, rfl⟩ <;>
      exact (Option.ite_none_right_eq_some.1 hnext).1
  obtain ⟨hon, hopened⟩ := (tells_of_at hbefore).opened fd hfd
  exact ⟨(tells_of_at hbefore).powered hon, hopened⟩

end FactoryTest.Cap

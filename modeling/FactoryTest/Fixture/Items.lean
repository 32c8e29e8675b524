import FactoryTest.Fixture.World
import Mathlib.Algebra.Group.Nat.Defs

/-!
# The items of the CAP fixture test

The functions `run_power_` to `run_gpio_` of `src/model/cap_fixture_test_model.cpp`, with the
frames of the UART tests. `check` stands for an `if` whose body returns `fail_`.
-/

namespace FactoryTest.Fixture

/-! ## Text of bytes -/

/-- `hex_bytes`. -/
def hex_bytes (data : List UInt8) : String :=
  let digit (n : ℕ) : Char := "0123456789ABCDEF".toList.getD n '0'
  String.intercalate " " (data.map fun byte =>
    String.ofList [digit (byte.toNat / 16), digit (byte.toNat % 16)])

/-! ## UART frames -/

/-- `crc16_modbus`. -/
def crc16_modbus (data : List UInt8) : UInt16 :=
  data.foldl (fun crc byte =>
    (List.range 8).foldl (fun crc _ =>
      if crc &&& 1 ≠ 0 then crc >>> 1 ^^^ 0xa001 else crc >>> 1) (crc ^^^ byte.toUInt16)) 0xffff

/-- The two bytes of a checksum, the low one first. -/
def crc_bytes (crc : UInt16) : List UInt8 := [(crc &&& 0xff).toUInt8, (crc >>> 8 &&& 0xff).toUInt8]

/-- `make_uart_frame`. -/
def make_uart_frame (type : UInt8) (payload : List UInt8) (payload_size : UInt8) : List UInt8 :=
  let frame := [0xa5, 0x5a, type, payload_size] ++ payload
  frame ++ crc_bytes (crc16_modbus frame)

/-- The checksum that a frame of the receiver holds. -/
def received_crc (frame : List UInt8) : UInt16 :=
  (frame.getD 14 0).toUInt16 ||| (frame.getD 15 0).toUInt16 <<< 8

/-- `validate_uart_frame`; with the error if the frame is not the expected one. -/
def validate_uart_frame (frame : List UInt8) (expected_type expected_length : UInt8)
    (expected_payload : List UInt8) : Option String :=
  if frame.getD 0 0 ≠ 0xa5 ∨ frame.getD 1 0 ≠ 0x5a then some "invalid UART frame header"
  else if frame.getD 2 0 ≠ expected_type ∨ frame.getD 3 0 ≠ expected_length then
    some "unexpected UART frame type or payload length"
  else if (frame.drop 4).take 10 ≠ expected_payload then some "UART payload mismatch"
  else if received_crc frame ≠ crc16_modbus (frame.take 14) then some "UART CRC mismatch"
  else none

theorem toNat_low_high (low high : UInt8) :
    (low.toUInt16 ||| high.toUInt16 <<< 8).toNat = high.toNat * 2 ^ 8 + low.toNat := by
  have hlow : low.toNat < 2 ^ 8 := low.toNat_lt
  have hhigh : high.toNat < 2 ^ 8 := high.toNat_lt
  rw [UInt16.toNat_or, UInt16.toNat_shiftLeft, UInt8.toNat_toUInt16, UInt8.toNat_toUInt16,
    show (8 : UInt16).toNat % 16 = 8 from rfl, Nat.mod_eq_of_lt (by rw [Nat.shiftLeft_eq]; omega),
    Nat.or_comm, ← Nat.shiftLeft_add_eq_or_of_lt hlow, Nat.shiftLeft_eq]

theorem toNat_low_byte (crc : UInt16) : (crc &&& 0xff).toUInt8.toNat = crc.toNat % 2 ^ 8 := by
  rw [UInt16.toNat_toUInt8, UInt16.toNat_and]
  show (crc.toNat &&& (2 ^ 8 - 1)) % 2 ^ 8 = _
  rw [Nat.and_two_pow_sub_one_eq_mod, Nat.mod_mod]

theorem toNat_high_byte (crc : UInt16) :
    (crc >>> 8 &&& 0xff).toUInt8.toNat = crc.toNat / 2 ^ 8 := by
  have hcrc : crc.toNat < 2 ^ 16 := crc.toNat_lt
  have hhigh : (crc >>> 8).toNat = crc.toNat / 2 ^ 8 := by
    rw [UInt16.toNat_shiftRight]
    exact Nat.shiftRight_eq_div_pow crc.toNat 8
  rw [toNat_low_byte, hhigh, Nat.mod_eq_of_lt (by omega)]

/-- To compare the words is to compare the bytes. -/
theorem received_crc_eq_iff {frame : List UInt8} (hframe : frame.length = 16) (crc : UInt16) :
    received_crc frame = crc ↔ frame.drop 14 = crc_bytes crc := by
  have htail : frame.drop 14 = [frame.getD 14 0, frame.getD 15 0] := by
    match frame, hframe with
    | [_, _, _, _, _, _, _, _, _, _, _, _, _, _, _, _], _ => rfl
  have hlow : (frame.getD 14 0).toNat < 2 ^ 8 := (frame.getD 14 0).toNat_lt
  rw [htail, received_crc, crc_bytes, List.cons.injEq, List.cons.injEq, ← UInt16.toNat_inj,
    ← UInt8.toNat_inj, ← UInt8.toNat_inj, toNat_low_high, toNat_low_byte, toNat_high_byte]
  simp only [and_true]
  omega

/-- A frame of the right size that is found valid is the expected one, checksum included. -/
theorem eq_of_validate {frame payload : List UInt8} {type size : UInt8}
    (hframe : frame.length = 16)
    (hvalid : validate_uart_frame frame type size payload = none) :
    frame = make_uart_frame type payload size := by
  unfold validate_uart_frame at hvalid
  split_ifs at hvalid with hheader htype hbytes hsum
  rw [not_not, received_crc_eq_iff hframe] at hsum
  match frame, hframe with
  | a :: b :: t :: n :: rest, _ =>
    simp only [List.getD_cons_zero, List.getD_cons_succ, List.drop_succ_cons, List.drop_zero,
      List.take_succ_cons, not_or, not_not] at hheader htype hbytes hsum
    obtain ⟨rfl, rfl⟩ := hheader
    obtain ⟨rfl, rfl⟩ := htype
    rw [hbytes] at hsum
    have hsplit : rest = payload ++ rest.drop 10 := by
      rw [← hbytes]
      exact (List.take_append_drop 10 rest).symm
    rw [hsplit, hsum]
    rfl

/-- Where the header of a frame begins. -/
def find_header : List UInt8 → Option ℕ
  | 0xa5 :: 0x5a :: _ => some 0
  | _ :: rest => (find_header rest).map (· + 1)
  | [] => none

/-- `read_uart_frame`; the bytes received so far are carried from round to round, as far as they
are kept. -/
def read_uart_frame (timeout : ℕ) : Run (Except String (List UInt8)) := do
  let read ← until_deadline timeout (fun (received : List UInt8) => do
    if ← canceled then return .inr (.error "UART receive canceled")
    let chunk ← call .uart_read_available
    if chunk.error ≠ "" then return .inr (.error chunk.error)
    let received := received ++ chunk.bytes
    match find_header received with
    | some header =>
      if 16 ≤ received.length - header then
        let frame := (received.drop header).take 16
        note (.frame frame)
        return .inr (.ok frame)
      sleep_for 10
      return .inl received
    | none =>
      -- A header may have been split.
      sleep_for 10
      return .inl (if 1 < received.length then
        received.drop (received.length - 1) else received)) []
  match read with
  | .inr result => return result
  | .inl received =>
    return .error ("UART receive timed out waiting for 16-byte frame (buffered " ++
      toString received.length ++ " byte(s))")

def zeros : List UInt8 := List.replicate 10 0
def hello : List UInt8 := make_uart_frame 0x30 zeros 0
def start_frame : List UInt8 := make_uart_frame 0x32 zeros 0
def tx_payload : List UInt8 := [0, 1, 2, 3, 4, 5, 6, 7, 8, 9]
def rx_payload : List UInt8 := [9, 8, 7, 6, 5, 4, 3, 2, 1, 0]
def data_frame : List UInt8 := make_uart_frame 0x03 tx_payload 10

/-- A frame is validated; the run fails with the prefix and the error if it is not as expected. -/
def expect_frame (stage : String) (before : String) (frame : List UInt8)
    (expected_type expected_length : UInt8) (expected_payload : List UInt8) : Run Unit :=
  match validate_uart_frame frame expected_type expected_length expected_payload with
  | none => pure ()
  | some error => fail_ stage (before ++ error)

/-- `prepare_uart_test_`. -/
def prepare_uart_test_ (stage : String) : Run Unit := do
  assign fun m => { m with uart_session := false }
  let opened ← call .uart_open
  assign fun m => { m with uart_session := opened.ok }
  check opened.ok stage ("open UART failed: " ++ opened.error)
  let discarded ← call .uart_read_available
  check (discarded.error = "") stage
    ("failed to clear UART RX before test command: " ++ discarded.error)
  write_reg_ stage 0x01 [0x03]
  let ready ← until_deadline 1000 (fun _ => do
    let command ← read_reg_ stage 0x01 1
    let status ← read_reg_ stage 0x03 1
    if command = [0x03] ∧ status = [0x01] then
      let post_command ← call .uart_read_available
      check (post_command.error = "") stage
        ("failed to clear UART RX before HELLO: " ++ post_command.error)
      return .inr ()
    delay_ 100 "waiting for CAP UART test command readiness"
    return .inl (command, status)) ([0xff], [0xff])
  match ready with
  | .inr () => return ()
  | .inl (command, status) =>
    fail_ stage ("CAP UART test command did not become ready: reg01=0x" ++ hex_bytes command ++
      " reg03=0x" ++ hex_bytes status)

/-! ## Items -/

/-- `run_power_`. -/
def run_power_ : Run Unit := do
  begin_item_ K_POWER_ITEM "5VIN / 5VOUT"
  let enabled ← call (.set_ext_5v_enabled true)
  check enabled.ok "POWER" ("EXT 5V enable failed: " ++ enabled.error)
  delay_ 150 "EXT 5V rail settle"
  write_reg_ "POWER" 0x01 [0x01]
  delay_ 200 "CAP 5VIN enable settle"
  let charge ← call .read_charge_report
  check charge.ok "POWER" ("power_supply read failed: " ++ charge.error)
  write_reg_ "POWER" 0x0f charge.bytes
  delay_ 100 "CAP charge report processing"
  let low ← read_reg_ "POWER" 0x08 1
  let high ← read_reg_ "POWER" 0x09 1
  let millivolts := (high.getD 0 0).toNat + (low.getD 0 0).toNat * 256
  check (4500 < millivolts) "POWER" ("5VOUT is below threshold: " ++ toString millivolts ++ " mV")
  pass_item_ K_POWER_ITEM (toString millivolts ++ " mV")

/-- `run_i2c_`. -/
def run_i2c_ : Run Unit := do
  begin_item_ K_I2C_ITEM "Register read/write"
  let _ ← read_reg_ "I2C" 0x02 2
  write_reg_ "I2C" 0x02 [0xa5, 0x5a]
  delay_ 20 "I2C test register write settle"
  let readback ← read_reg_ "I2C" 0x02 2
  check (readback = [0xa5, 0x5a]) "I2C" ("register 0x02 mismatch: " ++ hex_bytes readback)
  write_reg_ "I2C" 0x02 [0x0f, 0xf0]
  write_reg_ "I2C" 0x01 [0x02]
  delay_ 100 "CAP I2C command processing"
  Program.otherwise (do
      let i2c_status ← read_reg_ "I2C" 0x03 1
      Program.proceed (i2c_status = [0x02]))
    (fail_ "I2C" "CAP I2C command did not report PASS")
  pass_item_ K_I2C_ITEM "0xA55A verified"

/-- The loop of `run_grove_i2c_` that waits for the HAT channel; whether it became idle. -/
def wait_for_idle (stage : String) (milliseconds : ℕ) (reason : String) : Run Bool := do
  let idle ← until_deadline milliseconds (fun _ => do
    let status ← read_reg_ stage 0x03 1
    if status = [0x00] then return .inr ()
    delay_ 50 reason
    return .inl ()) ()
  return idle.isRight

/-- `run_grove_i2c_`. -/
def run_grove_i2c_ : Run Unit := do
  begin_item_ K_GROVE_I2C_ITEM "Switch and verify Grove I2C"
  let enabled ← call (.set_grove_5v_enabled true)
  Program.otherwise (do
      Program.proceed enabled.ok
      delay_ 300 "Grove 5V power settle")
    (fail_ "GROVE-I2C" ("Grove 5V enable failed: " ++ enabled.error))
  write_reg_ "GROVE-I2C" 0x01 [0x08]
  assign fun m => { m with cap_grove_i2c_active := true }
  delay_ 200 "CAP Grove I2C channel reinitialization"
  let switched ← call (.set_external_bus_i2c_mode true)
  check switched.ok "GROVE-I2C" ("Grove I2C host mux switch failed: " ++ switched.error)
  delay_ 3000 "Grove I2C host bus settle (fixed 500 ms; no status polling)"
  write_reg_ "GROVE-I2C" 0x01 [0x02]
  delay_ 100 "Grove I2C command processing"
  Program.otherwise (do
      let grove_status ← read_reg_ "GROVE-I2C" 0x03 1
      Program.proceed (grove_status = [0x02]))
    (fail_ "GROVE-I2C" "CAP Grove I2C command did not report PASS")
  write_reg_ "GROVE-I2C" 0x01 [0x08]
  delay_ 200 "CAP HAT I2C channel reinitialization"
  delay_ 200 "HAT I2C host bus settle (fixed; no status polling)"
  assign fun m => { m with cap_grove_i2c_active := false }
  let restored ← call (.set_external_bus_i2c_mode false)
  Program.otherwise (do
      Program.proceed restored.ok
      delay_ 150 "keep I2C on HAT after Grove I2C")
    (fail_ "GROVE-I2C" ("failed to restore grove_fun=0 after Grove I2C: " ++ restored.error))
  let idle ← wait_for_idle "GROVE-I2C" 2000 "waiting for CAP HAT I2C channel to return IDLE"
  check idle "GROVE-I2C" "CAP HAT I2C channel switch did not return IDLE"
  pass_item_ K_GROVE_I2C_ITEM "Channel switch + command OK"

/-- The attempts of `run_uart_` to get a READY frame; whether one was received. -/
def uart_hello : ℕ → Run Bool
  | 0 => pure false
  | attempts + 1 => do
    if ← canceled then return false
    let sent ← call (.uart_write_text hello)
    check sent.ok "UART" ("HELLO write failed: " ++ sent.error)
    match ← read_uart_frame 700 with
    | .error _ => uart_hello attempts
    | .ok ready =>
      expect_frame "UART" "invalid READY frame: " ready 0x31 0 zeros
      return true

/-- `run_uart_`. -/
def run_uart_ : Run Unit := do
  begin_item_ K_UART_ITEM "115200 8N1 handshake"
  prepare_uart_test_ "UART"
  let ready_received ← uart_hello 3
  check ready_received "UART" "READY not received after three HELLO attempts"
  let started ← call (.uart_write_text start_frame)
  check started.ok "UART" ("START write failed: " ++ started.error)
  let sent ← call (.uart_write_text data_frame)
  check sent.ok "UART" ("DATA write failed: " ++ sent.error)
  match ← read_uart_frame 3500 with
  | .error error => fail_ "UART" error
  | .ok reply =>
    expect_frame "UART" "" reply 0x03 10 rx_payload
    delay_ 100 "UART-to-I2C traffic guard"
    let _ ← read_reg_ "UART" 0x11 10
    let _ ← read_reg_ "UART" 0x1b 10
    pass_item_ K_UART_ITEM "Handshake + payload OK"

/-- The attempts of `run_grove_uart_` to get a READY frame; a write that fails is tried again. -/
def grove_uart_hello : ℕ → Run Bool
  | 0 => pure false
  | attempts + 1 => do
    if ← canceled then return false
    let sent ← call (.uart_write_text hello)
    if !sent.ok then grove_uart_hello attempts
    else
      match ← read_uart_frame 700 with
      | .error _ => grove_uart_hello attempts
      | .ok ready =>
        expect_frame "GROVE-UART" "" ready 0x31 0 zeros
        return true

/-- `run_grove_uart_`. -/
def run_grove_uart_ : Run Unit := do
  begin_item_ K_GROVE_UART_ITEM "Switch and verify Grove UART"
  let released ← call (.set_external_bus_i2c_mode false)
  check released.ok "GROVE-UART" ("Grove UART host mux pre-switch failed: " ++ released.error)
  delay_ 150 "release Grove I2C host bus"
  write_reg_ "GROVE-UART" 0x01 [0x09]
  assign fun m => { m with cap_grove_uart_active := true }
  delay_ 200 "CAP Grove UART channel reinitialization"
  let idle ← wait_for_idle "GROVE-UART" 200 "waiting for CAP UART channel switch"
  check idle "GROVE-UART" "CAP UART channel switch did not return IDLE"
  delay_ 200 "Grove UART signal path stabilization before protocol traffic"
  prepare_uart_test_ "GROVE-UART"
  let ready ← grove_uart_hello 3
  check ready "GROVE-UART" "Grove UART READY not received"
  let started ← call (.uart_write_text start_frame)
  check started.ok "GROVE-UART" ("Grove UART START write failed: " ++ started.error)
  let sent ← call (.uart_write_text data_frame)
  check sent.ok "GROVE-UART"
    (if sent.error = "" then "Grove UART data exchange failed" else sent.error)
  match ← read_uart_frame 3500 with
  | .error error =>
    fail_ "GROVE-UART" (if error = "" then "Grove UART data exchange failed" else error)
  | .ok reply =>
    expect_frame "GROVE-UART" "" reply 0x03 10 rx_payload
    write_reg_ "GROVE-UART" 0x01 [0x09]
    delay_ 200 "CAP HAT UART channel reinitialization"
    delay_ 200 "HAT UART host bus settle (fixed; no status polling)"
    assign fun m => { m with cap_grove_uart_active := false }
    pass_item_ K_GROVE_UART_ITEM "Handshake + payload OK"

def spi_tx : List UInt8 := [0x00, 0x11, 0x22, 0x33, 0x44, 0x55, 0x66, 0x77, 0x88, 0x99]
def spi_expected : List UInt8 := [0xff, 0xee, 0xdd, 0xcc, 0xbb, 0xaa, 0x99, 0x88, 0x77, 0x66]

/-- `run_spi_`. -/
def run_spi_ : Run Unit := do
  begin_item_ K_SPI_ITEM "/dev/spidev0.1 @ 1 MHz"
  write_reg_ "SPI" 0x01 [0x05]
  delay_ 100 "CAP SPI slave initialization"
  let rx ← call (.spi_transfer spi_tx)
  check rx.ok "SPI" rx.error
  check (rx.bytes = spi_expected) "SPI" ("MISO payload mismatch: " ++ hex_bytes rx.bytes)
  delay_ 50 "CAP SPI result commit"
  let _ ← read_reg_ "SPI" 0x25 10
  let _ ← read_reg_ "SPI" 0x2f 10
  pass_item_ K_SPI_ITEM "10-byte transfer OK"

/-- The USB device is waited for; if it does not come, the hub is reset and it is waited for
again. -/
def enumerate_usb : Run Unit := do
  let found ← call .wait_for_usb_device
  if found.ok then return ()
  if ← canceled then fail_ "USB" found.error
  else
    let reset ← call .reset_usb_hub
    check reset.ok "USB" ("USB hub reset failed: " ++ reset.error)
    delay_ 500 "USB hub reinitialization after recovery reset"
    let found ← call .wait_for_usb_device
    check found.ok "USB" found.error

/-- `receive_usb_hid_text` with its `ready_action`, and the failure if it fails. -/
def receive_hid_text : Run Unit := do
  let opened ← call .open_usb_hid
  check opened.ok "USB" opened.error
  let ready ← call (.write_register 0x10 [0x03])
  check ready.ok "USB" (if ready.error = "" then "USB HID ready action failed" else ready.error)
  let received ← call (.receive_usb_hid_text "HDR-14P")
  check received.ok "USB" received.error

/-- `run_usb_`. -/
def run_usb_ : Run Unit := do
  begin_item_ K_USB_ITEM "Waiting for fixture USB"
  match ← select_host_pin_function_ true with
  | some error => fail_ "USB" ("USB function switch failed: " ++ error)
  | none =>
    delay_ 500 "host USB D+/D- function settle"
    write_reg_ "USB" 0x10 [0x01]
    write_reg_ "USB" 0x01 [0x04]
    delay_ 500 "CAP USB switch and composite enumeration start"
    enumerate_usb
    receive_hid_text
    write_reg_ "USB" 0x10 [0x07]
    delay_ 200 "CAP original USB channel restore"
    let gone ← call .wait_for_usb_disconnect
    check gone.ok "USB" gone.error
    write_reg_ "USB" 0x10 [0x0f]
    delay_ 300 "CAP USB completion processing"
    pass_item_ K_USB_ITEM "HID HDR-14P received"

/-- The samples of `run_gpio_` that are left to take; the levels are those of the last one. -/
def gpio_samples : ℕ → List UInt8 → Run (List UInt8)
  | 0, levels => pure levels
  | samples + 1, _ => do
    let high ← call (.set_gpio_test_outputs true)
    check high.ok "GPIO" ("GPIO HIGH reassert before sample failed: " ++ high.error)
    let sample ← read_reg_ "GPIO" 0x07 1
    if samples ≠ 0 then hold_gpio_outputs_high_ "GPIO" 100
    gpio_samples samples sample

/-- `run_gpio_`. -/
def run_gpio_ : Run Unit := do
  begin_item_ K_GPIO_ITEM "GPIO26/23/22 high"
  match ← select_host_pin_function_ false with
  | some error => fail_ "GPIO" ("GPIO function switch failed: " ++ error)
  | none =>
    delay_ 1000 "USB-to-GPIO pin function settle"
    let high ← call (.set_gpio_test_outputs true)
    check high.ok "GPIO" ("GPIO output setup failed: " ++ high.error)
    hold_gpio_outputs_high_ "GPIO" 500
    write_reg_ "GPIO" 0x01 [0x06]
    hold_gpio_outputs_high_ "GPIO" 250
    let host ← call .read_gpio_test_output_levels
    check host.ok "GPIO" ("host GPIO output readback failed: " ++ host.error)
    check (host.bytes.getD 0 0 &&& 0x07 = 0x07) "GPIO"
      ("host GPIO output bitmap mismatch: 0x" ++ hex_bytes host.bytes)
    let sampled ← Program.attempt (gpio_samples 5 [0])
    -- The lines are released whether the samples could be taken or not.
    let stop ← call (.write_register 0x01 [0x00])
    let inputs ← call .set_gpio_test_inputs
    assign fun m => { m with gpio_test_lines_released := inputs.ok }
    match sampled with
    | none => Program.giveUp
    | some levels =>
      check (levels.getD 0 0 &&& 0x07 = 0x07 ∧ levels.getD 0 0 &&& 0xf8 = 0) "GPIO"
        ("GPIO bitmap mismatch: 0x" ++ hex_bytes levels)
      check stop.ok "GPIO" ("GPIO STOP command failed: " ++ stop.error)
      check inputs.ok "GPIO" ("GPIO final input/high-Z setup failed: " ++ inputs.error)
      pass_item_ K_GPIO_ITEM "Bitmap 0x07"

end FactoryTest.Fixture

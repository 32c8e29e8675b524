import FactoryTest.Fixture.Items

/-!
# A run of the CAP fixture test

`start`, `run_` and `cleanup_` of `src/model/cap_fixture_test_model.cpp`. `run_` has two parts
before the final cleanup: the stages PREPARE and RESET (`setup`), each exit of which goes through
`cleanup_` and returns, and the items with the delays between them (`sequence`).
-/

namespace FactoryTest.Fixture

/-! ## PREPARE and RESET -/

/-- The attempts to send the software reset that are left; the error of the last one if none was
accepted. -/
def send_reset : ℕ → String → Run (Option String)
  | 0, reset_error => pure (some reset_error)
  | attempts + 1, reset_error => do
    if ← canceled then return some reset_error
    let written ← call (.write_register 0x01 [0x07])
    if written.ok then return none
    if attempts = 0 then return some written.error
    match ← Program.attempt (delay_ 200 "retry software reset I2C write") with
    | none => return some written.error
    | some () => send_reset attempts written.error

/-- `run_` before the first item. -/
def setup : Run Unit := do
  let kept ← call (.set_external_bus_i2c_mode false)
  check kept.ok "PREPARE" ("failed to keep I2C on HAT: " ++ kept.error)
  let enabled ← call (.set_ext_5v_enabled true)
  check enabled.ok "PREPARE" ("failed to enable EXT 5V before reset: " ++ enabled.error)
  delay_ 300 "EXT 5V power-on and CAP I2C readiness before reset"
  match ← send_reset 5 "" with
  | some reset_error =>
    if ← canceled then Program.giveUp
    else fail_ "RESET" ("I2C software reset failed after 5 attempts: " ++ reset_error)
  | none => delay_ 2000 "CAP fixture software restart"

/-! ## The items -/

/-- The chain of items in `run_`. -/
def sequence : Run Unit := do
  run_power_
  delay_ 1000 "Power -> I2C guard"
  run_i2c_
  delay_ 1000 "I2C -> Grove I2C guard"
  run_grove_i2c_
  delay_ 1500 "Grove I2C -> UART guard"
  run_uart_
  delay_ 1000 "UART -> Grove UART guard"
  run_grove_uart_
  delay_ 1000 "Grove UART -> SPI guard"
  run_spi_
  delay_ 1000 "SPI -> USB guard"
  run_usb_
  delay_ 1000 "USB -> GPIO guard"
  run_gpio_

/-- `run_` up to a call of `cleanup_`: whether all items passed, if it got as far as the items. -/
def test : Run (Option Bool) := do
  match ← Program.attempt setup with
  | none => return none
  | some () => return some (← Program.attempt sequence).isSome

/-! ## Cleanup -/

/-- The Grove I2C channel of the CAP can only be reached through the Grove host bus. -/
def select_grove_bus : Run Unit := do
  if (← members).cap_grove_i2c_active then
    let selected ← call (.set_external_bus_i2c_mode true)
    if selected.ok then
      let _ ← Program.attempt
        (delay_ 3000 "Grove I2C recovery host bus settle (fixed 3000 ms; no status polling)")

/-- A channel is toggled once more; the delays after it may be interrupted. -/
def retry_toggle (command : UInt8) (recovery settle : String) : Run Unit := do
  let written ← call (.write_register 0x01 [command])
  if written.ok then
    let _ ← Program.attempt (delay_ 200 recovery)
    let _ ← Program.attempt (delay_ 200 settle)

def recover_i2c_channel : Run Unit := do
  if (← members).cap_grove_i2c_active then
    retry_toggle 0x08 "CAP I2C channel recovery"
      "CAP I2C recovery settle (fixed; no status polling)"
    assign fun m => { m with cap_grove_i2c_active := false }

def recover_uart_channel : Run Unit := do
  if (← members).cap_grove_uart_active then
    retry_toggle 0x09 "CAP UART channel recovery"
      "CAP UART recovery settle (fixed; no status polling)"
    assign fun m => { m with cap_grove_uart_active := false }

def keep_gpio_function : Run Unit := do
  if (← select_host_pin_function_ false).isNone then sleep_for 150

def release_gpio_lines : Run Unit := do
  if !(← members).gpio_test_lines_released then
    let inputs ← call .set_gpio_test_inputs
    if inputs.ok then assign fun m => { m with gpio_test_lines_released := true }

/-- `cleanup_`. -/
def cleanup_ : Run Unit := do
  select_grove_bus
  recover_i2c_channel
  let _ ← call (.set_external_bus_i2c_mode false)
  recover_uart_channel
  let _ ← call (.write_register 0x01 [0x00])
  keep_gpio_function
  release_gpio_lines
  let _ ← call (.set_ext_5v_enabled false)
  let _ ← call (.set_grove_5v_enabled false)
  assign fun m => { m with uart_session := false }

/-! ## The run -/

/-- What `run_` publishes in the end, after it has looked at the flag for the last time. -/
def conclude (passed : Bool) : Run Unit := do
  let cancel_requested ← canceled
  note (.verdict cancel_requested)
  if cancel_requested then publish_ .CANCELED "Fixture test canceled"
  else if passed then publish_ .PASSED "All fixture tests passed"

/-- `run_`. -/
def run_ : Run Unit := do
  let outcome ← test
  cleanup_
  match outcome with
  | none => return ()
  | some passed => conclude passed

/-- `start`; it is called once in the life of a model. -/
def start (surroundings : Surroundings) (now : ℕ) : World :=
  let w : World := { surroundings, now }
  w.publish [] { w.model.snapshot with state := .RUNNING, headline := "Resetting CAP fixture" }

/-- The world when `run_` enters `cleanup_`. -/
def before_cleanup (surroundings : Surroundings) (now : ℕ) : World :=
  (test (start surroundings now)).2

/-- The world when `run_` loads the flag for the last time, after `cleanup_`. -/
def last_load (surroundings : Surroundings) (now : ℕ) : World :=
  (cleanup_ (before_cleanup surroundings now)).2.pass

/-- The world when `run_` has returned; other threads may have made progress since its last
step. -/
def finish (surroundings : Surroundings) (now : ℕ) : World :=
  (run_ (start surroundings now)).2.pass

end FactoryTest.Fixture

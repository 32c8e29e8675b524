import FactoryTest.Fixture.Steps

/-!
# Every item from its begin to its pass

For each item there is a list of what must be observed while it runs (`i2c_evidence` and the
like), and a rule that takes the chain over the item: either the item passes with its evidence
in the history, or the run has stopped and the item is the one to blame.
-/

namespace FactoryTest.Fixture

open Program

variable {k : ℕ} {c : Channels} {ps : List (Obs → Prop)}

/-- Writes to other registers toggle nothing. -/
theorem plain_of_reg {reg : UInt8} (hreg : reg ≠ 0x01) (data : List UInt8) :
    (Call.write_register reg data).Plain :=
  ⟨fun h => hreg (Call.write_register.inj h).1, fun h => hreg (Call.write_register.inj h).1⟩

/-- What was seen last, as one list. -/
theorem At.gather {middle : List CapFixtureItemState} {qs rs : List (Obs → Prop)} {w : World}
    (h : At k middle c c (ps ++ qs ++ rs) w) : At k middle c c (ps ++ (qs ++ rs)) w :=
  List.append_assoc ps qs rs ▸ h

/-! ## Power and I2C -/

def power_evidence : List (Obs → Prop) :=
  [Seen (.begin_item K_POWER_ITEM), Seen (.pass_item K_POWER_ITEM)]

theorem run_power_spec : Triple (At K_POWER_ITEM [] c c ps) run_power_
    (fun _ => At K_I2C_ITEM [] c c (ps ++ power_evidence)) (StoppedAt K_POWER_ITEM [.RUNNING]) := by
  refine (begin_item_spec (by decide) _).bind fun _ => ?_
  refine (call_spec (by decide)).bind fun enabled => ?_
  refine (check_keeps enabled.ok _ _).bind fun _ => ?_
  refine (delay_spec 150 (by decide)).bind fun _ => ?_
  refine (write_reg_spec _ (by decide)).bind fun _ => ?_
  refine (delay_spec 200 (by decide)).bind fun _ => ?_
  refine (call_spec (by decide)).bind fun charge => ?_
  refine (check_keeps charge.ok _ _).bind fun _ => ?_
  refine (write_reg_spec _ (plain_of_reg (by decide) _)).bind fun _ => ?_
  refine (delay_spec 100 (by decide)).bind fun _ => ?_
  refine (read_reg_spec _ 0x08 1).bind fun low => ?_
  refine (read_reg_spec _ 0x09 1).bind fun high => ?_
  refine (check_keeps _ _ _).bind fun _ => ?_
  exact (pass_item_spec _).post fun _ _ h => h.gather

/-- The status is read, and the run fails if it is not as expected. -/
theorem expect_status_spec (stage message : String) :
    Triple (At k [.RUNNING] c c ps)
      (Program.otherwise (do
          let status ← read_reg_ stage 0x03 1
          Program.proceed (status = [0x02]))
        (fail_ stage message))
      (fun _ => At k [.RUNNING] c c (ps ++ [Answered (.read_register 0x03 1) [0x02]]))
      (StoppedAt k [.RUNNING]) := by
  refine Triple.otherwise ?_ (fail_either c ps stage message)
  refine ((read_reg_sees stage 0x03 1).escape fun _ => Or.inl).bind fun status => ?_
  refine (triple_proceed fun _ w h => .inr h.forget).post fun _ w h => ?_
  obtain ⟨hstatus, h⟩ := h
  obtain rfl := of_decide_eq_true hstatus
  exact h

/-- A switch has succeeded and settled. -/
theorem settle_spec (switched : Answer) (milliseconds : ℕ) {reason : String}
    (hreason : reason ∉ restore_delays) (stage message : String) :
    Triple (At k [.RUNNING] c c ps)
      (Program.otherwise (do
          Program.proceed switched.ok
          delay_ milliseconds reason)
        (fail_ stage message))
      (fun _ => At k [.RUNNING] c c ps) (StoppedAt k [.RUNNING]) := by
  refine Triple.otherwise ?_ (fail_either c ps stage message)
  refine (triple_proceed fun _ w h => .inr h).bind fun _ => ?_
  exact triple_of_pre fun _ => (delay_spec milliseconds hreason).escape fun _ => Or.inl

def i2c_evidence : List (Obs → Prop) :=
  [Seen (.begin_item K_I2C_ITEM), Accepted (.write_register 0x02 [0xa5, 0x5a]),
    Answered (.read_register 0x02 2) [0xa5, 0x5a], Accepted (.write_register 0x01 [0x02]),
    Answered (.read_register 0x03 1) [0x02], Seen (.pass_item K_I2C_ITEM)]

theorem run_i2c_spec : Triple (At K_I2C_ITEM [] c c ps) run_i2c_
    (fun _ => At K_GROVE_I2C_ITEM [] c c (ps ++ i2c_evidence))
    (StoppedAt K_I2C_ITEM [.RUNNING]) := by
  refine (begin_item_spec (by decide) _).bind fun _ => ?_
  refine (read_reg_spec _ 0x02 2).bind fun _ => ?_
  refine (write_reg_sees _ (by decide)).bind fun _ => ?_
  refine (delay_spec 20 (by decide)).bind fun _ => ?_
  refine (read_reg_sees _ 0x02 2).bind fun readback => ?_
  refine (check_spec _ _ _).bind fun _ => ?_
  refine triple_of_pre fun hreadback => ?_
  obtain rfl := of_decide_eq_true hreadback
  refine (write_reg_spec _ (by decide)).bind fun _ => ?_
  refine (write_reg_sees _ (by decide)).bind fun _ => ?_
  refine (delay_spec 100 (by decide)).bind fun _ => ?_
  refine (expect_status_spec _ _).bind fun _ => ?_
  exact (pass_item_spec _).post fun _ _ h => h.gather.gather.gather.gather.gather

/-! ## Grove I2C -/

theorem wait_for_idle_spec (stage : String) (milliseconds : ℕ) {reason : String}
    (hreason : reason ∉ restore_delays) :
    Triple (At k [.RUNNING] c c ps) (wait_for_idle stage milliseconds reason)
      (fun _ => At k [.RUNNING] c c ps) (StoppedAt k [.RUNNING]) := by
  refine Triple.bind (Q := fun r => r.elim (fun _ => At k [.RUNNING] c c ps)
      fun _ => At k [.RUNNING] c c ps)
    (until_deadline_spec milliseconds (fun _ => ?_) ()) fun r => ?_
  · refine (read_reg_spec stage 0x03 1).bind fun status => ?_
    refine triple_ite (fun _ => triple_pure fun _ h => h) fun _ => ?_
    exact (delay_spec 50 hreason).bind fun _ => triple_pure fun _ h => h
  · cases r with
    | inl _ => exact triple_pure fun _ h => h
    | inr _ => exact triple_pure fun _ h => h

/-- Both channels are on HAT. -/
def hat : Channels := ⟨false, false⟩

def grove_i2c_evidence : List (Obs → Prop) :=
  [Seen (.begin_item K_GROVE_I2C_ITEM), Accepted (.write_register 0x01 [0x02]),
    Answered (.read_register 0x03 1) [0x02], Seen (.pass_item K_GROVE_I2C_ITEM)]

theorem run_grove_i2c_spec : Triple (At K_GROVE_I2C_ITEM [] hat hat ps) run_grove_i2c_
    (fun _ => At K_UART_ITEM [] hat hat (ps ++ grove_i2c_evidence))
    (StoppedAt K_GROVE_I2C_ITEM [.RUNNING]) := by
  refine (begin_item_spec (by decide) _).bind fun _ => ?_
  refine (call_spec (by decide)).bind fun enabled => ?_
  refine (settle_spec enabled 300 (by decide) _ _).bind fun _ => ?_
  -- The flag follows the toggle at once.
  refine (toggle_spec _ (.inl rfl)).bind fun _ => ?_
  refine (assign_spec _ ⟨true, false⟩ ?_).bind fun _ => ?_
  · exact fun m hm => congrArg (Channels.mk true) (congrArg Channels.uart hm)
  refine (delay_spec 200 (by decide)).bind fun _ => ?_
  refine (call_spec (by decide)).bind fun switched => ?_
  refine (check_keeps switched.ok _ _).bind fun _ => ?_
  refine (delay_spec 3000 (by decide)).bind fun _ => ?_
  refine (write_reg_sees _ (by decide)).bind fun _ => ?_
  refine (delay_spec 100 (by decide)).bind fun _ => ?_
  refine (expect_status_spec _ _).bind fun _ => ?_
  -- The flag follows the toggle only after two delays.
  refine (toggle_spec _ (.inl rfl)).bind fun _ => ?_
  refine (restore_delay_spec 200 (by decide) (by decide)).bind fun _ => ?_
  refine (restore_delay_spec 200 (by decide) (by decide)).bind fun _ => ?_
  refine (assign_spec _ hat ?_).bind fun _ => ?_
  · exact fun m hm => congrArg (Channels.mk false) (congrArg Channels.uart hm)
  refine (call_spec (by decide)).bind fun restored => ?_
  refine (settle_spec restored 150 (by decide) _ _).bind fun _ => ?_
  refine (wait_for_idle_spec _ 2000 (by decide)).bind fun idle => ?_
  refine (check_keeps idle _ _).bind fun _ => ?_
  exact (pass_item_spec _).post fun _ _ h => h.gather.gather.gather

/-! ## Frames -/

/-- What `read_uart_frame` gives: a frame that was observed, or an error. -/
def FrameRead (k : ℕ) (c : Channels) (ps : List (Obs → Prop)) (read : Except String (List UInt8))
    (w : World) : Prop :=
  match read with
  | .ok frame => frame.length = 16 ∧ At k [.RUNNING] c c (ps ++ [Seen (.frame frame)]) w
  | .error _ => At k [.RUNNING] c c ps w

theorem read_uart_frame_spec (timeout : ℕ) {E : World → Prop} :
    Triple (At k [.RUNNING] c c ps) (read_uart_frame timeout) (FrameRead k c ps) E := by
  refine Triple.bind (Q := fun (r : List UInt8 ⊕ Except String (List UInt8)) =>
      r.elim (fun _ => At k [.RUNNING] c c ps) (FrameRead k c ps))
    (until_deadline_spec timeout (fun (received : List UInt8) => ?_) []) fun r => ?_
  · refine canceled_spec.bind fun canceled => ?_
    refine triple_ite (fun _ => triple_pure fun _ h => h.1) fun _ => ?_
    refine ((call_spec (by decide)).pre fun _ h => h.1).bind fun chunk => ?_
    refine triple_ite (fun _ => triple_pure fun _ h => h) fun _ => ?_
    dsimp only
    cases hheader : find_header (received ++ chunk.bytes) with
    | none => exact (sleep_for_spec 10).bind fun _ => triple_pure fun _ h => h
    | some header =>
      refine triple_ite (fun hsize => ?_) fun _ => ?_
      · refine (note_spec (o := .frame _) trivial).bind fun _ => ?_
        refine triple_pure fun _ h => ⟨?_, h⟩
        rw [List.length_take, List.length_drop]
        omega
      · exact (sleep_for_spec 10).bind fun _ => triple_pure fun _ h => h
  · cases r with
    | inl _ => exact triple_pure fun _ h => h
    | inr _ => exact triple_pure fun _ h => h

theorem expect_frame_spec (stage before : String) {frame payload : List UInt8} {type size : UInt8} :
    Triple (fun w => frame.length = 16 ∧ At k [.RUNNING] c c (ps ++ [Seen (.frame frame)]) w)
      (expect_frame stage before frame type size payload)
      (fun _ => At k [.RUNNING] c c (ps ++ [Seen (.frame (make_uart_frame type payload size))]))
      (StoppedAt k [.RUNNING]) := by
  refine triple_of_pre fun hframe => ?_
  unfold expect_frame
  cases hvalid : validate_uart_frame frame type size payload with
  | none =>
    rw [eq_of_validate hframe hvalid]
    exact triple_pure fun _ h => h
  | some error => exact fail_spec stage _

/-! ## UART -/

def ready_evidence : List (Obs → Prop) :=
  [Accepted (.write_register 0x01 [0x03]), Answered (.read_register 0x01 1) [0x03],
    Answered (.read_register 0x03 1) [0x01]]

theorem prepare_uart_test_spec (stage : String) :
    Triple (At k [.RUNNING] c c ps) (prepare_uart_test_ stage)
      (fun _ => At k [.RUNNING] c c (ps ++ ready_evidence)) (StoppedAt k [.RUNNING]) := by
  refine (assign_keeps _ ?_).bind fun _ => ?_
  · exact fun _ => rfl
  refine (call_spec (by decide)).bind fun opened => ?_
  refine (assign_keeps _ ?_).bind fun _ => ?_
  · exact fun _ => rfl
  refine (check_keeps opened.ok _ _).bind fun _ => ?_
  refine (call_spec (by decide)).bind fun discarded => ?_
  refine (check_keeps _ _ _).bind fun _ => ?_
  refine (write_reg_sees _ (by decide)).bind fun _ => ?_
  refine Triple.bind (Q := fun r => r.elim
      (fun _ => At k [.RUNNING] c c (ps ++ [Accepted (.write_register 0x01 [0x03])]))
      fun _ => At k [.RUNNING] c c (ps ++ ready_evidence))
    (until_deadline_spec 1000 (fun _ => ?_) ([0xff], [0xff])) fun r => ?_
  · refine (read_reg_sees stage 0x01 1).bind fun command => ?_
    refine (read_reg_sees stage 0x03 1).bind fun status => ?_
    refine triple_ite (fun hready => ?_) fun _ => ?_
    · obtain ⟨rfl, rfl⟩ := hready
      refine (call_spec (by decide)).bind fun post_command => ?_
      refine (check_keeps _ _ _).bind fun _ => ?_
      exact triple_pure fun _ h => h.gather.gather
    · refine ((delay_spec 100 (by decide)).pre fun _ h => h.forget.forget).bind fun _ => ?_
      exact triple_pure fun _ h => h
  · cases r with
    | inl _ => exact fail_spec stage _
    | inr _ => exact triple_pure fun _ h => h

def ready_frame : List UInt8 := make_uart_frame 0x31 zeros 0
def reply_frame : List UInt8 := make_uart_frame 0x03 rx_payload 10

theorem uart_hello_spec (attempts : ℕ) : Triple (At k [.RUNNING] c c ps) (uart_hello attempts)
    (fun ready w => if ready then At k [.RUNNING] c c (ps ++ [Seen (.frame ready_frame)]) w
      else At k [.RUNNING] c c ps w) (StoppedAt k [.RUNNING]) := by
  induction attempts with
  | zero => exact triple_pure fun _ h => h
  | succ attempts ih =>
    refine canceled_spec.bind fun canceled => ?_
    refine triple_ite (fun _ => triple_pure fun _ h => h.1) fun _ => ?_
    refine ((call_spec (by decide)).pre fun _ h => h.1).bind fun sent => ?_
    refine (check_keeps _ _ _).bind fun _ => ?_
    refine (read_uart_frame_spec 700).bind fun read => ?_
    cases read with
    | error _ => exact ih
    | ok ready =>
      refine (expect_frame_spec _ _).bind fun _ => ?_
      exact triple_pure fun _ h => h

/-- The run fails unless a READY frame was received. -/
theorem check_ready_spec (ready : Bool) (stage message : String) :
    Triple (fun w => if ready then At k [.RUNNING] c c (ps ++ [Seen (.frame ready_frame)]) w
        else At k [.RUNNING] c c ps w) (check ready stage message)
      (fun _ => At k [.RUNNING] c c (ps ++ [Seen (.frame ready_frame)]))
      (StoppedAt k [.RUNNING]) := by
  cases ready with
  | true => exact triple_pure fun _ h => h
  | false => exact fail_spec stage message

def uart_evidence (item : ℕ) : List (Obs → Prop) :=
  Seen (.begin_item item) :: ready_evidence ++
    [Seen (.frame ready_frame), Seen (.frame reply_frame), Seen (.pass_item item)]

theorem run_uart_spec : Triple (At K_UART_ITEM [] c c ps) run_uart_
    (fun _ => At K_GROVE_UART_ITEM [] c c (ps ++ uart_evidence K_UART_ITEM))
    (StoppedAt K_UART_ITEM [.RUNNING]) := by
  refine (begin_item_spec (by decide) _).bind fun _ => ?_
  refine (prepare_uart_test_spec _).bind fun _ => ?_
  refine (uart_hello_spec 3).bind fun ready_received => ?_
  refine (check_ready_spec ready_received _ _).bind fun _ => ?_
  refine (call_spec (by decide)).bind fun started => ?_
  refine (check_keeps started.ok _ _).bind fun _ => ?_
  refine (call_spec (by decide)).bind fun sent => ?_
  refine (check_keeps sent.ok _ _).bind fun _ => ?_
  refine (read_uart_frame_spec 3500).bind fun read => ?_
  cases read with
  | error error => exact fail_spec _ _
  | ok reply =>
    refine (expect_frame_spec _ _).bind fun _ => ?_
    refine (delay_spec 100 (by decide)).bind fun _ => ?_
    refine (read_reg_spec _ 0x11 10).bind fun _ => ?_
    refine (read_reg_spec _ 0x1b 10).bind fun _ => ?_
    exact (pass_item_spec _).post fun _ _ h => h.gather.gather.gather.gather

/-! ## Grove UART -/

theorem grove_uart_hello_spec (attempts : ℕ) :
    Triple (At k [.RUNNING] c c ps) (grove_uart_hello attempts)
      (fun ready w => if ready then At k [.RUNNING] c c (ps ++ [Seen (.frame ready_frame)]) w
        else At k [.RUNNING] c c ps w) (StoppedAt k [.RUNNING]) := by
  induction attempts with
  | zero => exact triple_pure fun _ h => h
  | succ attempts ih =>
    refine canceled_spec.bind fun canceled => ?_
    refine triple_ite (fun _ => triple_pure fun _ h => h.1) fun _ => ?_
    refine ((call_spec (by decide)).pre fun _ h => h.1).bind fun sent => ?_
    refine triple_ite (fun _ => ih) fun _ => ?_
    refine (read_uart_frame_spec 700).bind fun read => ?_
    cases read with
    | error _ => exact ih
    | ok ready =>
      refine (expect_frame_spec _ _).bind fun _ => ?_
      exact triple_pure fun _ h => h

theorem run_grove_uart_spec : Triple (At K_GROVE_UART_ITEM [] hat hat ps) run_grove_uart_
    (fun _ => At K_SPI_ITEM [] hat hat (ps ++ uart_evidence K_GROVE_UART_ITEM))
    (StoppedAt K_GROVE_UART_ITEM [.RUNNING]) := by
  refine (begin_item_spec (by decide) _).bind fun _ => ?_
  refine (call_spec (by decide)).bind fun released => ?_
  refine (check_keeps released.ok _ _).bind fun _ => ?_
  refine (delay_spec 150 (by decide)).bind fun _ => ?_
  -- The flag follows the toggle at once.
  refine (toggle_spec _ (.inr rfl)).bind fun _ => ?_
  refine (assign_spec _ ⟨false, true⟩ ?_).bind fun _ => ?_
  · exact fun m hm => congrArg (Channels.mk · true) (congrArg Channels.i2c hm)
  refine (delay_spec 200 (by decide)).bind fun _ => ?_
  refine (wait_for_idle_spec _ 200 (by decide)).bind fun idle => ?_
  refine (check_keeps idle _ _).bind fun _ => ?_
  refine (delay_spec 200 (by decide)).bind fun _ => ?_
  refine (prepare_uart_test_spec _).bind fun _ => ?_
  refine (grove_uart_hello_spec 3).bind fun ready => ?_
  refine (check_ready_spec ready _ _).bind fun _ => ?_
  refine (call_spec (by decide)).bind fun started => ?_
  refine (check_keeps started.ok _ _).bind fun _ => ?_
  refine (call_spec (by decide)).bind fun sent => ?_
  refine (check_keeps sent.ok _ _).bind fun _ => ?_
  refine (read_uart_frame_spec 3500).bind fun read => ?_
  cases read with
  | error error => exact fail_spec _ _
  | ok reply =>
    refine (expect_frame_spec _ _).bind fun _ => ?_
    -- The flag follows the toggle only after two delays.
    refine (toggle_spec _ (.inr rfl)).bind fun _ => ?_
    refine (restore_delay_spec 200 (by decide) (by decide)).bind fun _ => ?_
    refine (restore_delay_spec 200 (by decide) (by decide)).bind fun _ => ?_
    refine (assign_spec _ hat ?_).bind fun _ => ?_
    · exact fun m hm => congrArg (Channels.mk · false) (congrArg Channels.i2c hm)
    exact (pass_item_spec _).post fun _ _ h => h.gather.gather.gather.gather

/-! ## SPI and USB -/

def spi_evidence : List (Obs → Prop) :=
  [Seen (.begin_item K_SPI_ITEM), Answered (.spi_transfer spi_tx) spi_expected,
    Seen (.pass_item K_SPI_ITEM)]

theorem run_spi_spec : Triple (At K_SPI_ITEM [] c c ps) run_spi_
    (fun _ => At K_USB_ITEM [] c c (ps ++ spi_evidence)) (StoppedAt K_SPI_ITEM [.RUNNING]) := by
  refine (begin_item_spec (by decide) _).bind fun _ => ?_
  refine (write_reg_spec _ (by decide)).bind fun _ => ?_
  refine (delay_spec 100 (by decide)).bind fun _ => ?_
  refine (call_sees (by decide)).bind fun rx => ?_
  refine (check_spec rx.ok _ _).bind fun _ => ?_
  refine triple_of_pre fun hok => ?_
  refine (check_spec _ _ _).bind fun _ => ?_
  refine triple_of_pre fun hbytes => ?_
  refine Triple.pre (P := At K_SPI_ITEM [.RUNNING] c c (ps ++ [Seen (.begin_item K_SPI_ITEM)] ++
    [Answered (.spi_transfer spi_tx) spi_expected])) ?_
    fun _ h => h.weaken fun _ ho => ⟨rx, ho, hok, of_decide_eq_true hbytes⟩
  refine (delay_spec 50 (by decide)).bind fun _ => ?_
  refine (read_reg_spec _ 0x25 10).bind fun _ => ?_
  refine (read_reg_spec _ 0x2f 10).bind fun _ => ?_
  exact (pass_item_spec _).post fun _ _ h => h.gather.gather

theorem enumerate_usb_spec : Triple (At k [.RUNNING] c c ps) enumerate_usb
    (fun _ => At k [.RUNNING] c c ps) (StoppedAt k [.RUNNING]) := by
  refine (call_spec (by decide)).bind fun found => ?_
  refine triple_ite (fun _ => triple_pure fun _ h => h) fun _ => ?_
  refine canceled_spec.bind fun canceled => ?_
  refine triple_ite (fun _ => (fail_spec _ _).pre fun _ h => h.1) fun _ => ?_
  refine ((call_spec (by decide)).pre fun _ h => h.1).bind fun reset => ?_
  refine (check_keeps reset.ok _ _).bind fun _ => ?_
  refine (delay_spec 500 (by decide)).bind fun _ => ?_
  refine (call_spec (by decide)).bind fun found => ?_
  exact check_keeps found.ok _ _

theorem receive_hid_text_spec : Triple (At k [.RUNNING] c c ps) receive_hid_text
    (fun _ => At k [.RUNNING] c c (ps ++ [Accepted (.receive_usb_hid_text "HDR-14P")]))
    (StoppedAt k [.RUNNING]) := by
  refine (call_spec (by decide)).bind fun opened => ?_
  refine (check_keeps opened.ok _ _).bind fun _ => ?_
  refine (call_spec (by decide)).bind fun ready => ?_
  refine (check_keeps ready.ok _ _).bind fun _ => ?_
  refine (call_sees (by decide)).bind fun received => ?_
  exact check_accepts received _ _

def usb_evidence : List (Obs → Prop) :=
  [Seen (.begin_item K_USB_ITEM), Accepted (.receive_usb_hid_text "HDR-14P"),
    Accepted .wait_for_usb_disconnect, Seen (.pass_item K_USB_ITEM)]

theorem run_usb_spec : Triple (At K_USB_ITEM [] c c ps) run_usb_
    (fun _ => At K_GPIO_ITEM [] c c (ps ++ usb_evidence)) (StoppedAt K_USB_ITEM [.RUNNING]) := by
  refine (begin_item_spec (by decide) _).bind fun _ => ?_
  refine (select_host_pin_function_spec true).bind fun selected => ?_
  cases selected with
  | some error => exact fail_spec _ _
  | none =>
    refine (delay_spec 500 (by decide)).bind fun _ => ?_
    refine (write_reg_spec _ (by decide)).bind fun _ => ?_
    refine (write_reg_spec _ (by decide)).bind fun _ => ?_
    refine (delay_spec 500 (by decide)).bind fun _ => ?_
    refine enumerate_usb_spec.bind fun _ => ?_
    refine receive_hid_text_spec.bind fun _ => ?_
    refine (write_reg_spec _ (by decide)).bind fun _ => ?_
    refine (delay_spec 200 (by decide)).bind fun _ => ?_
    refine (call_sees (by decide)).bind fun gone => ?_
    refine (check_accepts gone _ _).bind fun _ => ?_
    refine (write_reg_spec _ (by decide)).bind fun _ => ?_
    refine (delay_spec 300 (by decide)).bind fun _ => ?_
    exact (pass_item_spec _).post fun _ _ h => h.gather.gather.gather

/-! ## GPIO -/

theorem check_passes {P : World → Prop} (b : Bool) (stage message : String) :
    Triple P (check b stage message) (fun _ w => b = true ∧ P w) fun _ => True := by
  cases b with
  | true => exact triple_pure fun _ h => ⟨rfl, h⟩
  | false => exact fun _ _ => trivial

theorem read_reg_length {P : World → Prop} (stage : String) (reg : UInt8) (size : ℕ) :
    Triple P (read_reg_ stage reg size) (fun bytes _ => bytes.length = size) fun _ => True := by
  refine triple_true.bind fun _ => ?_
  refine triple_true.bind fun _ => ?_
  refine Triple.bind (Q := fun a _ => a.bytes.length = size) (fun w _ => ?_) fun read => ?_
  · show (Answer.fit _ (.read_register reg size)).bytes.length = size
    simp [Answer.fit, Call.size]
  · exact (check_passes read.ok _ _).bind fun _ => triple_pure fun _ h => h.2

theorem read_reg_sized (stage : String) (reg : UInt8) (size : ℕ) :
    Triple (At k [.RUNNING] c c ps) (read_reg_ stage reg size)
      (fun bytes w => bytes.length = size ∧
        At k [.RUNNING] c c (ps ++ [Answered (.read_register reg size) bytes]) w)
      (StoppedAt k [.RUNNING]) :=
  ((read_reg_sees stage reg size).and (read_reg_length stage reg size)).mono (fun _ h => ⟨h, h⟩)
    (fun _ _ h => h.symm) fun _ h => h.1

theorem gpio_samples_spec (samples : ℕ) (levels : List UInt8) :
    Triple (At k [.RUNNING] c c ps) (gpio_samples (samples + 1) levels)
      (fun sample w => sample.length = 1 ∧
        At k [.RUNNING] c c (ps ++ [Answered (.read_register 0x07 1) sample]) w)
      (StoppedAt k [.RUNNING]) := by
  induction samples generalizing levels with
  | zero =>
    refine (call_spec (by decide)).bind fun high => ?_
    refine (check_keeps high.ok _ _).bind fun _ => ?_
    refine (read_reg_sized _ 0x07 1).bind fun sample => ?_
    exact triple_pure fun _ h => h
  | succ samples ih =>
    refine (call_spec (by decide)).bind fun high => ?_
    refine (check_keeps high.ok _ _).bind fun _ => ?_
    refine (read_reg_spec _ 0x07 1).bind fun sample => ?_
    exact (hold_gpio_outputs_high_spec _ 100).bind fun _ => ih sample

def gpio_evidence : List (Obs → Prop) :=
  [Seen (.begin_item K_GPIO_ITEM), Answered (.read_register 0x07 1) [0x07],
    Accepted (.write_register 0x01 [0x00]), Accepted .set_gpio_test_inputs,
    Seen (.pass_item K_GPIO_ITEM)]

/-- The levels that are expected are those of the three lines, and no others. -/
theorem levels_eq {levels : List UInt8} (hsize : levels.length = 1)
    (hlevels : levels.getD 0 0 &&& 0x07 = 0x07 ∧ levels.getD 0 0 &&& 0xf8 = 0) :
    levels = [0x07] := by
  obtain ⟨level, rfl⟩ := List.length_eq_one_iff.1 hsize
  obtain ⟨hlines, hothers⟩ := hlevels
  rw [List.getD_cons_zero] at hlines hothers
  have hlevel : level = 0x07 := by
    calc level = level &&& (0x07 ||| 0xf8) := UInt8.and_neg_one.symm
      _ = level &&& 0x07 ||| level &&& 0xf8 := UInt8.toBitVec_inj.1 BitVec.and_or_distrib_left
      _ = 0x07 := by rw [hlines, hothers]; rfl
  rw [hlevel]

/-- One byte was sampled, or the item has stopped. -/
def LevelsSampled (c : Channels) (ps : List (Obs → Prop)) : Option (List UInt8) → World → Prop
  | none => StoppedAt K_GPIO_ITEM [.RUNNING]
  | some levels => fun w => levels.length = 1 ∧ At K_GPIO_ITEM [.RUNNING] c c
      (ps ++ [Seen (.begin_item K_GPIO_ITEM)] ++ [Answered (.read_register 0x07 1) levels]) w

theorem run_gpio_spec : Triple (At K_GPIO_ITEM [] c c ps) run_gpio_
    (fun _ => At 8 [] c c (ps ++ gpio_evidence)) (StoppedAt K_GPIO_ITEM [.RUNNING]) := by
  refine (begin_item_spec (by decide) _).bind fun _ => ?_
  refine (select_host_pin_function_spec false).bind fun selected => ?_
  cases selected with
  | some error => exact fail_spec _ _
  | none =>
    refine (delay_spec 1000 (by decide)).bind fun _ => ?_
    refine (call_spec (by decide)).bind fun high => ?_
    refine (check_keeps high.ok _ _).bind fun _ => ?_
    refine (hold_gpio_outputs_high_spec _ 500).bind fun _ => ?_
    refine (write_reg_spec _ (by decide)).bind fun _ => ?_
    refine (hold_gpio_outputs_high_spec _ 250).bind fun _ => ?_
    refine (call_spec (by decide)).bind fun host => ?_
    refine (check_keeps host.ok _ _).bind fun _ => ?_
    refine (check_keeps _ _ _).bind fun _ => ?_
    refine Triple.bind (Q := LevelsSampled c ps)
      (triple_attempt (gpio_samples_spec 4 [0]) (fun _ _ h => h) fun _ h => h) fun sampled => ?_
    cases sampled with
    | none =>
      refine (call_stopped (by decide)).bind fun stop => ?_
      refine (call_stopped (by decide)).bind fun inputs => ?_
      refine (assign_stopped _ ?_).bind fun _ => triple_giveUp fun _ h => h
      exact fun _ => rfl
    | some levels =>
      refine triple_of_pre fun hsize => ?_
      refine (call_sees (by decide)).bind fun stop => ?_
      refine (call_sees (by decide)).bind fun inputs => ?_
      refine (assign_keeps _ ?_).bind fun _ => ?_
      · exact fun _ => rfl
      refine (check_spec _ _ _).bind fun _ => ?_
      refine triple_of_pre fun hlevels => ?_
      obtain rfl := levels_eq hsize (of_decide_eq_true hlevels)
      refine (check_spec stop.ok _ _).bind fun _ => ?_
      refine triple_of_pre fun hstop => ?_
      refine (check_accepts inputs _ _).bind fun _ => ?_
      refine (pass_item_spec _).mono (fun _ h => h.weaken_before fun _ ho => ⟨stop, ho, hstop⟩)
        (fun _ _ h => h.gather.gather.gather.gather) fun _ h => h

end FactoryTest.Fixture

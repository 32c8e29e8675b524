import FactoryTest.Fixture.Items
import FactoryTest.Lib.Crc
import Mathlib.Order.Basic
import Mathlib.Tactic.IntervalCases

/-!
# The frames of the UART tests

**Theorem (`frames_checked`).** Validation accepts exactly the frame that the encoder makes of the
same type, length and payload. If at most 16 bits in a row of an encoded frame are changed, the
result is not the frame of any type, length and payload.

Bits are counted in the order in which a UART sends them and the checksum takes them in, the
lowest bit of each byte first. The checksum is stored with its low byte first, so over a whole
frame the remainder is zero (`frame_remainder`); the remainder of the changed bits alone is not.
-/

namespace FactoryTest.Fixture

open Crc

/-! ## The checksum bit by bit -/

/-- The bits of a byte, the lowest one first. -/
def byte_bits (byte : UInt8) : List Bool := (List.range 8).map byte.toBitVec.getLsbD

/-- The bits of bytes, in the order in which they are sent. -/
def frame_bits (frame : List UInt8) : List Bool := frame.flatMap byte_bits

/-- The polynomial of the checksum. -/
def modbus_poly : BitVec 16 := 0xa001#16

theorem length_byte_bits (byte : UInt8) : (byte_bits byte).length = 8 := by simp [byte_bits]

theorem length_frame_bits (frame : List UInt8) : (frame_bits frame).length = 8 * frame.length := by
  induction frame with
  | nil => rfl
  | cons byte frame ih =>
    rw [frame_bits, List.flatMap_cons, List.length_append, length_byte_bits, List.length_cons,
      ← frame_bits, ih]
    omega

/-- One step of `crc16_modbus`. -/
def crc_step (crc : UInt16) : UInt16 := if crc &&& 1 ≠ 0 then crc >>> 1 ^^^ 0xa001 else crc >>> 1

theorem toBitVec_crc_step (crc : UInt16) :
    (crc_step crc).toBitVec = shift modbus_poly crc.toBitVec := by
  have hlow : crc &&& 1 ≠ 0 ↔ crc.toBitVec.getLsbD 0 = true := by
    have h : (crc &&& 1).toBitVec =
        BitVec.setWidth 16 (BitVec.ofBool (crc.toBitVec.getLsbD 0)) := by
      rw [UInt16.toBitVec_and]
      exact BitVec.and_one_eq_setWidth_ofBool_getLsbD
    rw [← UInt16.toBitVec_inj.ne, ne_eq, h]
    cases crc.toBitVec.getLsbD 0 <;> decide
  unfold crc_step shift
  by_cases hone : crc &&& 1 ≠ 0
  · rw [if_pos hone, if_pos (hlow.1 hone)]
    rfl
  · rw [if_neg hone, if_neg fun h => hone (hlow.2 h)]
    rfl

theorem word_byte_bits (byte : UInt8) : word (byte_bits byte) = byte.toUInt16.toBitVec := by
  apply BitVec.eq_of_getLsbD_eq
  intro i hi
  have hbyte : byte.toUInt16.toBitVec = byte.toBitVec.setWidth 16 := rfl
  rw [getLsbD_word, hbyte, BitVec.getLsbD_setWidth, byte_bits, List.getD_eq_getElem?_getD,
    List.getElem?_map]
  by_cases hin : i < 8
  · rw [List.getElem?_range hin]
    rfl
  · rw [List.getElem?_eq_none (by simpa using hin), BitVec.getLsbD_of_ge _ _ (not_lt.1 hin)]
    rfl

theorem toBitVec_crc_byte (crc : UInt16) (byte : UInt8) :
    ((List.range 8).foldl (fun crc _ => crc_step crc) (crc ^^^ byte.toUInt16)).toBitVec =
      remainder modbus_poly crc.toBitVec (byte_bits byte) := by
  have hfold (k : ℕ) (crc : UInt16) :
      ((List.range k).foldl (fun crc _ => crc_step crc) crc).toBitVec =
        (shift modbus_poly)^[k] crc.toBitVec := by
    induction k with
    | zero => rfl
    | succ k ih =>
      rw [List.range_succ, List.foldl_append, List.foldl_cons, List.foldl_nil,
        toBitVec_crc_step, ih,
        Function.iterate_succ_apply']
  rw [hfold, remainder_eq_shifts _ (by rw [length_byte_bits]; decide), length_byte_bits,
    word_byte_bits]
  rfl

/-- The checksum is the remainder of the bits. -/
theorem crc16_modbus_eq (data : List UInt8) :
    (crc16_modbus data).toBitVec = remainder modbus_poly 0xffff#16 (frame_bits data) := by
  have hall (crc : UInt16) : (data.foldl (fun crc byte =>
      (List.range 8).foldl (fun crc _ => crc_step crc) (crc ^^^ byte.toUInt16)) crc).toBitVec =
        remainder modbus_poly crc.toBitVec (frame_bits data) := by
    induction data generalizing crc with
    | nil => rfl
    | cons byte data ih =>
      rw [List.foldl_cons, ih, toBitVec_crc_byte, frame_bits, frame_bits, List.flatMap_cons,
        remainder_append]
  exact hall 0xffff

/-- The bits of a stored checksum are those of the checksum. -/
theorem word_crc_bytes (crc : UInt16) : word (frame_bits (crc_bytes crc)) = crc.toBitVec := by
  have hlow : (crc &&& 0xff).toUInt8.toBitVec = (crc.toBitVec &&& 255#16).setWidth 8 := rfl
  have hhigh : (crc >>> 8 &&& 0xff).toUInt8.toBitVec =
      (crc.toBitVec >>> 8 &&& 255#16).setWidth 8 := rfl
  have hmask (i : ℕ) (hi : i < 8) : (255#16).getLsbD i = true := by
    interval_cases i <;> rfl
  apply BitVec.eq_of_getLsbD_eq
  intro i hi
  rw [getLsbD_word, decide_eq_true hi, Bool.true_and, List.getD_eq_getElem?_getD]
  show (byte_bits _ ++ (byte_bits _ ++ []))[i]?.getD false = _
  rw [List.append_nil]
  by_cases hin : i < 8
  · rw [List.getElem?_append_left (by rwa [length_byte_bits]), byte_bits, List.getElem?_map,
      List.getElem?_range hin, Option.map_some, Option.getD_some, hlow, BitVec.getLsbD_setWidth,
      decide_eq_true hin, Bool.true_and, BitVec.getLsbD_and, hmask i hin, Bool.and_true]
  · have hrest : i - 8 < 8 := by omega
    rw [List.getElem?_append_right (by rw [length_byte_bits]; omega), length_byte_bits, byte_bits,
      List.getElem?_map, List.getElem?_range hrest, Option.map_some, Option.getD_some, hhigh,
      BitVec.getLsbD_setWidth, decide_eq_true hrest, Bool.true_and, BitVec.getLsbD_and,
      hmask _ hrest, Bool.and_true, BitVec.getLsbD_ushiftRight, Nat.add_sub_cancel' (not_lt.1 hin)]

/-- With its checksum at the end a frame leaves nothing in the register. -/
theorem frame_remainder (type : UInt8) (payload : List UInt8) (payload_size : UInt8) :
    remainder modbus_poly 0xffff#16 (frame_bits (make_uart_frame type payload payload_size)) =
      0#16 := by
  unfold make_uart_frame
  dsimp only
  rw [frame_bits, List.flatMap_append, remainder_append, ← frame_bits, ← frame_bits,
    ← crc16_modbus_eq, remainder_eq_shifts _ (by rw [length_frame_bits]; exact le_rfl),
    word_crc_bytes, BitVec.xor_self]
  exact iterate_shift_zero _ _

/-! ## Changed bits -/

theorem byte_bits_injective : Function.Injective byte_bits := by
  intro a b h
  have hword : a.toUInt16.toBitVec = b.toUInt16.toBitVec := by
    rw [← word_byte_bits, h, word_byte_bits]
  have hnat : a.toUInt16.toNat = b.toUInt16.toNat := congrArg BitVec.toNat hword
  rw [UInt8.toNat_toUInt16, UInt8.toNat_toUInt16] at hnat
  exact UInt8.toNat_inj.1 hnat

theorem frame_bits_inj {frame changed : List UInt8} (hlength : changed.length = frame.length)
    (h : frame_bits changed = frame_bits frame) : changed = frame := by
  induction changed generalizing frame with
  | nil => exact (List.eq_nil_of_length_eq_zero hlength.symm).symm
  | cons a changed ih =>
    cases frame with
    | nil => cases hlength
    | cons b frame =>
      rw [frame_bits, frame_bits, List.flatMap_cons, List.flatMap_cons] at h
      obtain ⟨hbyte, hrest⟩ := List.append_inj h (by rw [length_byte_bits, length_byte_bits])
      rw [byte_bits_injective hbyte, ih (Nat.succ.inj hlength) hrest]

/-- Some bits of the frame are changed, within 16 in a row. -/
def Burst (frame changed : List UInt8) : Prop :=
  changed.length = frame.length ∧ changed ≠ frame ∧
    ∃ first, ∀ i, (frame_bits changed)[i]? ≠ (frame_bits frame)[i]? → first ≤ i ∧ i < first + 16

/-- The changed bits of a burst. -/
theorem Burst.error_bits {frame changed : List UInt8} (h : Burst frame changed) :
    ∃ i bits j, bits.length ≤ 16 ∧ true ∈ bits ∧
      List.zipWith (· ^^ ·) (frame_bits frame) (frame_bits changed) =
        List.replicate i false ++ (bits ++ List.replicate j false) := by
  obtain ⟨hlength, hne, first, hburst⟩ := h
  have hbits : (frame_bits changed).length = (frame_bits frame).length := by
    rw [length_frame_bits, length_frame_bits, hlength]
  obtain ⟨error, herror⟩ : ∃ error,
    error = List.zipWith (· ^^ ·) (frame_bits frame) (frame_bits changed) := ⟨_, rfl⟩
  have hget (i : ℕ) (hi : i < error.length) : ∃ a b, (frame_bits frame)[i]? = some a ∧
      (frame_bits changed)[i]? = some b ∧ error[i] = (a ^^ b) := by
    have hi' : i < (frame_bits frame).length ∧ i < (frame_bits changed).length := by
      rw [herror, List.length_zipWith] at hi
      omega
    refine ⟨_, _, List.getElem?_eq_getElem hi'.1, List.getElem?_eq_getElem hi'.2, ?_⟩
    simp only [herror, List.getElem_zipWith]
  -- A bit of the error that is set lies in the window.
  have hwindow (i : ℕ) (hi : i < error.length) (hset : error[i] = true) :
      first ≤ i ∧ i < first + 16 := by
    obtain ⟨a, b, ha, hb, hab⟩ := hget i hi
    refine hburst i ?_
    rw [ha, hb]
    intro hsame
    rw [Option.some.inj hsame, Bool.xor_self, hset] at hab
    cases hab
  have hzero (part : List Bool) (hpart : ∀ b ∈ part, b = false) :
      part = List.replicate part.length false := List.eq_replicate_iff.2 ⟨rfl, hpart⟩
  refine ⟨(error.take first).length, (error.drop first).take 16,
    (error.drop (first + 16)).length, List.length_take_le _ _, ?_, ?_⟩
  · obtain ⟨i, hi, hset⟩ : ∃ i, ∃ hi : i < error.length, error[i] = true := by
      by_contra hnone
      push Not at hnone
      refine hne (frame_bits_inj hlength (List.ext_getElem? fun i => ?_))
      by_cases hi : i < error.length
      · obtain ⟨a, b, ha, hb, hab⟩ := hget i hi
        have hfalse := hnone i hi
        rw [hab] at hfalse
        rw [ha, hb]
        cases a <;> cases b <;> simp_all
      · rw [herror, List.length_zipWith] at hi
        rw [List.getElem?_eq_none (by omega), List.getElem?_eq_none (by omega)]
    obtain ⟨hfirst, hlast⟩ := hwindow i hi hset
    refine List.mem_of_getElem? (i := i - first) ?_
    rw [List.getElem?_take_of_lt (by omega), List.getElem?_drop, Nat.add_sub_cancel' hfirst,
      List.getElem?_eq_getElem hi, hset]
  · have hfront := hzero (error.take first) fun b hb => by
      obtain ⟨i, hi, rfl⟩ := List.getElem_of_mem hb
      rw [List.length_take] at hi
      rw [List.getElem_take]
      by_contra hset
      have := hwindow i (by omega) (Bool.not_eq_false _ ▸ hset)
      omega
    have hback := hzero (error.drop (first + 16)) fun b hb => by
      obtain ⟨i, hi, rfl⟩ := List.getElem_of_mem hb
      rw [List.length_drop] at hi
      rw [List.getElem_drop]
      by_contra hset
      have := hwindow (first + 16 + i) (by omega) (Bool.not_eq_false _ ▸ hset)
      omega
    rw [← herror, ← hfront, ← hback, ← List.drop_drop, List.take_append_drop,
      List.take_append_drop]

/-- A burst makes a frame into none. -/
theorem Burst.not_frame {type length : UInt8} {payload : List UInt8} {changed : List UInt8}
    (h : Burst (make_uart_frame type payload length) changed) (type' length' : UInt8)
    (payload' : List UInt8) : changed ≠ make_uart_frame type' payload' length' := by
  rintro rfl
  obtain ⟨i, bits, j, hshort, hset, herror⟩ := h.error_bits
  have hlost : remainder modbus_poly 0#16
      (List.replicate i false ++ (bits ++ List.replicate j false)) = 0#16 := by
    have hsame : (frame_bits (make_uart_frame type payload length)).length =
        (frame_bits (make_uart_frame type' payload' length')).length := by
      rw [length_frame_bits, length_frame_bits, h.1]
    have hsum := remainder_xor modbus_poly hsame 0xffff#16 0xffff#16
    rw [frame_remainder, frame_remainder, herror, BitVec.xor_self, BitVec.xor_self] at hsum
    exact hsum
  exact remainder_burst (by decide) hshort hset i j hlost

/-! ## Validation -/

/-- Validation accepts the frame that is expected, and no other. -/
theorem validate_uart_frame_eq_none {frame : List UInt8} (hframe : frame.length = 16)
    {type length : UInt8} {payload : List UInt8} (hpayload : payload.length = 10) :
    validate_uart_frame frame type length payload = none ↔
      frame = make_uart_frame type payload length := by
  constructor
  · intro h
    exact eq_of_validate hframe h
  · rintro rfl
    have hsum : received_crc (make_uart_frame type payload length) =
        crc16_modbus ((make_uart_frame type payload length).take 14) := by
      refine (received_crc_eq_iff hframe _).2 ?_
      match payload, hpayload with
      | [_, _, _, _, _, _, _, _, _, _], _ => rfl
    rw [validate_uart_frame, hsum]
    match payload, hpayload with
    | [_, _, _, _, _, _, _, _, _, _], _ => simp [make_uart_frame]

/-- What validation and the checksum are good for. Frames are `std::array<uint8_t, 16>` and
payloads `std::array<uint8_t, 10>`. -/
structure FramesChecked : Prop where
  validates : ∀ (frame : List UInt8) (type length : UInt8) (payload : List UInt8),
    frame.length = 16 → payload.length = 10 →
      (validate_uart_frame frame type length payload = none ↔
        frame = make_uart_frame type payload length)
  detects : ∀ (type length : UInt8) (payload changed : List UInt8), payload.length = 10 →
    Burst (make_uart_frame type payload length) changed →
      ∀ (type' length' : UInt8) (payload' : List UInt8), payload'.length = 10 →
        changed ≠ make_uart_frame type' payload' length'

/-- Every frame is checked as it was made, and a burst is noticed. -/
theorem frames_checked : FramesChecked where
  validates _ _ _ _ hframe hpayload := validate_uart_frame_eq_none hframe hpayload
  detects _ _ _ _ _ h type' length' payload' _ := h.not_frame type' length' payload'

end FactoryTest.Fixture

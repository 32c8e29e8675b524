import FactoryTest.Ir.Packet
import FactoryTest.Lib.Bytes
import Mathlib.Data.List.Forall2

/-!
# The two receive paths

A frame of four bytes reaches the program as a pulse train or as a scancode, depending on the
driver. `finalize_receive` takes the bytes as they come; the kernel's scancode leaves out what
it considers redundant, and `finalize_receive_scancode` puts it back.

The paths disagree on two kinds of frames: extended addresses, whose bytes the kernel stores in
the other order, and standard addresses with a command byte that is not complemented, which are
`NEC` on one path and `NEC32` on the other. They agree on a sequence of frames exactly if none
of it is of these kinds (`paths_agree_iff`). `extended_address_swapped` is a frame of the first
kind.
-/

namespace FactoryTest.Ir

open Bytes

/-- The four bytes of a frame. -/
structure NecFrame where
  addr : UInt8
  naddr : UInt8
  cmd : UInt8
  ncmd : UInt8
  deriving DecidableEq

namespace NecFrame

def bytes (f : NecFrame) : List UInt8 := [f.addr, f.naddr, f.cmd, f.ncmd]

/-- The second address byte is the complement of the first. -/
def StandardAddress (f : NecFrame) : Prop := f.naddr = ~~~f.addr

/-- The second command byte is the complement of the first. -/
def StandardCommand (f : NecFrame) : Prop := f.ncmd = ~~~f.cmd

instance (f : NecFrame) : Decidable f.StandardAddress := inferInstanceAs (Decidable (_ = _))
instance (f : NecFrame) : Decidable f.StandardCommand := inferInstanceAs (Decidable (_ = _))

/-- The frame is neither an extended address with two different bytes, nor a standard address
with a command that is not complemented. -/
def Plain (f : NecFrame) : Prop :=
  (f.StandardCommand → f.StandardAddress ∨ f.naddr = f.addr) ∧
    (f.StandardAddress → f.StandardCommand)

instance (f : NecFrame) : Decidable f.Plain := by
  unfold NecFrame.Plain
  infer_instance

end NecFrame

/-! ## How a frame arrives -/

/-- The kernel's `ir_nec_bytes_to_scancode`. -/
def ir_nec_bytes_to_scancode (f : NecFrame) : RcProto × UInt64 :=
  if ¬ f.StandardCommand then
    (.NEC32, f.naddr.toUInt64 <<< 24 ||| f.addr.toUInt64 <<< 16 ||| f.ncmd.toUInt64 <<< 8 |||
      f.cmd.toUInt64)
  else if ¬ f.StandardAddress then
    (.NECX, f.addr.toUInt64 <<< 16 ||| f.naddr.toUInt64 <<< 8 ||| f.cmd.toUInt64)
  else (.NEC, f.addr.toUInt64 <<< 8 ||| f.cmd.toUInt64)

/-- A scancode the kernel reports for the frame, when it is not a repetition. -/
def ScancodeOf (f : NecFrame) (scancode : LircScancode) : Prop :=
  (scancode.rc_proto, scancode.scancode) = ir_nec_bytes_to_scancode f ∧
    scancode.flags &&& LIRC_SCANCODE_FLAG_REPEAT = 0

/-- How far a duration may be off: the spaces of zeros and ones stay apart. -/
def K_JITTER_US : UInt32 := 279

/-- A pulse train of the frame. -/
def PulseTrain (f : NecFrame) (durations : List UInt32) : Prop :=
  List.Forall₂ (fun duration nominal => approx duration nominal K_JITTER_US = true) durations
    (encode_nec_packet f.bytes)

/-! ## Decoding a pulse train -/

theorem approx_iff {value target tolerance : UInt32}
    (h : target.toNat + tolerance.toNat < 2 ^ 32) :
    approx value target tolerance = true ↔
      target.toNat ≤ (value.toNat + tolerance.toNat) % 2 ^ 32 ∧
        value.toNat ≤ target.toNat + tolerance.toNat := by
  simp only [approx, Bool.and_eq_true, decide_eq_true_eq, UInt32.le_iff_toNat_le,
    UInt32.toNat_add, Nat.mod_eq_of_lt h]

theorem approx_mono {value target small large : UInt32} (hle : small ≤ large)
    (hlarge : target.toNat + 2 * large.toNat < 2 ^ 32) (h : approx value target small = true) :
    approx value target large = true := by
  have hle := UInt32.le_iff_toNat_le.1 hle
  rw [approx_iff (by omega)] at h ⊢
  rw [Nat.mod_eq_of_lt (by omega)] at h ⊢
  omega

/-- A bit that is off by no more than the jitter is decoded. -/
theorem decode_bit_near {pulse space : UInt32} (one : Bool)
    (hpulse : approx pulse K_NEC_BIT_PULSE_US K_JITTER_US = true)
    (hspace : approx space (if one then K_NEC_ONE_SPACE_US else K_NEC_ZERO_SPACE_US)
      K_JITTER_US = true) :
    decode_bit pulse space = some one := by
  have hnear : approx pulse K_NEC_BIT_PULSE_US 450 = true :=
    approx_mono (by decide) (by decide) hpulse
  unfold decode_bit
  rw [hnear, Bool.not_true, if_neg Bool.false_ne_true]
  cases one with
  | true =>
    have hone : approx space K_NEC_ONE_SPACE_US 850 = true :=
      approx_mono (by decide) (by decide) hspace
    rw [if_pos hone]
  | false =>
    have hzero : approx space K_NEC_ZERO_SPACE_US 500 = true :=
      approx_mono (by decide) (by decide) hspace
    have hone : ¬ approx space K_NEC_ONE_SPACE_US 850 = true := by
      intro hone
      replace hspace : approx space K_NEC_ZERO_SPACE_US K_JITTER_US = true := hspace
      rw [approx_iff (by decide)] at hone hspace
      have h₁ : K_NEC_ONE_SPACE_US.toNat = 1690 := rfl
      have h₀ : K_NEC_ZERO_SPACE_US.toNat = 560 := rfl
      have hj : K_JITTER_US.toNat = 279 := rfl
      have hw : (850 : UInt32).toNat = 850 := rfl
      omega
    rw [if_neg hone, hzero, Bool.not_true, if_neg Bool.false_ne_true]

/-- A duration within the jitter of a nominal one. -/
abbrev Near : List UInt32 → List UInt32 → Prop :=
  List.Forall₂ fun duration nominal => approx duration nominal K_JITTER_US = true

/-- The bits read so far. -/
def gather (byte : UInt8) (acc : UInt8) (bit : ℕ) : UInt8 :=
  set_bit acc bit (byte &&& 1 <<< UInt8.ofNat bit ≠ 0)

theorem decode_bits_near (byte : UInt8) (bits : List ℕ) (acc : UInt8)
    {durations : List UInt32} {nominal : List UInt32}
    (h : Near durations (bits.flatMap (encode_bit byte) ++ nominal)) :
    ∃ rest, Near rest nominal ∧
      decode_bits bits acc durations = some (bits.foldl (gather byte) acc, rest) := by
  induction bits generalizing acc durations with
  | nil =>
    rw [List.flatMap_nil, List.nil_append] at h
    exact ⟨durations, h, by rw [decode_bits, List.foldl_nil]⟩
  | cons bit bits ih =>
    rw [List.flatMap_cons, List.append_assoc, encode_bit, List.cons_append, List.cons_append,
      List.nil_append] at h
    obtain ⟨pulse, tail, hpulse, htail, rfl⟩ := List.forall₂_cons_right_iff.1 h
    obtain ⟨space, durations, hspace, hdurations, rfl⟩ := List.forall₂_cons_right_iff.1 htail
    obtain ⟨rest, hrest, hdecode⟩ := ih (gather byte acc bit) hdurations
    refine ⟨rest, hrest, ?_⟩
    have hbit := decode_bit_near (decide (byte &&& 1 <<< UInt8.ofNat bit ≠ 0)) hpulse
      (by simpa using hspace)
    rw [decode_bits, hbit]
    exact hdecode

/-- The bits of a byte make up the byte. -/
theorem foldl_gather (byte : UInt8) : (List.range 8).foldl (gather byte) 0 = byte := by
  have h : ∀ b : BitVec 8, (List.range 8).foldl (gather ⟨b⟩) 0 = ⟨b⟩ := by decide +kernel
  exact h byte.toBitVec

theorem decode_bytes_near (bytes : List UInt8) {durations nominal : List UInt32}
    (h : Near durations
      (bytes.flatMap (fun byte => (List.range 8).flatMap (encode_bit byte)) ++ nominal)) :
    decode_bytes bytes.length durations = some bytes := by
  induction bytes generalizing durations with
  | nil => rfl
  | cons byte bytes ih =>
    rw [List.flatMap_cons, List.append_assoc] at h
    obtain ⟨rest, hrest, hdecode⟩ := decode_bits_near byte (List.range 8) 0 h
    rw [List.length_cons, decode_bytes, hdecode, foldl_gather]
    show (decode_bytes bytes.length rest).map (byte :: ·) = _
    rw [ih hrest, Option.map_some]

/-- The pulse train of a frame is decoded to the bytes of the frame. -/
theorem decode_nec_packet_train {f : NecFrame} {durations : List UInt32}
    (h : PulseTrain f durations) : decode_nec_packet durations = some f.bytes := by
  have hlength : durations.length = 2 + K_PACKET_BYTES * 16 + 1 := by
    rw [h.length_eq]
    rfl
  have hfrom : decode_nec_packet_from durations 0 = some f.bytes := by
    obtain _ | ⟨hpulse, h⟩ := h
    obtain _ | ⟨hspace, h⟩ := h
    have hheader : approx _ K_NEC_HDR_PULSE_US 2500 = true :=
      approx_mono (by decide) (by decide) hpulse
    have hgap : approx _ K_NEC_HDR_SPACE_US 1800 = true :=
      approx_mono (by decide) (by decide) hspace
    rw [decode_nec_packet_from, if_neg (by rw [hlength]; decide), List.drop_zero]
    dsimp only
    rw [hheader, hgap]
    exact decode_bytes_near f.bytes h
  have hrange : List.range (durations.length - 2) = 0 :: (List.range 64).map Nat.succ := by
    rw [hlength]
    rfl
  rw [decode_nec_packet, hrange, List.findSome?_cons, hfrom]

/-! ## Decoding a scancode -/

/-- What the pulse train of a frame is parsed to. -/
def NecFrame.packet (f : NecFrame) : NecPacket :=
  ⟨f.bytes, f.addr.toUInt16 ||| f.naddr.toUInt16 <<< 8, f.cmd.toUInt16 ||| f.ncmd.toUInt16 <<< 8,
    if f.StandardAddress then K_PROTOCOL_NEC
    else if f.StandardCommand then K_PROTOCOL_NECX else K_PROTOCOL_NEC32⟩

theorem parse_nec_bytes_frame (f : NecFrame) : parse_nec_bytes f.bytes = some f.packet := by
  simp only [parse_nec_bytes, NecFrame.bytes, NecFrame.packet, NecFrame.StandardAddress,
    NecFrame.StandardCommand, xor_eq_ones_iff]
  rfl

theorem make_nec_bytes_word (b₀ b₁ b₂ b₃ : UInt8) :
    make_nec_bytes (b₀.toUInt16 ||| b₁.toUInt16 <<< 8) (b₂.toUInt16 ||| b₃.toUInt16 <<< 8) =
      [b₀, b₁, b₂, b₃] := by
  have hlow (lo hi : UInt8) : ((lo.toUInt16 ||| hi.toUInt16 <<< 8) &&& 0xff).toUInt8 = lo := by
    have hlo := lo.toNat_lt
    have hhi := hi.toNat_lt
    apply UInt8.toNat_inj.1
    show ((lo.toUInt16 ||| hi.toUInt16 <<< 8).toNat &&& 2 ^ 8 - 1) % 2 ^ 8 = _
    rw [toNat_word, Nat.and_two_pow_sub_one_eq_mod]
    omega
  have hhigh (lo hi : UInt8) :
      ((lo.toUInt16 ||| hi.toUInt16 <<< 8) >>> 8 &&& 0xff).toUInt8 = hi := by
    have hlo := lo.toNat_lt
    have hhi := hi.toNat_lt
    apply UInt8.toNat_inj.1
    show ((lo.toUInt16 ||| hi.toUInt16 <<< 8).toNat >>> 8 &&& 2 ^ 8 - 1) % 2 ^ 8 = _
    rw [toNat_word, Nat.and_two_pow_sub_one_eq_mod, Nat.shiftRight_eq_div_pow]
    omega
  rw [make_nec_bytes, hlow, hhigh, hlow, hhigh]

/-- What the scancode of a frame is decoded to. -/
def NecFrame.decoded (f : NecFrame) : NecPacket :=
  if f.StandardCommand ∧ ¬ f.StandardAddress then
    -- The kernel puts the first address byte above the second.
    { NecFrame.packet ⟨f.naddr, f.addr, f.cmd, f.ncmd⟩ with protocol := K_PROTOCOL_NECX }
  else { f.packet with
    protocol := if f.StandardCommand then K_PROTOCOL_NEC else K_PROTOCOL_NEC32 }

theorem decode_scancode_frame {f : NecFrame} {scancode : LircScancode}
    (h : ScancodeOf f scancode) : decode_scancode scancode = some f.decoded := by
  obtain ⟨hkernel, -⟩ := h
  obtain ⟨timestamp, flags, rc_proto, keycode, code⟩ := scancode
  have hzero : (0 : UInt8).toUInt64 = 0 := rfl
  unfold ir_nec_bytes_to_scancode at hkernel
  unfold NecFrame.decoded
  by_cases hcommand : f.StandardCommand
  · have hncmd : ~~~f.cmd = f.ncmd := hcommand.symm
    rw [if_neg (not_not.2 hcommand)] at hkernel
    by_cases haddress : f.StandardAddress
    · have hnaddr : ~~~f.addr = f.naddr := haddress.symm
      rw [if_neg (not_not.2 haddress)] at hkernel
      obtain ⟨rfl, rfl⟩ := Prod.mk.inj hkernel
      obtain ⟨hlow, hhigh, -⟩ := quad_bytes 0 0 f.addr f.cmd
      rw [hzero, UInt64.zero_shiftLeft, UInt64.zero_shiftLeft, UInt64.zero_or, UInt64.zero_or]
        at hlow hhigh
      rw [if_neg (by simp [haddress])]
      simp only [decode_scancode, hlow, hhigh, make_nec_command, make_standard_nec_bytes, hncmd,
        hnaddr, NecFrame.packet, NecFrame.bytes, if_pos hcommand]
    · rw [if_pos haddress] at hkernel
      obtain ⟨rfl, rfl⟩ := Prod.mk.inj hkernel
      obtain ⟨hlow, -, hword⟩ := quad_bytes 0 f.addr f.naddr f.cmd
      rw [hzero, UInt64.zero_shiftLeft, UInt64.zero_or] at hlow hword
      rw [if_pos ⟨hcommand, haddress⟩]
      simp only [decode_scancode, hlow, hword, make_nec_command, hncmd, make_nec_bytes_word,
        NecFrame.packet, NecFrame.bytes]
  · rw [if_pos hcommand] at hkernel
    obtain ⟨rfl, rfl⟩ := Prod.mk.inj hkernel
    obtain ⟨haddress, hword⟩ := quad_words f.naddr f.addr f.ncmd f.cmd
    rw [if_neg (by simp [hcommand])]
    simp only [decode_scancode, haddress, hword, make_nec_bytes_word, NecFrame.packet,
      NecFrame.bytes, if_neg hcommand]

/-- The paths store the same packet exactly for plain frames. -/
theorem packet_eq_decoded_iff (f : NecFrame) : f.packet = f.decoded ↔ f.Plain := by
  unfold NecFrame.decoded NecFrame.Plain
  by_cases hcommand : f.StandardCommand
  · by_cases haddress : f.StandardAddress
    · simp [hcommand, haddress, NecFrame.packet]
    · simp only [hcommand, haddress, not_false_eq_true, and_self, if_true, false_or,
        NecFrame.packet, if_false, NecFrame.bytes]
      constructor
      · intro h
        have hdata := congrArg NecPacket.data h
        simp only [List.cons.injEq] at hdata
        exact ⟨fun _ => hdata.2.1, False.elim⟩
      · intro h
        rw [h.1 trivial]
  · by_cases haddress : f.StandardAddress
    · simp only [hcommand, haddress, NecFrame.packet, if_true, if_false, false_and, not_true]
      refine iff_of_false (fun h => ?_) fun h => h.2 trivial
      have hprotocol : K_PROTOCOL_NEC = K_PROTOCOL_NEC32 := congrArg NecPacket.protocol h
      exact absurd hprotocol (by decide)
    · simp [hcommand, haddress, NecFrame.packet]

/-! ## Sequences of frames -/

/-- What is received of a sequence, frame by frame. -/
def receptions {α : Type*} (finalize : IrReceiveSnapshot → α → IrReceiveSnapshot) :
    IrReceiveSnapshot → List α → List IrReceiveSnapshot
  | _, [] => []
  | snapshot, a :: as => finalize snapshot a :: receptions finalize (finalize snapshot a) as

/-- What a reception says of the packet. -/
structure Reception where
  data : List UInt8
  address : UInt16
  command : UInt16
  protocol : String
  address_matched : Bool
  data_changed : Bool
  deriving DecidableEq

def IrReceiveSnapshot.reception (s : IrReceiveSnapshot) : Reception :=
  ⟨s.data, s.address, s.command, s.protocol, s.address_matched, s.data_changed⟩

theorem finalize_receive_train {f : NecFrame} {durations : List UInt32}
    (h : PulseTrain f durations) (s : IrReceiveSnapshot) :
    finalize_receive s durations = s.store f.packet (summarize_raw durations) := by
  rw [finalize_receive, decode_nec_packet_train h, Option.bind_some, parse_nec_bytes_frame]

theorem finalize_receive_scancode_frame {f : NecFrame} {scancode : LircScancode}
    (h : ScancodeOf f scancode) (s : IrReceiveSnapshot) :
    finalize_receive_scancode s scancode = s.store f.decoded "" := by
  rw [finalize_receive_scancode, if_neg (not_not.2 h.2), decode_scancode_frame h]

/-- The receivers have received the same, and expect the same address. -/
def SameReceiver (s t : IrReceiveSnapshot) : Prop :=
  s.data = t.data ∧ s.address = t.address ∧ s.command = t.command ∧ s.protocol = t.protocol ∧
    s.address_matched = t.address_matched ∧
    s.address_filter_enabled = t.address_filter_enabled ∧ s.expected_address = t.expected_address

theorem SameReceiver.store {s t : IrReceiveSnapshot} (h : SameReceiver s t) (packet : NecPacket)
    (raw raw' : String) :
    SameReceiver (s.store packet raw) (t.store packet raw') ∧
      (s.store packet raw).reception = (t.store packet raw').reception := by
  obtain ⟨hdata, haddress, hcommand, hprotocol, hmatched, hfilter, hexpected⟩ := h
  simp [SameReceiver, IrReceiveSnapshot.reception, IrReceiveSnapshot.store, hdata, haddress,
    hcommand, hprotocol, hmatched, hfilter, hexpected]

theorem packet_of_reception {s t : IrReceiveSnapshot} {p q : NecPacket} {raw raw' : String}
    (h : (s.store p raw).reception = (t.store q raw').reception) : p = q := by
  obtain ⟨data, address, command, protocol⟩ := p
  obtain ⟨data', address', command', protocol'⟩ := q
  simp only [IrReceiveSnapshot.reception, IrReceiveSnapshot.store, Reception.mk.injEq] at h
  obtain ⟨rfl, rfl, rfl, rfl, -⟩ := h
  rfl

theorem receptions_agree_iff {s t : IrReceiveSnapshot} (hst : SameReceiver s t)
    {frames : List NecFrame} {trains : List (List UInt32)} {scancodes : List LircScancode}
    (htrains : List.Forall₂ PulseTrain frames trains)
    (hscancodes : List.Forall₂ ScancodeOf frames scancodes) :
    (receptions finalize_receive s trains).map IrReceiveSnapshot.reception =
        (receptions finalize_receive_scancode t scancodes).map IrReceiveSnapshot.reception ↔
      ∀ f ∈ frames, f.Plain := by
  induction htrains generalizing s t scancodes with
  | nil =>
    cases hscancodes
    simp [receptions]
  | @cons f durations frames trains hf htrains ih =>
    cases hscancodes with
    | @cons _ scancode _ scancodes hcode hscancodes =>
      rw [List.forall_mem_cons, receptions, receptions, List.map_cons, List.map_cons,
        List.cons.injEq, finalize_receive_train hf, finalize_receive_scancode_frame hcode]
      by_cases hplain : f.Plain
      · rw [← (packet_eq_decoded_iff f).2 hplain]
        obtain ⟨hnext, hsame⟩ := hst.store f.packet (summarize_raw durations) ""
        rw [and_iff_right hsame, and_iff_right hplain]
        exact ih hnext hscancodes
      · refine iff_of_false (fun h => hplain ?_) fun h => hplain h.1
        exact (packet_eq_decoded_iff f).1 (packet_of_reception h.1)

/-- From the same receiver, the two paths receive the same of a sequence of frames exactly if
every frame is plain. -/
theorem paths_agree_iff (snapshot : IrReceiveSnapshot) (frames : List NecFrame)
    (trains : List (List UInt32)) (scancodes : List LircScancode)
    (htrains : List.Forall₂ PulseTrain frames trains)
    (hscancodes : List.Forall₂ ScancodeOf frames scancodes) :
    (receptions finalize_receive snapshot trains).map IrReceiveSnapshot.reception =
        (receptions finalize_receive_scancode snapshot scancodes).map
          IrReceiveSnapshot.reception ↔
      ∀ f ∈ frames, f.Plain :=
  receptions_agree_iff ⟨rfl, rfl, rfl, rfl, rfl, rfl, rfl⟩ htrains hscancodes

/-- The sender's own train is one of the trains of a frame. -/
theorem pulseTrain_encode (f : NecFrame) : PulseTrain f (encode_nec_packet f.bytes) := by
  refine List.forall₂_same.2 fun nominal hmem => ?_
  have hnominal : nominal ∈ [K_NEC_HDR_PULSE_US, K_NEC_HDR_SPACE_US, K_NEC_BIT_PULSE_US,
      K_NEC_ONE_SPACE_US, K_NEC_ZERO_SPACE_US] := by
    simp only [encode_nec_packet, encode_bit, List.mem_append, List.mem_flatMap, List.mem_cons,
      List.not_mem_nil, or_false] at hmem ⊢
    rcases hmem with (h | ⟨byte, -, bit, -, h | h⟩) | h
    · exact h.elim .inl fun h => .inr (.inl h)
    · exact .inr (.inr (.inl h))
    · split_ifs at h with hone
      · exact .inr (.inr (.inr (.inl h)))
      · exact .inr (.inr (.inr (.inr h)))
    · exact .inr (.inr (.inl h))
  have hself : ∀ nominal ∈ [K_NEC_HDR_PULSE_US, K_NEC_HDR_SPACE_US, K_NEC_BIT_PULSE_US,
      K_NEC_ONE_SPACE_US, K_NEC_ZERO_SPACE_US], approx nominal nominal K_JITTER_US = true := by
    intro nominal hmem
    simp only [List.mem_cons, List.not_mem_nil, or_false] at hmem
    rcases hmem with rfl | rfl | rfl | rfl | rfl <;> decide
  exact hself nominal hnominal

/-- A standard frame, and one whose bytes are not complemented at all. -/
theorem paths_agree_sample :
    (receptions finalize_receive {} [encode_nec_packet [0x12, 0xed, 0x34, 0xcb],
        encode_nec_packet [0x12, 0x56, 0x34, 0x78]]).map IrReceiveSnapshot.reception =
      (receptions finalize_receive_scancode {} [{ rc_proto := .NEC, scancode := 0x1234 },
        { rc_proto := .NEC32, scancode := 0x56127834 }]).map IrReceiveSnapshot.reception :=
  (paths_agree_iff {} [⟨0x12, 0xed, 0x34, 0xcb⟩, ⟨0x12, 0x56, 0x34, 0x78⟩] _ _
    (.cons (pulseTrain_encode _) (.cons (pulseTrain_encode _) .nil))
    (.cons ⟨by decide, by decide⟩ (.cons ⟨by decide, by decide⟩ .nil))).2 (by decide)

/-- An extended address arrives with its bytes exchanged on one of the paths. -/
theorem extended_address_swapped :
    ¬ ∀ (snapshot : IrReceiveSnapshot) (frames : List NecFrame) (trains : List (List UInt32))
      (scancodes : List LircScancode),
      List.Forall₂ PulseTrain frames trains → List.Forall₂ ScancodeOf frames scancodes →
        (receptions finalize_receive snapshot trains).map IrReceiveSnapshot.reception =
          (receptions finalize_receive_scancode snapshot scancodes).map
            IrReceiveSnapshot.reception := by
  intro hclaim
  have h := hclaim {} [⟨0x01, 0x02, 0x03, 0xfc⟩] [encode_nec_packet [0x01, 0x02, 0x03, 0xfc]]
    [{ rc_proto := .NECX, scancode := 0x010203 }] (.cons (pulseTrain_encode _) .nil)
    (.cons ⟨by decide, by decide⟩ .nil)
  revert h
  decide +kernel

end FactoryTest.Ir

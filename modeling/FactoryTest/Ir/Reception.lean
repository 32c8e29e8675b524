import FactoryTest.Ir.Agreement
import FactoryTest.Ir.Session
import Mathlib.Data.List.Destutter
import Mathlib.Data.List.ReduceOption

/-!
# Reception in mode2

A session in mode2 reads a stream of words that are pulses, spaces and reports. It cuts the
stream into pulse trains, decodes them, and delivers what changed one for each poll.

**Theorem (`mode2_reception`).** However the stream is split into reads and polls, the same
snapshots are delivered in the end. If the stream consists of bursts of which each is a frame or
has no frame in it, the snapshots are those of the frames in order, each once, but for immediate
repetitions.

The buffer holds a part of the burst at hand and nothing of any other burst. So long as a burst
has no frame in it, the buffer has none either, wherever the burst was cut (`Tolerated.infix`). A
frame is received at its last duration, and the separator then finds the buffer empty.
-/

namespace FactoryTest.Ir

/-! ## What the decoder tolerates -/

/-- The pulse and the space of a bit. A space that would do for both is a one. -/
def IsBit (one : Bool) (pulse space : UInt32) : Prop :=
  (110 ≤ pulse.toNat ∧ pulse.toNat ≤ 1010) ∧
    if one then 840 ≤ space.toNat ∧ space.toNat ≤ 2540 else 60 ≤ space.toNat ∧ space.toNat < 840

/-- The pulses and spaces of bits. -/
inductive BitTrain : List Bool → List UInt32 → Prop
  | nil : BitTrain [] []
  | cons {one : Bool} {ones : List Bool} {pulse space : UInt32} {durations : List UInt32} :
    IsBit one pulse space → BitTrain ones durations →
      BitTrain (one :: ones) (pulse :: space :: durations)

/-- The bits of a byte, the lowest one first. -/
def byte_bits (byte : UInt8) : List Bool :=
  (List.range 8).map fun bit => byte &&& 1 <<< UInt8.ofNat bit ≠ 0

/-- A pulse train of the frame, as far off as the decoder tolerates. The length of the last pulse
does not matter. -/
def NecFrame.Tolerated (f : NecFrame) (durations : List UInt32) : Prop :=
  ∃ pulse space bits last, durations = pulse :: space :: (bits ++ [last]) ∧
    (6500 ≤ pulse.toNat ∧ pulse.toNat ≤ 11500) ∧ (2700 ≤ space.toNat ∧ space.toNat ≤ 6300) ∧
    BitTrain (f.bytes.flatMap byte_bits) bits

theorem approx_iff_range {value target tolerance : UInt32}
    (h : target.toNat + 2 * tolerance.toNat < 2 ^ 32) :
    approx value target tolerance = true ↔
      target.toNat - tolerance.toNat ≤ value.toNat ∧
        value.toNat ≤ target.toNat + tolerance.toNat := by
  rw [approx_iff (by omega)]
  omega

instance (one : Bool) (pulse space : UInt32) : Decidable (IsBit one pulse space) := by
  unfold IsBit
  infer_instance

theorem isBit_true {pulse space : UInt32} : IsBit true pulse space ↔
    approx pulse K_NEC_BIT_PULSE_US 450 = true ∧ approx space K_NEC_ONE_SPACE_US 850 = true := by
  rw [approx_iff_range (by decide), approx_iff_range (by decide)]
  rfl

theorem isBit_false {pulse space : UInt32} : IsBit false pulse space ↔
    approx pulse K_NEC_BIT_PULSE_US 450 = true ∧ ¬ approx space K_NEC_ONE_SPACE_US 850 = true ∧
      approx space K_NEC_ZERO_SPACE_US 500 = true := by
  rw [approx_iff_range (by decide), approx_iff_range (by decide), approx_iff_range (by decide)]
  refine and_congr_right fun _ => ?_
  show 60 ≤ space.toNat ∧ space.toNat < 840 ↔
    ¬ (840 ≤ space.toNat ∧ space.toNat ≤ 2540) ∧ 60 ≤ space.toNat ∧ space.toNat ≤ 1060
  omega

theorem decode_bit_eq_some {one : Bool} {pulse space : UInt32} :
    decode_bit pulse space = some one ↔ IsBit one pulse space := by
  unfold decode_bit
  cases one with
  | true =>
    rw [isBit_true]
    split_ifs with hpulse hone hzero <;> simp_all
  | false =>
    rw [isBit_false]
    split_ifs with hpulse hone hzero <;> simp_all

theorem decode_bits_eq_some {bits : List ℕ} {acc byte : UInt8} {durations rest : List UInt32} :
    decode_bits bits acc durations = some (byte, rest) ↔
      ∃ ones train, ones.length = bits.length ∧ BitTrain ones train ∧ durations = train ++ rest ∧
        byte = (bits.zip ones).foldl (fun acc b => set_bit acc b.1 b.2) acc := by
  induction bits generalizing acc durations with
  | nil =>
    rw [decode_bits]
    constructor
    · intro h
      obtain ⟨rfl, rfl⟩ := Prod.mk.inj (Option.some.inj h)
      exact ⟨[], [], rfl, .nil, rfl, rfl⟩
    · rintro ⟨ones, train, hlength, htrain, rfl, rfl⟩
      obtain rfl := List.eq_nil_of_length_eq_zero hlength
      cases htrain
      rfl
  | cons bit bits ih =>
    constructor
    · intro h
      unfold decode_bits at h
      split at h
      case h_1 pulse space durations =>
        obtain ⟨one, hone, h⟩ := Option.bind_eq_some_iff.1 h
        obtain ⟨ones, train, hlength, htrain, rfl, rfl⟩ := ih.1 h
        exact ⟨one :: ones, pulse :: space :: train, congrArg (· + 1) hlength,
          .cons (decode_bit_eq_some.1 hone) htrain, rfl, rfl⟩
      case h_2 => cases h
    · rintro ⟨ones, train, hlength, htrain, rfl, rfl⟩
      cases htrain with
      | nil => cases hlength
      | @cons one ones pulse space train hone htrain =>
        rw [List.cons_append, List.cons_append, decode_bits, decode_bit_eq_some.2 hone]
        exact ih.2 ⟨ones, train, Nat.succ.inj hlength, htrain, rfl, rfl⟩

/-- The byte that the bits make up. -/
def byte_of_bits (ones : List Bool) : UInt8 :=
  ((List.range 8).zip ones).foldl (fun acc b => set_bit acc b.1 b.2) 0

theorem byte_of_bits_eq_iff {ones : List Bool} (h : ones.length = 8) {byte : UInt8} :
    byte = byte_of_bits ones ↔ ones = byte_bits byte := by
  constructor
  · rintro rfl
    have hall : ∀ a b c d e f g h : Bool,
        byte_bits (byte_of_bits [a, b, c, d, e, f, g, h]) = [a, b, c, d, e, f, g, h] := by
      decide +kernel
    match ones, h with
    | [a, b, c, d, e, f, g, h], _ => exact (hall a b c d e f g h).symm
  · rintro rfl
    have hall : ∀ b : BitVec 8, ⟨b⟩ = byte_of_bits (byte_bits ⟨b⟩) := by decide +kernel
    exact hall byte.toBitVec

theorem BitTrain.append {ones ones' : List Bool} {train train' : List UInt32}
    (h : BitTrain ones train) (h' : BitTrain ones' train') :
    BitTrain (ones ++ ones') (train ++ train') := by
  induction h with
  | nil => exact h'
  | cons hone _ ih => exact .cons hone ih

theorem BitTrain.split {ones ones' : List Bool} {train : List UInt32}
    (h : BitTrain (ones ++ ones') train) :
    ∃ front back, train = front ++ back ∧ BitTrain ones front ∧ BitTrain ones' back := by
  induction ones generalizing train with
  | nil => exact ⟨[], train, rfl, .nil, h⟩
  | cons one ones ih =>
    rw [List.cons_append] at h
    cases h with
    | @cons _ _ pulse space _ hone htrain =>
      obtain ⟨front, back, rfl, hfront, hback⟩ := ih htrain
      exact ⟨pulse :: space :: front, back, rfl, .cons hone hfront, hback⟩

theorem BitTrain.length_eq {ones : List Bool} {train : List UInt32} (h : BitTrain ones train) :
    train.length = 2 * ones.length := by
  induction h with
  | nil => rfl
  | cons _ _ ih =>
    simp only [List.length_cons, ih]
    omega

theorem decode_bytes_eq_some {count : ℕ} {durations : List UInt32} {bytes : List UInt8} :
    decode_bytes count durations = some bytes ↔ bytes.length = count ∧
      ∃ train rest, durations = train ++ rest ∧ BitTrain (bytes.flatMap byte_bits) train := by
  induction count generalizing durations bytes with
  | zero =>
    rw [decode_bytes]
    constructor
    · intro h
      obtain rfl := Option.some.inj h
      exact ⟨rfl, [], durations, rfl, .nil⟩
    · rintro ⟨h, -⟩
      rw [List.eq_nil_of_length_eq_zero h]
  | succ count ih =>
    rw [decode_bytes]
    constructor
    · intro h
      obtain ⟨⟨byte, rest⟩, hbits, h⟩ := Option.bind_eq_some_iff.1 h
      obtain ⟨bytes, hbytes, rfl⟩ := Option.map_eq_some_iff.1 h
      obtain ⟨ones, front, hlength, hfront, rfl, hbyte⟩ := decode_bits_eq_some.1 hbits
      obtain ⟨hcount, back, rest, rfl, hback⟩ := ih.1 hbytes
      obtain rfl := (byte_of_bits_eq_iff hlength).1 hbyte
      exact ⟨congrArg (· + 1) hcount, front ++ back, rest, (List.append_assoc ..).symm,
        hfront.append hback⟩
    · rintro ⟨hlength, train, rest, rfl, htrain⟩
      cases bytes with
      | nil => cases hlength
      | cons byte bytes =>
        rw [List.flatMap_cons] at htrain
        obtain ⟨front, back, rfl, hfront, hback⟩ := htrain.split
        have hbits : decode_bits (List.range 8) 0 (front ++ (back ++ rest)) =
            some (byte, back ++ rest) :=
          decode_bits_eq_some.2 ⟨byte_bits byte, front, by simp [byte_bits], hfront, rfl,
            (byte_of_bits_eq_iff (by simp [byte_bits])).2 rfl⟩
        rw [List.append_assoc, hbits, Option.bind_some]
        dsimp only
        rw [ih.2 ⟨Nat.succ.inj hlength, back, rest, rfl, hback⟩, Option.map_some]

theorem NecFrame.Tolerated.length_eq {f : NecFrame} {durations : List UInt32}
    (h : f.Tolerated durations) : durations.length = 2 + K_PACKET_BYTES * 16 + 1 := by
  obtain ⟨pulse, space, bits, last, rfl, -, -, hbits⟩ := h
  have hlength := hbits.length_eq
  simp only [NecFrame.bytes, List.flatMap_cons, List.flatMap_nil, List.length_append, byte_bits,
    List.length_map, List.length_range, List.length_nil] at hlength
  simp only [List.length_cons, List.length_append, List.length_nil, hlength, K_PACKET_BYTES]

theorem header_iff {pulse space : UInt32} :
    (approx pulse K_NEC_HDR_PULSE_US 2500 = true ∧ approx space K_NEC_HDR_SPACE_US 1800 = true) ↔
      (6500 ≤ pulse.toNat ∧ pulse.toNat ≤ 11500) ∧
        (2700 ≤ space.toNat ∧ space.toNat ≤ 6300) := by
  rw [approx_iff_range (by decide), approx_iff_range (by decide)]
  rfl

/-- The decoder finds at `start` the frame that is there. -/
theorem decode_nec_packet_from_eq_some {durations : List UInt32} {start : ℕ} {bytes : List UInt8} :
    decode_nec_packet_from durations start = some bytes ↔ ∃ f : NecFrame, bytes = f.bytes ∧
      ∃ front train back, front.length = start ∧ durations = front ++ (train ++ back) ∧
        f.Tolerated train := by
  constructor
  · intro h
    unfold decode_nec_packet_from at h
    split_ifs at h with hshort
    split at h
    case h_2 => cases h
    case h_1 pulse space rest hdrop =>
      split_ifs at h with hheader
      simp only [Bool.or_eq_true, Bool.not_eq_true', not_or, Bool.not_eq_false] at hheader
      obtain ⟨hcount, bits, back, rfl, hbits⟩ := decode_bytes_eq_some.1 h
      match bytes, hcount with
      | [addr, naddr, cmd, ncmd], _ =>
        have hlength : durations.length - start = bits.length + back.length + 2 := by
          rw [← List.length_drop, hdrop, List.length_cons, List.length_cons, List.length_append]
        have hbitslength : bits.length = 64 := hbits.length_eq
        match back, hlength with
        | [], hlength =>
          unfold K_PACKET_BYTES at hshort
          rw [List.length_nil] at hlength
          omega
        | last :: back, _ =>
          refine ⟨⟨addr, naddr, cmd, ncmd⟩, rfl, durations.take start,
            pulse :: space :: (bits ++ [last]), back, ?_, ?_,
            pulse, space, bits, last, rfl, (header_iff.1 hheader).1, (header_iff.1 hheader).2,
            hbits⟩
          · rw [List.length_take]
            omega
          · rw [List.cons_append, List.cons_append, List.append_assoc, List.singleton_append,
              ← hdrop, List.take_append_drop]
  · rintro ⟨f, rfl, front, train, back, rfl, rfl, htrain⟩
    have hlength := htrain.length_eq
    obtain ⟨pulse, space, bits, last, rfl, hpulse, hspace, hbits⟩ := htrain
    obtain ⟨hpulse, hspace⟩ := header_iff.2 ⟨hpulse, hspace⟩
    rw [decode_nec_packet_from, if_neg, List.drop_left]
    · dsimp only [List.cons_append]
      rw [hpulse, hspace, Bool.not_true, Bool.or_self, if_neg Bool.false_ne_true]
      exact decode_bytes_eq_some.2 ⟨rfl, bits, last :: back, by simp, hbits⟩
    · rw [List.length_append, List.length_append, hlength]
      omega

/-- The durations of a frame are decoded to its bytes. -/
theorem NecFrame.Tolerated.decode {f : NecFrame} {durations : List UInt32}
    (h : f.Tolerated durations) : decode_nec_packet durations = some f.bytes := by
  have hfrom : decode_nec_packet_from durations 0 = some f.bytes :=
    decode_nec_packet_from_eq_some.2 ⟨f, rfl, [], durations, [], rfl, by simp, h⟩
  have hrange : List.range (durations.length - 2) = 0 :: (List.range 64).map Nat.succ := by
    rw [h.length_eq]
    rfl
  rw [decode_nec_packet, hrange, List.findSome?_cons, hfrom]

/-- What the sender encodes is within the tolerances. -/
theorem tolerated_encode (f : NecFrame) : f.Tolerated (encode_nec_packet f.bytes) := by
  have hbits (byte : UInt8) (bits : List ℕ) :
      BitTrain (bits.map fun bit => decide (byte &&& 1 <<< UInt8.ofNat bit ≠ 0))
        (bits.flatMap (encode_bit byte)) := by
    induction bits with
    | nil => exact .nil
    | cons bit bits ih =>
      refine .cons ?_ ih
      dsimp only
      by_cases hone : byte &&& 1 <<< UInt8.ofNat bit ≠ 0
      · rw [if_pos hone, decide_eq_true hone]
        decide
      · rw [if_neg hone, decide_eq_false hone]
        decide
  have hbytes (bytes : List UInt8) : BitTrain (bytes.flatMap byte_bits)
      (bytes.flatMap fun byte => (List.range 8).flatMap (encode_bit byte)) := by
    induction bytes with
    | nil => exact .nil
    | cons byte bytes ih => exact (hbits byte _).append ih
  exact ⟨_, _, _, _, rfl, by decide, by decide, hbytes f.bytes⟩

/-- No part of the durations is a frame. -/
def Undecodable (durations : List UInt32) : Prop :=
  ∀ (f : NecFrame) (train : List UInt32), train <:+: durations → ¬ f.Tolerated train

theorem Undecodable.of_infix {durations part : List UInt32} (h : Undecodable durations)
    (hpart : part <:+: durations) : Undecodable part :=
  fun f train htrain => h f train (htrain.trans hpart)

theorem Undecodable.decode {durations : List UInt32} (h : Undecodable durations) :
    decode_nec_packet durations = none := by
  refine List.findSome?_eq_none_iff.2 fun start _ => ?_
  by_contra hsome
  obtain ⟨bytes, hbytes⟩ := Option.ne_none_iff_exists'.1 hsome
  obtain ⟨f, -, front, train, back, -, rfl, htrain⟩ := decode_nec_packet_from_eq_some.1 hbytes
  exact h f train ⟨front, back, List.append_assoc ..⟩ htrain

/-! ## Streams -/

/-- A report of a timeout or of an overflow, or a long space. -/
def IsSeparator (word : UInt32) : Prop :=
  word &&& LIRC_MODE2_MASK = LIRC_MODE2_TIMEOUT ∨ word &&& LIRC_MODE2_MASK = LIRC_MODE2_OVERFLOW ∨
    word &&& LIRC_MODE2_MASK = LIRC_MODE2_SPACE ∧ 12000 < word &&& LIRC_VALUE_MASK

/-- The duration of a pulse or a space. -/
def duration (word : UInt32) : Option UInt32 :=
  if word &&& LIRC_MODE2_MASK = LIRC_MODE2_SPACE ∨ word &&& LIRC_MODE2_MASK = LIRC_MODE2_PULSE then
    some (word &&& LIRC_VALUE_MASK)
  else none

/-- Words with no separator among them that are a frame, or have no frame in them. -/
def Burst (words : List UInt32) (content : Option NecFrame) : Prop :=
  (∀ word ∈ words, ¬ IsSeparator word) ∧
    match content with
    | some f => f.Tolerated (words.filterMap duration)
    | none => Undecodable (words.filterMap duration)

/-- A sequence of bursts with separators between them, and the contents of the bursts. -/
inductive Bursts : List UInt32 → List (Option NecFrame) → Prop
  | last {words : List UInt32} {content : Option NecFrame} :
    Burst words content → Bursts words [content]
  | cons {words rest : List UInt32} {content : Option NecFrame} {contents : List (Option NecFrame)}
      {separator : UInt32} :
    Burst words content → IsSeparator separator → Bursts rest contents →
      Bursts (words ++ separator :: rest) (content :: contents)

/-! ## What a receiver stores -/

/-- The receiver has nothing stored, or what it would store of some frame. -/
def Settled (r : IrReceiveSnapshot) : Prop :=
  r.data = [] ∨ ∃ f : NecFrame, SameReceiver (r.store f.packet "") r

theorem SameReceiver.trans {r s t : IrReceiveSnapshot} (h : SameReceiver r s)
    (h' : SameReceiver s t) : SameReceiver r t := by
  unfold SameReceiver at *
  simp_all only [and_self]

theorem SameReceiver.symm {r s : IrReceiveSnapshot} (h : SameReceiver r s) : SameReceiver s r := by
  unfold SameReceiver at *
  simp_all only [and_self]

theorem Settled.congr {r s : IrReceiveSnapshot} (h : Settled r) (hrs : SameReceiver r s) :
    Settled s := by
  rcases h with h | ⟨f, h⟩
  · exact .inl (hrs.1 ▸ h)
  · have hstore := (SameReceiver.store hrs f.packet "" "").1
    exact .inr ⟨f, (hstore.symm.trans h).trans hrs⟩

theorem settled_store (r : IrReceiveSnapshot) (f : NecFrame) (raw : String) :
    Settled (r.store f.packet raw) :=
  .inr ⟨f, rfl, rfl, rfl, rfl, rfl, rfl, rfl⟩

theorem bytes_injective {f g : NecFrame} (h : f.bytes = g.bytes) : f = g := by
  cases f
  cases g
  simpa [NecFrame.bytes] using h

/-- A settled receiver notes a change exactly if the bytes are different. -/
theorem Settled.store_changed {r : IrReceiveSnapshot} (h : Settled r) (f : NecFrame)
    (raw : String) : (r.store f.packet raw).data_changed = true ↔ r.data ≠ f.bytes := by
  have hdata : f.packet.data = f.bytes := rfl
  by_cases hsame : r.data = f.bytes
  · rcases h with h | ⟨g, hg⟩
    · rw [h] at hsame
      cases hsame
    · obtain rfl : g = f := bytes_injective (hg.1.trans hsame)
      obtain ⟨hd, ha, hc, hp, hm, -, -⟩ := hg
      simp only [IrReceiveSnapshot.store] at hd ha hc hp hm ⊢
      rw [hm]
      simp [hd, ha, hc, hp, hsame]
  · simp [IrReceiveSnapshot.store, hdata, hsame, Ne.symm hsame]

/-! ## Reading a stream -/

namespace IrReceiverSession

theorem read_word_separator {s : IrReceiverSession} (hmode : s.mode2 = true) {word : UInt32}
    (h : IsSeparator word) : s.read_word word = s.end_train := by
  unfold read_word IsSeparator at *
  dsimp only
  rw [if_pos hmode]
  by_cases hreport : word &&& LIRC_MODE2_MASK = LIRC_MODE2_TIMEOUT ∨
      word &&& LIRC_MODE2_MASK = LIRC_MODE2_OVERFLOW
  · rw [if_pos hreport]
  · have hspace := (or_assoc.2 h).resolve_left hreport
    rw [if_neg hreport, if_pos (.inl hspace.1), if_pos hspace]

/-- A word of a burst: its duration, if it has one, goes into the buffer. -/
theorem read_word_burst {s : IrReceiverSession} (hmode : s.mode2 = true) {word : UInt32}
    (h : ¬ IsSeparator word) : s.read_word word = check_buffer { s with
      pulse_space_buffer := s.pulse_space_buffer ++ (duration word).toList } := by
  unfold read_word IsSeparator duration at *
  dsimp only
  rw [← or_assoc] at h
  push Not at h
  rw [if_pos hmode, if_neg (not_or.2 h.1)]
  by_cases hvalue : word &&& LIRC_MODE2_MASK = LIRC_MODE2_SPACE ∨
      word &&& LIRC_MODE2_MASK = LIRC_MODE2_PULSE
  · rw [if_pos hvalue, if_neg (not_and.2 h.2), if_pos hvalue]
    rfl
  · rw [if_neg hvalue, if_neg hvalue, Option.toList_none, List.append_nil]

/-- The session has only heard noise. -/
structure Noise (s t : IrReceiverSession) : Prop where
  mode2 : t.mode2 = s.mode2
  pending_receives : t.pending_receives = s.pending_receives
  receive_state : SameReceiver s.receive_state t.receive_state

theorem Noise.refl (s : IrReceiverSession) : Noise s s :=
  ⟨rfl, rfl, rfl, rfl, rfl, rfl, rfl, rfl, rfl⟩

theorem Noise.trans {s t u : IrReceiverSession} (h : Noise s t) (h' : Noise t u) : Noise s u :=
  ⟨h'.mode2.trans h.mode2, h'.pending_receives.trans h.pending_receives,
    h.receive_state.trans h'.receive_state⟩

theorem noise_flush {s : IrReceiverSession} (h : decode_nec_packet s.pulse_space_buffer = none) :
    Noise s s.flush.1 := by
  have hfinalize (r : IrReceiveSnapshot) : finalize_receive r s.pulse_space_buffer = { r with
      signal_seen := true
      raw_summary := summarize_raw s.pulse_space_buffer
      data_changed := false
      message := "IR signal received (raw)" } := by
    rw [finalize_receive, h]
    rfl
  unfold flush receive
  simp only [hfinalize, Bool.false_eq_true, if_false]
  exact ⟨rfl, rfl, rfl, rfl, rfl, rfl, rfl, rfl, rfl⟩

theorem flush_buffer (s : IrReceiverSession) : s.flush.1.pulse_space_buffer = [] := rfl

theorem end_train_noise {s : IrReceiverSession}
    (h : decode_nec_packet s.pulse_space_buffer = none) :
    Noise s s.end_train.1 ∧ s.end_train.1.pulse_space_buffer = [] := by
  unfold end_train
  by_cases hbuffer : s.pulse_space_buffer = []
  · rw [if_neg (not_not.2 hbuffer)]
    exact ⟨Noise.refl s, hbuffer⟩
  · rw [if_pos hbuffer]
    exact ⟨noise_flush h, s.flush_buffer⟩

theorem check_buffer_noise {s : IrReceiverSession}
    (h : decode_nec_packet s.pulse_space_buffer = none) :
    Noise s s.check_buffer.1 ∧ (s.check_buffer.1.pulse_space_buffer = s.pulse_space_buffer ∨
      s.check_buffer.1.pulse_space_buffer = []) := by
  unfold check_buffer
  rw [if_neg (by simp [h])]
  dsimp only
  by_cases hlong : 160 < s.pulse_space_buffer.length
  · rw [if_pos hlong]
    exact ⟨noise_flush h, .inr s.flush_buffer⟩
  · rw [if_neg hlong]
    exact ⟨Noise.refl s, .inl rfl⟩

/-- A buffer that is too short for a frame is left alone. -/
theorem check_buffer_short {s : IrReceiverSession}
    (h : s.pulse_space_buffer.length < 2 + K_PACKET_BYTES * 16 + 1) : s.check_buffer = (s, []) := by
  have hlong : ¬ 160 < s.pulse_space_buffer.length := by
    unfold K_PACKET_BYTES at h
    omega
  unfold check_buffer
  rw [if_neg fun hfull => absurd hfull.1 (not_le.2 h)]
  dsimp only
  rw [if_neg hlong]

/-- Noise is read, wherever the buffer is cut. -/
theorem read_noise {s : IrReceiverSession} (hmode : s.mode2 = true) {words : List UInt32}
    (hwords : ∀ word ∈ words, ¬ IsSeparator word)
    (h : Undecodable (s.pulse_space_buffer ++ words.filterMap duration)) :
    Noise s (read_each read_word s words).1 ∧
      decode_nec_packet (read_each read_word s words).1.pulse_space_buffer = none := by
  induction words generalizing s with
  | nil => exact ⟨Noise.refl s, (h.of_infix (List.prefix_append _ _).isInfix).decode⟩
  | cons word words ih =>
    rw [List.forall_mem_cons] at hwords
    obtain ⟨s', hs'⟩ : ∃ s', s' = { s with
      pulse_space_buffer := s.pulse_space_buffer ++ (duration word).toList } := ⟨_, rfl⟩
    have hbuffer : s'.pulse_space_buffer = s.pulse_space_buffer ++ (duration word).toList := by
      rw [hs']
    have hrest : Undecodable (s'.pulse_space_buffer ++ words.filterMap duration) := by
      rw [hbuffer]
      cases hduration : duration word with
      | none =>
        rw [List.filterMap_cons_none hduration] at h
        rwa [Option.toList_none, List.append_nil]
      | some value =>
        rw [List.filterMap_cons_some hduration] at h
        rwa [Option.toList_some, List.append_assoc, List.singleton_append]
    obtain ⟨hnoise, hcut⟩ :=
      check_buffer_noise (hrest.of_infix (List.prefix_append _ _).isInfix).decode
    have hread : s.read_word word = s'.check_buffer := by
      rw [read_word_burst hmode hwords.1, hs']
    have hstart : Noise s s'.check_buffer.1 := by
      have hsame : Noise s s' := by
        rw [hs']
        exact ⟨rfl, rfl, rfl, rfl, rfl, rfl, rfl, rfl, rfl⟩
      exact hsame.trans hnoise
    have hundecodable : Undecodable
        (s'.check_buffer.1.pulse_space_buffer ++ words.filterMap duration) := by
      rcases hcut with hcut | hcut <;> rw [hcut]
      · exact hrest
      · exact hrest.of_infix (List.suffix_append _ _).isInfix
    obtain ⟨hreads, hdecode⟩ := ih (hstart.mode2.trans hmode) hwords.2 hundecodable
    unfold read_each
    dsimp only
    rw [hread]
    exact ⟨hstart.trans hreads, hdecode⟩

/-- The session has heard a burst: what it queued is the frame, if the bytes are new. -/
structure Hears (s t : IrReceiverSession) (content : Option NecFrame) : Prop where
  mode2 : t.mode2 = s.mode2
  settled : Settled t.receive_state
  data : t.receive_state.data = (content.map NecFrame.bytes).getD s.receive_state.data
  queued : ∃ new, t.pending_receives = s.pending_receives ++ new ∧
    (∀ r ∈ new, r.data_changed = true) ∧
    new.map (·.data) = (content.map NecFrame.bytes).toList.filter (· ≠ s.receive_state.data)

theorem Noise.hears {s t : IrReceiverSession} (h : Noise s t) (hs : Settled s.receive_state) :
    Hears s t none where
  mode2 := h.mode2
  settled := hs.congr h.receive_state
  data := h.receive_state.1.symm
  queued := ⟨[], by rw [h.pending_receives, List.append_nil], by simp, rfl⟩

theorem Hears.noise {s t u : IrReceiverSession} {content : Option NecFrame} (h : Hears s t content)
    (htu : Noise t u) : Hears s u content where
  mode2 := htu.mode2.trans h.mode2
  settled := h.settled.congr htu.receive_state
  data := htu.receive_state.1.symm.trans h.data
  queued := by
    rw [htu.pending_receives]
    exact h.queued

theorem hears_flush {s : IrReceiverSession} (hs : Settled s.receive_state) {f : NecFrame}
    (hf : f.Tolerated s.pulse_space_buffer) : Hears s s.flush.1 (some f) := by
  have hfinalize (r : IrReceiveSnapshot) : finalize_receive r s.pulse_space_buffer =
      r.store f.packet (summarize_raw s.pulse_space_buffer) := by
    rw [finalize_receive, hf.decode, Option.bind_some, parse_nec_bytes_frame]
  have hcleared : Settled { s.receive_state with data_changed := false } :=
    hs.congr ⟨rfl, rfl, rfl, rfl, rfl, rfl, rfl⟩
  have hchanged := hcleared.store_changed f (summarize_raw s.pulse_space_buffer)
  have hdata : f.packet.data = f.bytes := rfl
  unfold flush receive
  simp only [hfinalize]
  by_cases hsame : s.receive_state.data = f.bytes
  · rw [if_neg fun h => hchanged.1 h hsame]
    exact ⟨rfl, settled_store _ _ _, hdata, [], by simp, by simp, by simp [hsame]⟩
  · rw [if_pos (hchanged.2 hsame)]
    exact ⟨rfl, settled_store _ _ _, hdata, [_], rfl, by simpa using hchanged.2 hsame,
      by simp [IrReceiveSnapshot.store, hdata, Ne.symm hsame]⟩

/-- Words with no duration leave an empty buffer alone. -/
theorem read_idle {s : IrReceiverSession} (hmode : s.mode2 = true)
    (hbuffer : s.pulse_space_buffer = []) {words : List UInt32}
    (hwords : ∀ word ∈ words, ¬ IsSeparator word) (h : words.filterMap duration = []) :
    (read_each read_word s words).1 = s := by
  induction words with
  | nil => rfl
  | cons word words ih =>
    rw [List.forall_mem_cons] at hwords
    have hnone : duration word = none := by
      cases hduration : duration word with
      | none => rfl
      | some value =>
        rw [List.filterMap_cons_some hduration] at h
        cases h
    rw [List.filterMap_cons_none hnone] at h
    have hread : s.read_word word = (s, []) := by
      rw [read_word_burst hmode hwords.1, hnone, Option.toList_none, List.append_nil]
      exact check_buffer_short (by rw [hbuffer]; decide)
    unfold read_each
    dsimp only
    rw [hread]
    exact ih hwords.2 h

/-- A frame is received at its last duration. -/
theorem read_frame {s : IrReceiverSession} (hmode : s.mode2 = true)
    (hs : Settled s.receive_state) {words : List UInt32}
    (hwords : ∀ word ∈ words, ¬ IsSeparator word) {f : NecFrame}
    (hf : f.Tolerated (s.pulse_space_buffer ++ words.filterMap duration))
    (hshort : s.pulse_space_buffer.length < 2 + K_PACKET_BYTES * 16 + 1) :
    Hears s (read_each read_word s words).1 (some f) ∧
      (read_each read_word s words).1.pulse_space_buffer = [] := by
  induction words generalizing s with
  | nil =>
    have hlength := hf.length_eq
    rw [List.filterMap_nil, List.append_nil] at hlength
    exact absurd hlength hshort.ne
  | cons word words ih =>
    rw [List.forall_mem_cons] at hwords
    have hread := read_word_burst hmode hwords.1
    unfold read_each
    dsimp only
    rw [hread]
    cases hduration : duration word with
    | none =>
      rw [List.filterMap_cons_none hduration] at hf
      rw [Option.toList_none, List.append_nil, check_buffer_short hshort]
      exact ih hmode hs hwords.2 hf hshort
    | some value =>
      rw [List.filterMap_cons_some hduration, List.append_cons] at hf
      rw [Option.toList_some]
      by_cases hfull : s.pulse_space_buffer.length + 1 < 2 + K_PACKET_BYTES * 16 + 1
      · have hlength : (s.pulse_space_buffer ++ [value]).length < 2 + K_PACKET_BYTES * 16 + 1 := by
          rwa [List.length_append, List.length_singleton]
        rw [check_buffer_short hlength]
        obtain ⟨hhears, hempty⟩ :=
          @ih { s with pulse_space_buffer := s.pulse_space_buffer ++ [value] } hmode hs hwords.2 hf
            hlength
        exact ⟨⟨hhears.mode2, hhears.settled, hhears.data, hhears.queued⟩, hempty⟩
      · have hlength := hf.length_eq
        rw [List.length_append, List.length_append, List.length_singleton] at hlength
        have hrest : words.filterMap duration = [] :=
          List.eq_nil_of_length_eq_zero (by omega)
        rw [hrest, List.append_nil] at hf
        obtain ⟨s', hs'⟩ : ∃ s', s' = { s with
          pulse_space_buffer := s.pulse_space_buffer ++ [value] } := ⟨_, rfl⟩
        have hbuffer : f.Tolerated s'.pulse_space_buffer := by
          rw [hs']
          exact hf
        have hcheck : s'.check_buffer.1 = s'.flush.1 := by
          unfold check_buffer
          rw [if_pos ⟨hbuffer.length_eq.ge, by rw [hbuffer.decode]; rfl⟩]
          dsimp only
          rw [if_neg (by rw [flush_buffer]; decide)]
        have hhears : Hears s' s'.flush.1 (some f) :=
          hears_flush (by rw [hs']; exact hs) hbuffer
        rw [← hs', hcheck, read_idle (hhears.mode2.trans (by rw [hs']; exact hmode))
          s'.flush_buffer hwords.2 hrest]
        rw [hs'] at hhears ⊢
        exact ⟨⟨hhears.mode2, hhears.settled, hhears.data, hhears.queued⟩, flush_buffer _⟩

theorem read_burst {s : IrReceiverSession} (hmode : s.mode2 = true)
    (hbuffer : s.pulse_space_buffer = []) (hs : Settled s.receive_state) {words : List UInt32}
    {content : Option NecFrame} (h : Burst words content) :
    Hears s (read_each read_word s words).1 content ∧
      decode_nec_packet (read_each read_word s words).1.pulse_space_buffer = none := by
  obtain ⟨hwords, hcontent⟩ := h
  cases content with
  | none =>
    obtain ⟨hnoise, hdecode⟩ := read_noise hmode hwords (by rwa [hbuffer])
    exact ⟨hnoise.hears hs, hdecode⟩
  | some f =>
    obtain ⟨hhears, hempty⟩ :=
      read_frame hmode hs hwords (by rwa [hbuffer]) (by rw [hbuffer]; decide)
    exact ⟨hhears, by rw [hempty]; rfl⟩

theorem read_each_append {α : Type} (read : IrReceiverSession → α → IrReceiverSession × List Obs)
    (s : IrReceiverSession) (xs ys : List α) :
    (read_each read s (xs ++ ys)).1 = (read_each read (read_each read s xs).1 ys).1 := by
  induction xs generalizing s with
  | nil => rfl
  | cons x xs ih => exact ih _

/-- Of a sequence of bursts the frames are queued, but for immediate repetitions. -/
theorem read_bursts {stream : List UInt32} {contents : List (Option NecFrame)}
    (h : Bursts stream contents) {s : IrReceiverSession} (hmode : s.mode2 = true)
    (hbuffer : s.pulse_space_buffer = []) (hs : Settled s.receive_state) :
    ∃ new, (read_each read_word s stream).1.pending_receives = s.pending_receives ++ new ∧
      (∀ r ∈ new, r.data_changed = true) ∧
      s.receive_state.data :: new.map (·.data) =
        (contents.reduceOption.map NecFrame.bytes).destutter' (· ≠ ·) s.receive_state.data := by
  induction h generalizing s with
  | @last words content hburst =>
    obtain ⟨⟨-, -, -, new, hpending, hchanged, hdata⟩, -⟩ := read_burst hmode hbuffer hs hburst
    refine ⟨new, hpending, hchanged, ?_⟩
    rw [hdata]
    cases content with
    | none => rfl
    | some f =>
      by_cases hsame : s.receive_state.data = f.bytes
      · simp [List.reduceOption, hsame]
      · simp [List.reduceOption, hsame, Ne.symm hsame]
  | @cons words rest content contents separator hburst hseparator _ ih =>
    obtain ⟨hhears, hdecode⟩ := read_burst hmode hbuffer hs hburst
    rw [read_each_append]
    generalize (read_each read_word s words).1 = t at hhears hdecode
    unfold read_each
    dsimp only
    rw [read_word_separator (hhears.mode2.trans hmode) hseparator]
    obtain ⟨hnoise, hempty⟩ := end_train_noise hdecode
    obtain ⟨hmode', hsettled, hdata, new, hpending, hchanged, hnew⟩ := hhears.noise hnoise
    obtain ⟨new', hpending', hchanged', hnew'⟩ := ih (hmode'.trans hmode) hempty hsettled
    refine ⟨new ++ new', by rw [hpending', hpending, List.append_assoc],
      fun r hr => (List.mem_append.1 hr).elim (hchanged r) (hchanged' r), ?_⟩
    rw [List.map_append, hnew]
    rw [hdata] at hnew'
    cases content with
    | none => exact hnew'
    | some f =>
      rw [Option.map_some, Option.getD_some] at hnew'
      rw [List.reduceOption_cons_of_some, List.map_cons, Option.map_some, Option.toList_some]
      by_cases hsame : s.receive_state.data = f.bytes
      · rw [List.destutter'_cons_neg _ (not_not.2 hsame), hsame]
        simpa using hnew'
      · rw [List.destutter'_cons_pos _ hsame, ← hnew']
        simp [Ne.symm hsame]

/-! ## Delivering -/

/-- The session with another snapshot and with more to deliver first. -/
def before (s : IrReceiverSession) (snapshot : IrReceiveSnapshot)
    (first : List IrReceiveSnapshot) : IrReceiverSession :=
  { s with snapshot, pending_receives := first ++ s.pending_receives }

section Before

variable (s : IrReceiverSession) (snapshot : IrReceiveSnapshot) (first : List IrReceiveSnapshot)

theorem flush_before : (s.before snapshot first).flush.1 = s.flush.1.before snapshot first := by
  unfold flush receive before
  dsimp only
  split_ifs
  · simp only [List.append_assoc]
  · rfl

theorem check_buffer_before :
    (s.before snapshot first).check_buffer.1 = s.check_buffer.1.before snapshot first := by
  have hlong (t : IrReceiverSession) (seen seen' : List Obs) :
      (if 160 < (t.before snapshot first).pulse_space_buffer.length then
        ((t.before snapshot first).flush.1, seen ++ (t.before snapshot first).flush.2)
      else (t.before snapshot first, seen)).1 =
        (if 160 < t.pulse_space_buffer.length then (t.flush.1, seen' ++ t.flush.2)
        else (t, seen')).1.before snapshot first := by
    have hbuffer : (t.before snapshot first).pulse_space_buffer = t.pulse_space_buffer := rfl
    rw [hbuffer]
    split_ifs
    · exact t.flush_before snapshot first
    · rfl
  have hbuffer : (s.before snapshot first).pulse_space_buffer = s.pulse_space_buffer := rfl
  unfold check_buffer
  rw [hbuffer]
  split_ifs
  · have hflush := hlong s.flush.1 (s.before snapshot first).flush.2 s.flush.2
    rw [← flush_before] at hflush
    exact hflush
  · exact hlong s [] []

theorem read_word_before (word : UInt32) :
    ((s.before snapshot first).read_word word).1 = (s.read_word word).1.before snapshot first := by
  have hmode : (s.before snapshot first).mode2 = s.mode2 := rfl
  have hend : (s.before snapshot first).end_train.1 = s.end_train.1.before snapshot first := by
    have hbuffer : (s.before snapshot first).pulse_space_buffer = s.pulse_space_buffer := rfl
    unfold end_train
    rw [hbuffer]
    split_ifs
    · exact s.flush_before snapshot first
    · rfl
  have happend (value : UInt32) :=
    check_buffer_before { s with pulse_space_buffer := s.pulse_space_buffer ++ [value] } snapshot
      first
  unfold read_word
  rw [hmode]
  dsimp only
  split_ifs
  · exact hend
  · exact hend
  · exact happend _
  · exact s.check_buffer_before snapshot first
  · exact happend _

/-- What is read does not depend on what is still to be delivered. -/
theorem read_each_before (words : List UInt32) :
    (read_each read_word (s.before snapshot first) words).1 =
      (read_each read_word s words).1.before snapshot first := by
  induction words generalizing s with
  | nil => rfl
  | cons word words ih =>
    unfold read_each
    dsimp only
    rw [read_word_before]
    exact ih _

end Before

/-- What reading leaves alone: the device, its mode, the snapshot, and a queue of changes. -/
structure Keeps (s t : IrReceiverSession) : Prop where
  fd : t.fd = s.fd
  mode2 : t.mode2 = s.mode2
  scancode_mode : t.scancode_mode = s.scancode_mode
  queue : (∀ r ∈ s.pending_receives, r.data_changed = true) →
    ∀ r ∈ t.pending_receives, r.data_changed = true

theorem Keeps.refl (s : IrReceiverSession) : Keeps s s := ⟨rfl, rfl, rfl, id⟩

theorem Keeps.trans {s t u : IrReceiverSession} (h : Keeps s t) (h' : Keeps t u) : Keeps s u :=
  ⟨h'.fd.trans h.fd, h'.mode2.trans h.mode2, h'.scancode_mode.trans h.scancode_mode,
    fun hq => h'.queue (h.queue hq)⟩

theorem keeps_flush (s : IrReceiverSession) : Keeps s s.flush.1 := by
  unfold flush receive
  dsimp only
  split_ifs with hchanged
  · refine ⟨rfl, rfl, rfl, fun hq r hr => ?_⟩
    rcases List.mem_append.1 hr with hr | hr
    · exact hq r hr
    · obtain rfl := List.mem_singleton.1 hr
      exact hchanged
  · exact ⟨rfl, rfl, rfl, id⟩

theorem keeps_check_buffer (s : IrReceiverSession) : Keeps s s.check_buffer.1 := by
  have hlong (t : IrReceiverSession) (seen : List Obs) (h : Keeps s t) :
      Keeps s (if 160 < t.pulse_space_buffer.length then (t.flush.1, seen ++ t.flush.2)
        else (t, seen)).1 := by
    split_ifs
    · exact h.trans t.keeps_flush
    · exact h
  unfold check_buffer
  split_ifs
  · exact hlong _ _ s.keeps_flush
  · exact hlong _ _ (Keeps.refl s)

theorem keeps_read_word (s : IrReceiverSession) (word : UInt32) :
    Keeps s (s.read_word word).1 := by
  have hend : Keeps s s.end_train.1 := by
    unfold end_train
    split_ifs
    · exact s.keeps_flush
    · exact Keeps.refl s
  have happend (value : UInt32) : Keeps s
      (check_buffer { s with pulse_space_buffer := s.pulse_space_buffer ++ [value] }).1 := by
    obtain ⟨hfd, hmode, hscancode, hqueue⟩ := keeps_check_buffer
      { s with pulse_space_buffer := s.pulse_space_buffer ++ [value] }
    exact ⟨hfd, hmode, hscancode, hqueue⟩
  unfold read_word
  dsimp only
  split_ifs
  · exact hend
  · exact hend
  · exact happend _
  · exact s.keeps_check_buffer
  · exact happend _

theorem keeps_read_each (s : IrReceiverSession) (words : List UInt32) :
    Keeps s (read_each read_word s words).1 := by
  induction words generalizing s with
  | nil => exact Keeps.refl s
  | cons word words ih => exact (s.keeps_read_word word).trans (ih _)

/-- The session is open in mode2, and what is queued has changed data. -/
structure OpenedMode2 (s : IrReceiverSession) : Prop where
  fd : s.fd = true
  mode2 : s.mode2 = true
  scancode_mode : s.scancode_mode = false
  queue : ∀ r ∈ s.pending_receives, r.data_changed = true

theorem OpenedMode2.read {s : IrReceiverSession} (h : OpenedMode2 s) (words : List UInt32) :
    OpenedMode2 (read_each read_word s words).1 :=
  have hkeeps := s.keeps_read_each words
  ⟨hkeeps.fd.trans h.fd, hkeeps.mode2.trans h.mode2, hkeeps.scancode_mode.trans h.scancode_mode,
    hkeeps.queue h.queue⟩

/-- The polls of a session, and the snapshots that they return. -/
def polls (s : IrReceiverSession) : List Reading → IrReceiverSession × List IrReceiveSnapshot
  | [] => (s, [])
  | reading :: readings =>
    let s := (s.poll reading).1
    let (t, more) := polls s readings
    (t, s.snapshot :: more)

/-- The snapshots with `data_changed = true` that the polls return. -/
def changes (s : IrReceiverSession) (readings : List Reading) : List IrReceiveSnapshot :=
  (s.polls readings).2.filter (·.data_changed)

theorem polls_append (s : IrReceiverSession) (readings more : List Reading) :
    (s.polls (readings ++ more)).1 = ((s.polls readings).1.polls more).1 := by
  induction readings generalizing s with
  | nil => rfl
  | cons reading readings ih => exact ih _

/-- A poll that reads without an error returns the first change that is queued, if there is
one. -/
theorem poll_opened {s : IrReceiverSession} (h : OpenedMode2 s) {reading : Reading}
    (hreading : reading.error = none) {t : IrReceiverSession}
    (ht : t = (read_each read_word s reading.words.flatten).1) :
    t.pending_receives = [] ∧
        (s.poll reading).1 = t.before { s.snapshot with data_changed := false } [] ∨
      ∃ r rest, t.pending_receives = r :: rest ∧
        (s.poll reading).1 = { t with snapshot := r, pending_receives := rest } := by
  have hread : (read_each read_word { s with snapshot.data_changed := false }
      reading.words.flatten).1 = t.before { s.snapshot with data_changed := false } [] := by
    rw [ht]
    exact s.read_each_before { s.snapshot with data_changed := false } [] _
  have hpoll : (s.poll reading).1 =
      (t.before { s.snapshot with data_changed := false } []).deliver.1 := by
    unfold poll
    dsimp only
    rw [hreading, if_neg (by rw [h.fd]; decide)]
    unfold read_device
    rw [if_neg (by rw [h.scancode_mode]; decide)]
    exact congrArg (fun u => u.deliver.1) hread
  rw [hpoll]
  cases hpending : t.pending_receives with
  | nil =>
    refine .inl ⟨rfl, ?_⟩
    simp only [deliver, before, hpending, List.nil_append]
  | cons r rest =>
    refine .inr ⟨r, rest, rfl, ?_⟩
    simp only [deliver, before, hpending, List.nil_append]

end IrReceiverSession

open IrReceiverSession

/-- The words that the readings get, one after the other. -/
def stream (readings : List Reading) : List UInt32 := readings.flatMap (·.words.flatten)

/-- No read fails. -/
def NeverFail (readings : List Reading) : Prop := ∀ reading ∈ readings, reading.error = none

namespace IrReceiverSession

/-- The changes that the polls return and those that are still queued are those of the stream. -/
theorem changes_polls {s : IrReceiverSession} (h : OpenedMode2 s) {readings : List Reading}
    (hreadings : NeverFail readings) :
    OpenedMode2 (s.polls readings).1 ∧
      s.changes readings ++ (s.polls readings).1.pending_receives =
        (read_each read_word s (stream readings)).1.pending_receives := by
  induction readings generalizing s with
  | nil => exact ⟨h, rfl⟩
  | cons reading readings ih =>
    obtain ⟨hreading, hreadings⟩ := List.forall_mem_cons.1 hreadings
    obtain ⟨t, ht⟩ : ∃ t, t = (read_each read_word s reading.words.flatten).1 := ⟨_, rfl⟩
    have htopened : OpenedMode2 t := ht ▸ h.read _
    have hstream : (read_each read_word s (stream (reading :: readings))).1 =
        (read_each read_word t (stream readings)).1 := by
      rw [stream, List.flatMap_cons, read_each_append, ← ht]
      rfl
    rw [hstream]
    unfold changes polls
    dsimp only
    rcases poll_opened h hreading ht with ⟨hpending, hpoll⟩ | ⟨r, rest, hpending, hpoll⟩
    · have hopened : OpenedMode2 (t.before { s.snapshot with data_changed := false } []) :=
        ⟨htopened.fd, htopened.mode2, htopened.scancode_mode, htopened.queue⟩
      obtain ⟨hfinal, hchanges⟩ := ih hopened hreadings
      rw [hpoll, List.filter_cons_of_neg (by simp [before])]
      rw [read_each_before] at hchanges
      exact ⟨hfinal, hchanges⟩
    · have hmem : r ∈ t.pending_receives := by
        rw [hpending]
        exact List.mem_cons_self
      have hopened : OpenedMode2 { t with snapshot := r, pending_receives := rest } :=
        ⟨htopened.fd, htopened.mode2, htopened.scancode_mode, fun r' hr' =>
          htopened.queue r' (by rw [hpending]; exact List.mem_cons_of_mem _ hr')⟩
      obtain ⟨hfinal, hchanges⟩ := ih hopened hreadings
      have hbefore :
          t = before { t with snapshot := r, pending_receives := rest } t.snapshot [r] := by
        simp only [before, List.singleton_append, ← hpending]
      rw [hpoll, List.filter_cons_of_pos (htopened.queue r hmem)]
      refine ⟨hfinal, ?_⟩
      conv_rhs => rw [hbefore, read_each_before]
      exact congrArg (r :: ·) hchanges

/-- Polls that find nothing to read deliver what is queued. -/
theorem polls_quiet {s : IrReceiverSession} (h : OpenedMode2 s) (n : ℕ) :
    (s.polls (List.replicate n {})).1.pending_receives = s.pending_receives.drop n := by
  induction n generalizing s with
  | zero => rfl
  | succ n ih =>
    rw [List.replicate_succ]
    unfold polls
    dsimp only
    rcases @poll_opened s h {} rfl s rfl with ⟨hpending, hpoll⟩ | ⟨r, rest, hpending, hpoll⟩
    · have hopened : OpenedMode2 (s.before { s.snapshot with data_changed := false } []) :=
        ⟨h.fd, h.mode2, h.scancode_mode, h.queue⟩
      have hbefore : (s.before { s.snapshot with data_changed := false } []).pending_receives =
          s.pending_receives := rfl
      rw [hpoll, ih hopened, hbefore, hpending, List.drop_nil, List.drop_nil]
    · have hopened : OpenedMode2 { s with snapshot := r, pending_receives := rest } :=
        ⟨h.fd, h.mode2, h.scancode_mode, fun r' hr' =>
          h.queue r' (by rw [hpending]; exact List.mem_cons_of_mem _ hr')⟩
      rw [hpoll, ih hopened, hpending, List.drop_succ_cons]

end IrReceiverSession

/-- Nothing is lost, repeated or reordered between the words and the polls. -/
structure Lossless (s : IrReceiverSession) : Prop where
  /-- Polls after the end of the stream deliver all of it. -/
  drains : ∀ readings, NeverFail readings →
    ∃ n, (s.polls (readings ++ List.replicate n ({} : Reading))).1.pending_receives = []
  /-- Once all is delivered, it does not matter how the stream was split. -/
  splitting : ∀ readings readings', NeverFail readings → NeverFail readings' →
    stream readings = stream readings' → (s.polls readings).1.pending_receives = [] →
    (s.polls readings').1.pending_receives = [] → s.changes readings = s.changes readings'
  /-- Of bursts the frames are delivered, but for immediate repetitions. -/
  frames : ∀ readings contents, NeverFail readings → Bursts (stream readings) contents →
    (s.polls readings).1.pending_receives = [] →
    (s.changes readings).map (·.data) =
      (contents.reduceOption.map NecFrame.bytes).destutter (· ≠ ·)

/-- A session that a start opened in mode2 is fresh. -/
theorem start_opened {s : IrReceiverSession} (hclosed : s.fd = false) {info : IrDeviceInfo}
    {device : Opening} {address : UInt16} {filter : Bool}
    (hfd : (s.start info device address filter).1.fd = true) :
    (s.start info device address filter).1.pulse_space_buffer = [] ∧
      (s.start info device address filter).1.pending_receives = [] ∧
      (s.start info device address filter).1.receive_state.data = [] := by
  have hmode (t : IrReceiverSession) : (t.set_rec_mode info device).1.pending_receives =
      t.pending_receives ∧ (t.set_rec_mode info device).1.receive_state = t.receive_state := by
    unfold set_rec_mode
    dsimp only
    split_ifs <;> exact ⟨rfl, rfl⟩
  unfold start at hfd ⊢
  rw [if_neg (by rw [hclosed]; decide)] at hfd ⊢
  dsimp only at hfd ⊢
  split at hfd
  · rw [hclosed] at hfd
    cases hfd
  split at hfd
  · rw [hclosed] at hfd
    cases hfd
  case h_2 havailable _ _ =>
    rw [if_neg havailable]
    split at hfd
    · cases hfd
    case h_2 t ht =>
      let snapshot : IrReceiveSnapshot :=
        { expected_address := address, address_filter_enabled := filter,
          device_path := info.lirc_path }
      have hset := hmode
        { s with fd := true, snapshot, pending_receives := [], receive_state := snapshot }
      rw [ht] at hset
      exact ⟨rfl, hset.1, congrArg IrReceiveSnapshot.data hset.2⟩

/-- A session that was opened in mode2 receives whatever words it reads without loss. -/
theorem mode2_reception (s : IrReceiverSession) (hclosed : s.fd = false) (info : IrDeviceInfo)
    (device : Opening) (expected_address : UInt16) (filter_address : Bool)
    (hfd : (s.start info device expected_address filter_address).1.fd = true)
    (hmode : (s.start info device expected_address filter_address).1.mode2 = true)
    (hscancode : (s.start info device expected_address filter_address).1.scancode_mode = false) :
    Lossless (s.start info device expected_address filter_address).1 := by
  obtain ⟨hbuffer, hpending, hdata⟩ := start_opened hclosed hfd
  generalize (s.start info device expected_address filter_address).1 = t at *
  have h : OpenedMode2 t := ⟨hfd, hmode, hscancode, by simp [hpending]⟩
  have hdelivered {readings : List Reading} (hreadings : NeverFail readings)
      (hdone : (t.polls readings).1.pending_receives = []) :
      t.changes readings = (read_each read_word t (stream readings)).1.pending_receives := by
    rw [← (changes_polls h hreadings).2, hdone, List.append_nil]
  constructor
  case drains =>
    intro readings hreadings
    refine ⟨(t.polls readings).1.pending_receives.length, ?_⟩
    rw [polls_append, polls_quiet (changes_polls h hreadings).1, List.drop_length]
  case splitting =>
    intro readings readings' hreadings hreadings' hstream hdone hdone'
    rw [hdelivered hreadings hdone, hdelivered hreadings' hdone', hstream]
  case frames =>
    intro readings contents hreadings hbursts hdone
    obtain ⟨new, hnew, -, hframes⟩ := read_bursts hbursts hmode hbuffer (.inl hdata)
    rw [hdelivered hreadings hdone, hnew, hpending, List.nil_append]
    rw [hdata] at hframes
    -- No frame has the bytes of the empty receiver.
    cases hcontents : contents.reduceOption.map NecFrame.bytes with
    | nil =>
      rw [hcontents] at hframes
      simpa using hframes
    | cons bytes rest =>
      obtain ⟨f, -, rfl⟩ := List.mem_map.1 (hcontents ▸ List.mem_cons_self : bytes ∈ _)
      rw [hcontents, List.destutter'_cons_pos _ (by simp [NecFrame.bytes])] at hframes
      exact (List.cons.inj hframes).2

/-- A receiver that only reports pulses and spaces is opened in mode2. -/
theorem mode2_reception_sample :
    Lossless (IrReceiverSession.start {} { available := true, features := LIRC_CAN_REC_MODE2 } {}
      0xff00 true).1 :=
  mode2_reception {} rfl _ _ _ _ (by decide) (by decide) (by decide)

end FactoryTest.Ir

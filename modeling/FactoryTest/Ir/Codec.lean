import FactoryTest.Ir.Reception

/-!
# Encoding and decoding NEC packets

What `send_nec_packet` writes to the sender, and what the decoder makes of a frame among other
durations.

**Theorem (`nec_codec`).** A frame within the tolerances is decoded to its bytes, whatever follows
it and whatever comes before it, so long as no duration before it could be a header pulse. What
is sent is decoded to the address and the command. And nothing but a frame within the tolerances
is decoded.

The decoder takes the first start that works. A start before the frame would need a header pulse
there, so the first one is the frame's own.
-/

namespace FactoryTest.Ir

/-! ## Sending -/

/-- `IrSendResult`. -/
structure IrSendResult where
  success : Bool := false
  device_path : String := ""
  message : String := ""
  address : UInt16 := 0
  command : UInt16 := 0
  data : List UInt8 := []
  protocol : String := ""

/-- What the system answers a packet that is sent: the error of opening the device, and how many
bytes were written, or the error of writing them. -/
structure Sending where
  open_error : Option String := none
  bytes_written : Except String ℕ

/-- `send_nec_packet`, with the durations that are written to the device; `info` is what
`read_sender_info` returns. -/
def send_nec_packet (info : IrDeviceInfo) (device : Sending) (address command : UInt16) :
    IrSendResult × Option (List UInt32) :=
  let data := make_nec_bytes address command
  let result : IrSendResult := { address, command, data, protocol := K_PROTOCOL_NEC32 }
  let encoded := encode_nec_packet data
  let result := { result with device_path := info.lirc_path }
  if !info.available then
    ({ result with message :=
        if info.error_message = "" then "IR sender unavailable" else info.error_message }, none)
  else
    match device.open_error with
    | some error => ({ result with message := "Open sender failed: " ++ error }, none)
    | none =>
      match device.bytes_written with
      | .error error => ({ result with message := "Send failed: " ++ error }, some encoded)
      | .ok bytes_written =>
        if bytes_written ≠ encoded.length * 4 then
          ({ result with message := "Short write while sending NEC packet" }, some encoded)
        else ({ result with success := true, message := "NEC32 packet sent" }, some encoded)

/-! ## Decoding -/

/-- The duration could be a header pulse. -/
def InHeaderWindow (duration : UInt32) : Prop :=
  6500 ≤ duration.toNat ∧ duration.toNat ≤ 11500

/-- The first of the numbers below `n` that gives something. -/
theorem findSome?_range {β : Type*} {f : ℕ → Option β} {n i : ℕ} {b : β} (hi : i < n)
    (hbefore : ∀ j < i, f j = none) (hb : f i = some b) : (List.range n).findSome? f = some b := by
  obtain ⟨k, rfl⟩ := Nat.exists_eq_add_of_lt hi
  have hnone : (List.range i).findSome? f = none :=
    List.findSome?_eq_none_iff.2 fun j hj => hbefore j (List.mem_range.1 hj)
  rw [Nat.add_assoc, List.range_add, List.findSome?_append, hnone, Option.none_or,
    List.range_succ_eq_map, List.map_cons, List.findSome?_cons, Nat.add_zero, hb]

/-- No start before the frame works. -/
theorem decode_nec_packet_from_front {front rest : List UInt32}
    (hfront : ∀ d ∈ front, ¬ InHeaderWindow d) {start : ℕ} (hstart : start < front.length) :
    decode_nec_packet_from (front ++ rest) start = none := by
  by_contra hsome
  obtain ⟨bytes, hbytes⟩ := Option.ne_none_iff_exists'.1 hsome
  obtain ⟨f, -, front', train, back, hlength, heq, pulse, space, bits, last, rfl, hpulse, -⟩ :=
    decode_nec_packet_from_eq_some.1 hbytes
  have hmem : pulse ∈ front := by
    have hget := congrArg (·[start]?) heq
    simp only [List.getElem?_append_left hstart] at hget
    rw [List.getElem?_append_right hlength.le, hlength, Nat.sub_self] at hget
    exact List.mem_of_getElem? hget
  exact hfront pulse hmem hpulse

/-- A frame is decoded with other durations before and after it. -/
theorem decode_nec_packet_window {f : NecFrame} {front frame back : List UInt32}
    (hfront : ∀ d ∈ front, ¬ InHeaderWindow d) (hframe : f.Tolerated frame) :
    decode_nec_packet (front ++ (frame ++ back)) = some f.bytes := by
  have hfrom : decode_nec_packet_from (front ++ (frame ++ back)) front.length = some f.bytes :=
    decode_nec_packet_from_eq_some.2 ⟨f, rfl, front, frame, back, rfl, rfl, hframe⟩
  have hlength : frame.length = 67 := hframe.length_eq
  unfold decode_nec_packet
  apply findSome?_range _ (fun start hstart => decode_nec_packet_from_front hfront hstart) hfrom
  simp only [List.length_append, hlength]
  omega

/-- Only a frame is decoded. -/
theorem window_of_decode {durations : List UInt32} {bytes : List UInt8}
    (h : decode_nec_packet durations = some bytes) :
    ∃ (f : NecFrame) (front frame back : List UInt32),
      bytes = f.bytes ∧ durations = front ++ (frame ++ back) ∧ f.Tolerated frame := by
  obtain ⟨start, -, hstart⟩ := List.exists_of_findSome?_eq_some h
  obtain ⟨f, rfl, front, frame, back, -, rfl, hframe⟩ := decode_nec_packet_from_eq_some.1 hstart
  exact ⟨f, front, frame, back, rfl, rfl, hframe⟩

/-- The frame with the address and the command, the low bytes first. -/
def frame_of (address command : UInt16) : NecFrame :=
  ⟨(address &&& 0xff).toUInt8, (address >>> 8 &&& 0xff).toUInt8, (command &&& 0xff).toUInt8,
    (command >>> 8 &&& 0xff).toUInt8⟩

theorem frame_of_word (w : UInt16) :
    (w &&& 0xff).toUInt8.toUInt16 ||| (w >>> 8 &&& 0xff).toUInt8.toUInt16 <<< 8 = w := by
  have hlow (v : UInt16) : (v &&& 0xff).toUInt8.toNat = v.toNat % 256 := by
    show (v.toNat &&& 2 ^ 8 - 1) % 2 ^ 8 = _
    rw [Nat.and_two_pow_sub_one_eq_mod, Nat.mod_mod]
  have hhigh : (w >>> 8).toNat = w.toNat / 256 := by
    rw [UInt16.toNat_shiftRight]
    exact Nat.shiftRight_eq_div_pow _ _
  have hw := w.toNat_lt
  apply UInt16.toNat_inj.1
  rw [Bytes.toNat_word, hlow, hlow, hhigh]
  omega

/-- What is sent is decoded to what was to be sent. -/
theorem decode_sent {info : IrDeviceInfo} {device : Sending} {address command : UInt16}
    {durations : List UInt32}
    (h : (send_nec_packet info device address command).2 = some durations) :
    ∃ packet, (decode_nec_packet durations).bind parse_nec_bytes = some packet ∧
      packet.address = address ∧ packet.command = command := by
  have hencoded : durations = encode_nec_packet (frame_of address command).bytes := by
    unfold send_nec_packet at h
    dsimp only at h
    split_ifs at h
    split at h
    · cases h
    split at h
    · exact (Option.some.inj h).symm
    split_ifs at h
    · exact (Option.some.inj h).symm
    · exact (Option.some.inj h).symm
  rw [hencoded, (tolerated_encode _).decode, Option.bind_some, parse_nec_bytes_frame]
  exact ⟨_, rfl, frame_of_word address, frame_of_word command⟩

/-- What encoder and decoder make of each other's packets. -/
structure NecCodec : Prop where
  /-- A frame is decoded, if no duration before it could be a header pulse. -/
  decodes : ∀ (f : NecFrame) (front frame back : List UInt32),
    (∀ d ∈ front, ¬ InHeaderWindow d) → f.Tolerated frame →
      decode_nec_packet (front ++ (frame ++ back)) = some f.bytes
  /-- What is sent is decoded to the address and the command. -/
  sent : ∀ (info : IrDeviceInfo) (device : Sending) (address command : UInt16)
    (durations : List UInt32), (send_nec_packet info device address command).2 = some durations →
      ∃ packet, (decode_nec_packet durations).bind parse_nec_bytes = some packet ∧
        packet.address = address ∧ packet.command = command
  /-- Only a frame is decoded. -/
  only : ∀ (durations : List UInt32) (bytes : List UInt8),
    decode_nec_packet durations = some bytes → ∃ (f : NecFrame) (front frame back : List UInt32),
      bytes = f.bytes ∧ durations = front ++ (frame ++ back) ∧ f.Tolerated frame

/-- Encoder and decoder agree on all packets, with jitter and with other durations around them. -/
theorem nec_codec : NecCodec where
  decodes _ _ _ _ hfront hframe := decode_nec_packet_window hfront hframe
  sent _ _ _ _ _ h := decode_sent h
  only _ _ h := window_of_decode h

/-- A frame after and before another duration, what is sent, and what is decoded. -/
theorem nec_codec_frame :
    let frame := encode_nec_packet (frame_of 0x1234 0x5678).bytes
    decode_nec_packet ([560] ++ (frame ++ [9000])) = some (frame_of 0x1234 0x5678).bytes ∧
      (∃ packet, (decode_nec_packet frame).bind parse_nec_bytes = some packet ∧
        packet.address = 0x1234 ∧ packet.command = 0x5678) ∧
      ∃ (f : NecFrame) (front durations back : List UInt32),
        (frame_of 0x1234 0x5678).bytes = f.bytes ∧ frame = front ++ (durations ++ back) ∧
          f.Tolerated durations :=
  ⟨nec_codec.decodes _ [560] _ [9000] (by simp [InHeaderWindow]) (tolerated_encode _),
    nec_codec.sent { available := true } ⟨none, .ok 268⟩ 0x1234 0x5678 _ rfl,
    nec_codec.only _ _ (tolerated_encode _).decode⟩

end FactoryTest.Ir

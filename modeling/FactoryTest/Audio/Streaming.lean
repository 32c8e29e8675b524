import FactoryTest.Audio.Normalization
import FactoryTest.Lib.Sweep

/-!
# Streaming

The data callbacks of `src/platform/audio_service.cpp`: the device asks for so many frames, or
brings them, and decides each time how many.

**Clips.** `playback_data_callback` and `ui_sfx_data_callback` fill a buffer from a clip and go on
where they stopped. A read past the end of the clip or a write past the end of the buffer has no
value here.

**Theorem (`streaming_spec`).** However the frames are cut into callbacks, what is played is the
clip, each frame mapped to the channels of the device, and then silence (`stream`); and what is
captured is the beginning of the input, up to the target.
-/

namespace FactoryTest.Audio

/-! ## The code -/

/-- `PlaybackState`. -/
structure PlaybackState where
  audio : Option WavAudio
  frame_offset : ℕ := 0
  complete : Bool := false

/-- `UiSfxState`, as far as the callback reads it. -/
structure UiSfxState where
  active_audio : Option WavAudio := none
  frame_offset : ℕ := 0
  active : Bool := false

/-- The body of the loop over the channels of a frame. -/
def copy_channel (samples : List Int16) (input_channels input_base output_base : ℕ)
    (out : List Int16) (channel : ℕ) : Option (List Int16) :=
  let input_channel := if input_channels = 1 then 0 else min channel (input_channels - 1)
  samples[input_base + input_channel]?.bind fun value =>
    store out (output_base + channel) value

/-- The body of the loop over the frames, of which both callbacks have a copy. -/
def copy_frame (samples : List Int16) (input_channels output_channels offset : ℕ)
    (out : List Int16) (frame : ℕ) : Option (List Int16) :=
  let input_base := (offset + frame) * input_channels
  let output_base := frame * output_channels
  (List.range output_channels).foldlM (copy_channel samples input_channels input_base output_base)
    out

/-- The loop over the frames. -/
def copy_frames (samples : List Int16) (input_channels output_channels offset frames : ℕ)
    (out : List Int16) : Option (List Int16) :=
  (List.range frames).foldlM (copy_frame samples input_channels output_channels offset) out

/-- `playback_data_callback`: the state after it and what it puts in the buffer, which has room
for `frame_count` frames of the channels of the device. -/
def playback_data_callback (channels : UInt32) (state : PlaybackState) (frame_count : UInt32) :
    Option (PlaybackState × List Int16) :=
  if frame_count = 0 then some (state, [])
  else
    let output_channels := max 1 channels.toNat
    let out := List.replicate (frame_count.toNat * output_channels) 0
    match state.audio with
    | none => some (state, out)
    | some audio =>
      if state.complete then some (state, out)
      else
        let input_channels := max 1 audio.channels.toNat
        let total_frames := audio.samples.length / input_channels
        let offset := state.frame_offset
        if total_frames ≤ offset then some ({ state with complete := true }, out)
        else
          let frames := min frame_count.toNat (total_frames - offset)
          let next_offset := offset + frames
          (copy_frames audio.samples input_channels output_channels offset frames out).map
            fun out => ({ state with
              frame_offset := next_offset
              complete := state.complete || total_frames ≤ next_offset }, out)

/-- `ui_sfx_data_callback`. -/
def ui_sfx_data_callback (channels : UInt32) (state : UiSfxState) (frame_count : UInt32) :
    Option (UiSfxState × List Int16) :=
  if frame_count = 0 then some (state, [])
  else
    let output_channels := max 1 channels.toNat
    let out := List.replicate (frame_count.toNat * output_channels) 0
    if !state.active then some (state, out)
    else
      match state.active_audio with
      | none => some ({ state with active := false }, out)
      | some audio =>
        if audio.samples.isEmpty || audio.sample_rate = 0 || audio.channels = 0 then
          some ({ state with active := false }, out)
        else
          let input_channels := max 1 audio.channels.toNat
          let total_frames := audio.samples.length / input_channels
          let offset := state.frame_offset
          if total_frames ≤ offset then some ({ state with active := false }, out)
          else
            let frames := min frame_count.toNat (total_frames - offset)
            let next_offset := offset + frames
            (copy_frames audio.samples input_channels output_channels offset frames out).map
              fun out => ({ state with
                frame_offset := next_offset
                active := state.active && !(total_frames ≤ next_offset) }, out)

/-- `play_ui_sound` on a device that runs: the callback begins the clip. It is only called for a
clip with a rate, channels and samples. -/
def start_ui_sound (state : UiSfxState) (audio : WavAudio) : UiSfxState :=
  { state with active_audio := some audio, frame_offset := 0, active := true }

/-- What callback after callback puts in the buffers. -/
def output {σ : Type} (callback : σ → UInt32 → Option (σ × List Int16)) :
    σ → List UInt32 → Option (List Int16)
  | _, [] => some []
  | state, frame_count :: frame_counts => do
    let (state, out) ← callback state frame_count
    let rest ← output callback state frame_counts
    some (out ++ rest)

/-- `CaptureState`. -/
structure CaptureState where
  samples : List Int16 := []
  target_samples : ℕ
  complete : Bool := false

def K_AUDIO_SAMPLE_RATE : ℕ := 16000
def K_AUDIO_CHANNELS : ℕ := 1

/-- `capture_data_callback`; the input has `frame_count` frames of one channel, and `none` is the
null pointer. -/
def capture_data_callback (state : CaptureState) (input : Option (List Int16)) : CaptureState :=
  match input with
  | none => state
  | some samples =>
    if samples.length = 0 then state
    else
      let input_samples := samples.length * K_AUDIO_CHANNELS
      if state.complete then state
      else
        let remaining := state.target_samples - min state.samples.length state.target_samples
        let copy_count := min input_samples remaining
        let state := { state with samples := state.samples ++ samples.take copy_count }
        { state with complete := state.complete || state.target_samples ≤ state.samples.length }

/-- The state that `record_wav` captures to, unless it refuses the duration. -/
def record_wav_state (seconds : ℤ) : Option CaptureState :=
  if seconds ≤ 0 then none
  else some { target_samples := seconds.toNat * K_AUDIO_SAMPLE_RATE * K_AUDIO_CHANNELS }

/-! ## Clips as streams -/

/-- The number of frames of a clip. -/
def frames_of (audio : WavAudio) : ℕ := audio.samples.length / max 1 audio.channels.toNat

/-- The sample of a frame and a channel of the device: of the clip, and after the clip silence. -/
def sound (audio : WavAudio) (frame channel : ℕ) : Int16 :=
  let input_channels := max 1 audio.channels.toNat
  if frame < frames_of audio then
    audio.samples.getD (frame * input_channels + min channel (input_channels - 1)) 0
  else 0

/-- So many frames of the clip and of the silence after it, from a frame on. -/
def stream (audio : WavAudio) (output_channels start frames : ℕ) : List Int16 :=
  (List.range frames).flatMap fun frame =>
    (List.range output_channels).map (sound audio (start + frame))

section

variable {audio : WavAudio} {output_channels start : ℕ}

theorem stream_add (m n : ℕ) : stream audio output_channels start (m + n) =
    stream audio output_channels start m ++ stream audio output_channels (start + m) n := by
  unfold stream
  rw [List.range_add, List.flatMap_append, List.flatMap_map]
  simp only [Nat.add_assoc]

theorem stream_succ (n : ℕ) : stream audio output_channels start (n + 1) =
    stream audio output_channels start n ++
      (List.range output_channels).map (sound audio (start + n)) := by
  have hone : stream audio output_channels (start + n) 1 =
      (List.range output_channels).map (sound audio (start + n)) := by
    simp [stream]
  rw [stream_add, hone]

@[simp] theorem length_stream (n : ℕ) :
    (stream audio output_channels start n).length = n * output_channels := by
  induction n with
  | zero => simp [stream]
  | succ n ih =>
    rw [stream_succ, List.length_append, ih, List.length_map, List.length_range, Nat.succ_mul]

/-- After the clip comes silence. -/
theorem stream_silent (h : frames_of audio ≤ start) (n : ℕ) :
    stream audio output_channels start n = List.replicate (n * output_channels) 0 := by
  induction n with
  | zero => simp [stream]
  | succ n ih =>
    have hsilent : sound audio (start + n) = fun _ => 0 := by
      funext channel
      exact if_neg (by omega)
    rw [stream_succ, ih, hsilent, List.map_const', List.length_range, Nat.succ_mul,
      List.replicate_append_replicate]

end

/-! ## The loops -/

/-- The clip has the sample of each of its frames and of each channel. -/
theorem getElem?_sound {audio : WavAudio} {frame : ℕ}
    (hframe : frame < frames_of audio) (channel : ℕ) :
    audio.samples[frame * max 1 audio.channels.toNat +
        if max 1 audio.channels.toNat = 1 then 0
        else min channel (max 1 audio.channels.toNat - 1)]? = some (sound audio frame channel) := by
  have hsound : sound audio frame channel = audio.samples.getD
      (frame * max 1 audio.channels.toNat + min channel (max 1 audio.channels.toNat - 1)) 0 :=
    if_pos hframe
  have hclip : frames_of audio * max 1 audio.channels.toNat ≤ audio.samples.length :=
    Nat.div_mul_le_self _ _
  generalize hchannels : max 1 audio.channels.toNat = channels at hsound hclip ⊢
  have hpos : 0 < channels := by omega
  have hchannel : (if channels = 1 then 0 else min channel (channels - 1)) =
      min channel (channels - 1) := by
    split_ifs <;> omega
  have hlast : (frame + 1) * channels ≤ audio.samples.length :=
    (Nat.mul_le_mul_right _ hframe).trans hclip
  have hindex : frame * channels + min channel (channels - 1) < audio.samples.length := by
    rw [Nat.succ_mul] at hlast
    omega
  rw [hchannel, hsound, List.getD_eq_getElem?_getD, List.getElem?_eq_getElem hindex]
  rfl

/-- A channel of a frame, once the channels before it are in the buffer. -/
theorem copy_channel_eq {audio : WavAudio} {frame : ℕ}
    (hframe : frame < frames_of audio) {front : List Int16}
    {output_base channel : ℕ} (hlength : output_base + channel = front.length) (rest : ℕ) :
    copy_channel audio.samples (max 1 audio.channels.toNat)
        (frame * max 1 audio.channels.toNat) output_base
        (front ++ List.replicate (rest + 1) 0) channel =
      some (front ++ sound audio frame channel :: List.replicate rest 0) := by
  unfold copy_channel
  dsimp only
  rw [getElem?_sound hframe, Option.bind_some, hlength, List.replicate_succ, store_append]

/-- A frame of the clip is mapped to the channels of the device. -/
theorem copy_frame_eq {audio : WavAudio} {offset frame : ℕ}
    (hframe : offset + frame < frames_of audio)
    {front : List Int16} {output_channels : ℕ} (hlength : frame * output_channels = front.length)
    (rest : ℕ) :
    copy_frame audio.samples (max 1 audio.channels.toNat) output_channels offset
        (front ++ List.replicate (output_channels + rest) 0) frame =
      some (front ++ (List.range output_channels).map (sound audio (offset + frame)) ++
        List.replicate rest 0) := by
  -- what is in the buffer after so many channels
  let value : ℕ → List Int16 := fun channel =>
    front ++ (List.range channel).map (sound audio (offset + frame)) ++
      List.replicate (output_channels + rest - channel) 0
  have hstep : ∀ channel < output_channels,
      copy_channel audio.samples (max 1 audio.channels.toNat)
        ((offset + frame) * max 1 audio.channels.toNat) (frame * output_channels)
        (value channel) channel = pure (value (channel + 1)) := by
    intro channel hchannel
    have hleft : output_channels + rest - channel =
        output_channels + rest - (channel + 1) + 1 := by omega
    have hfront : frame * output_channels + channel =
        (front ++ (List.range channel).map (sound audio (offset + frame))).length := by
      rw [List.length_append, List.length_map, List.length_range, hlength]
    show copy_channel _ _ _ _ (_ ++ List.replicate (output_channels + rest - channel) 0) _ = _
    rw [hleft, copy_channel_eq hframe hfront]
    simp [value, List.range_succ]
  have hloop := foldlM_range_eq value hstep
  simpa [copy_frame, value] using hloop

/-- The frames of the clip from the offset on come to the beginning of the buffer. -/
theorem copy_frames_eq {audio : WavAudio} {offset frames : ℕ}
    (hframes : offset + frames ≤ frames_of audio)
    (output_channels rest : ℕ) :
    copy_frames audio.samples (max 1 audio.channels.toNat) output_channels offset frames
        (List.replicate ((frames + rest) * output_channels) 0) =
      some (stream audio output_channels offset frames ++
        List.replicate (rest * output_channels) 0) := by
  -- what is in the buffer after so many frames
  let value : ℕ → List Int16 := fun frame => stream audio output_channels offset frame ++
    List.replicate ((frames + rest - frame) * output_channels) 0
  have hstep : ∀ frame < frames,
      copy_frame audio.samples (max 1 audio.channels.toNat) output_channels offset (value frame)
        frame = pure (value (frame + 1)) := by
    intro frame hframe
    have hframes : frames + rest - frame = frames + rest - (frame + 1) + 1 := by omega
    have hleft : (frames + rest - frame) * output_channels =
        output_channels + (frames + rest - (frame + 1)) * output_channels := by
      rw [hframes, Nat.succ_mul, Nat.add_comm]
    show copy_frame _ _ _ _
      (_ ++ List.replicate ((frames + rest - frame) * output_channels) 0) _ = _
    rw [hleft, copy_frame_eq (by omega) (length_stream frame).symm, ← stream_succ]
    rfl
  have hloop := foldlM_range_eq value hstep
  simpa [copy_frames, value, stream] using hloop

/-! ## The callbacks -/

/-- As many frames as the clip still has, and silence after them. -/
theorem copy_frames_min {audio : WavAudio} {offset : ℕ} (hoffset : offset < frames_of audio)
    (output_channels frame_count : ℕ) :
    copy_frames audio.samples (max 1 audio.channels.toNat) output_channels offset
        (min frame_count (frames_of audio - offset))
        (List.replicate (frame_count * output_channels) 0) =
      some (stream audio output_channels offset frame_count) := by
  generalize hframes : min frame_count (frames_of audio - offset) = frames
  obtain ⟨rest, hrest⟩ : ∃ rest, frame_count = frames + rest := ⟨frame_count - frames, by omega⟩
  have hclip : offset + frames ≤ frames_of audio := by omega
  have hsilent : stream audio output_channels (offset + frames) rest =
      List.replicate (rest * output_channels) 0 := by
    by_cases hend : rest = 0
    · rw [hend, Nat.zero_mul]
      rfl
    · exact stream_silent (show frames_of audio ≤ _ by omega) rest
  rw [hrest, copy_frames_eq hclip, stream_add, hsilent]

/-- The playback goes on with a frame of the clip, or the clip is over. -/
structure PlaybackState.At (audio : WavAudio) (frame : ℕ) (state : PlaybackState) : Prop where
  clip : state.audio = some audio
  offset : min state.frame_offset (frames_of audio) = min frame (frames_of audio)
  complete : state.complete = true → frames_of audio ≤ frame

/-- The sound goes on with a frame of the clip, or the clip is over. -/
structure UiSfxState.At (audio : WavAudio) (frame : ℕ) (state : UiSfxState) : Prop where
  clip : state.active_audio = some audio
  offset : min state.frame_offset (frames_of audio) = min frame (frames_of audio)
  inactive : state.active = false → frames_of audio ≤ frame

section

variable {audio : WavAudio} {frame : ℕ}

theorem frames_of_eq :
    audio.samples.length / max 1 audio.channels.toNat = frames_of audio := rfl

theorem playback_data_callback_eq {state : PlaybackState} (h : state.At audio frame)
    (channels frame_count : UInt32) :
    ∃ state', playback_data_callback channels state frame_count =
        some (state', stream audio (max 1 channels.toNat) frame frame_count.toNat) ∧
      state'.At audio (frame + frame_count.toNat) := by
  obtain ⟨hclip, hoffset, hcomplete⟩ := h
  unfold playback_data_callback
  by_cases hcount : frame_count = 0
  · subst hcount
    exact ⟨state, rfl, hclip, hoffset, hcomplete⟩
  rw [if_neg hcount]
  simp only [hclip, frames_of_eq]
  by_cases hover : frames_of audio ≤ frame
  · have hsilent : stream audio (max 1 channels.toNat) frame frame_count.toNat =
        List.replicate (frame_count.toNat * max 1 channels.toNat) 0 := stream_silent hover _
    rw [hsilent]
    by_cases hdone : state.complete = true
    · rw [if_pos hdone]
      exact ⟨state, rfl, hclip, by omega, fun _ => by omega⟩
    · rw [if_neg hdone, if_pos (by omega)]
      exact ⟨_, rfl, rfl, by dsimp only; omega, fun _ => by omega⟩
  · have hat : state.frame_offset = frame := by omega
    rw [if_neg (fun hdone => hover (hcomplete hdone)), if_neg (by omega), hat,
      copy_frames_min (Nat.lt_of_not_le hover)]
    refine ⟨_, rfl, rfl, by dsimp only; omega, fun hdone => ?_⟩
    rcases Bool.or_eq_true_iff.1 hdone with hdone | hend
    · exact absurd (hcomplete hdone) hover
    · have hend := of_decide_eq_true hend
      omega

theorem ui_sfx_data_callback_eq {state : UiSfxState} (h : state.At audio frame)
    (hrate : audio.sample_rate ≠ 0) (hchannels : audio.channels ≠ 0)
    (channels frame_count : UInt32) :
    ∃ state', ui_sfx_data_callback channels state frame_count =
        some (state', stream audio (max 1 channels.toNat) frame frame_count.toNat) ∧
      state'.At audio (frame + frame_count.toNat) := by
  obtain ⟨hclip, hoffset, hinactive⟩ := h
  unfold ui_sfx_data_callback
  by_cases hcount : frame_count = 0
  · subst hcount
    exact ⟨state, rfl, hclip, hoffset, hinactive⟩
  rw [if_neg hcount]
  simp only [hclip, frames_of_eq]
  by_cases hover : frames_of audio ≤ frame
  · have hsilent : stream audio (max 1 channels.toNat) frame frame_count.toNat =
        List.replicate (frame_count.toNat * max 1 channels.toNat) 0 := stream_silent hover _
    rw [hsilent]
    cases hactive : state.active with
    | false => exact ⟨state, rfl, hclip, by omega, fun _ => by omega⟩
    | true =>
      rw [if_neg (by decide)]
      -- the two ways to stop leave the same state
      refine ⟨{ state with active := false }, ?_, hclip, by dsimp only; omega, fun _ => by omega⟩
      have hend : frames_of audio ≤ state.frame_offset := by omega
      rw [if_pos hend]
      split_ifs
      · simp only [hclip]
      · simp only [hclip]
  · have hat : state.frame_offset = frame := by omega
    have hactive : state.active = true := Bool.of_not_eq_false (fun h => hover (hinactive h))
    have hguard :
        ¬ (audio.samples.isEmpty || audio.sample_rate = 0 || audio.channels = 0) = true := by
      intro hguard
      simp only [hrate, hchannels, decide_false, Bool.or_false] at hguard
      have hempty : frames_of audio = 0 := by
        rw [frames_of, List.isEmpty_iff.1 hguard, List.length_nil, Nat.zero_div]
      omega
    rw [if_neg (by rw [hactive]; decide), if_neg hguard, if_neg (by omega), hat,
      copy_frames_min (Nat.lt_of_not_le hover)]
    refine ⟨_, rfl, rfl, by dsimp only; omega, fun hover => ?_⟩
    rcases Bool.and_eq_false_iff.1 hover with hinactive | hend
    · exact absurd (hactive.symm.trans hinactive) (by decide)
    · rw [Bool.not_eq_eq_eq_not, Bool.not_false] at hend
      have hend := of_decide_eq_true hend
      omega

end

/-! ## Runs -/

/-- A callback that goes on with the clip each time plays the clip, however often it is called. -/
theorem output_eq {σ : Type} {callback : σ → UInt32 → Option (σ × List Int16)} {audio : WavAudio}
    {output_channels : ℕ} {At : ℕ → σ → Prop}
    (hstep : ∀ frame state frame_count, At frame state → ∃ state',
      callback state frame_count =
        some (state', stream audio output_channels frame frame_count.toNat) ∧
      At (frame + frame_count.toNat) state')
    (frame_counts : List UInt32) {frame : ℕ} {state : σ} (h : At frame state) :
    output callback state frame_counts =
      some (stream audio output_channels frame (frame_counts.map UInt32.toNat).sum) := by
  induction frame_counts generalizing frame state with
  | nil => rfl
  | cons frame_count frame_counts ih =>
    obtain ⟨state', hcallback, hstate'⟩ := hstep frame state frame_count h
    rw [output, hcallback, Option.bind_eq_bind, Option.bind_some]
    dsimp only
    rw [ih hstate', Option.bind_eq_bind, Option.bind_some, List.map_cons, List.sum_cons,
      stream_add]

theorem output_playback_data_callback (audio : WavAudio) (channels : UInt32)
    (frame_counts : List UInt32) :
    output (playback_data_callback channels) { audio := some audio } frame_counts =
      some (stream audio (max 1 channels.toNat) 0 (frame_counts.map UInt32.toNat).sum) := by
  refine @output_eq _ _ audio _ (PlaybackState.At audio) ?_ frame_counts _ _ ⟨rfl, rfl, nofun⟩
  intro frame state frame_count h
  exact playback_data_callback_eq h channels frame_count

theorem output_ui_sfx_data_callback {audio : WavAudio} (hrate : audio.sample_rate ≠ 0)
    (hchannels : audio.channels ≠ 0) (state : UiSfxState) (channels : UInt32)
    (frame_counts : List UInt32) :
    output (ui_sfx_data_callback channels) (start_ui_sound state audio) frame_counts =
      some (stream audio (max 1 channels.toNat) 0 (frame_counts.map UInt32.toNat).sum) := by
  refine @output_eq _ _ audio _ (UiSfxState.At audio) ?_ frame_counts _ _ ⟨rfl, rfl, nofun⟩
  intro frame state frame_count h
  exact ui_sfx_data_callback_eq h hrate hchannels channels frame_count

/-- What callback after callback brings. -/
def captured (inputs : List (Option (List Int16))) : List Int16 :=
  (inputs.map (·.getD [])).flatten

/-- What is captured after some input. -/
structure CaptureState.Of (target : ℕ) (input : List Int16) (state : CaptureState) : Prop where
  target_samples : state.target_samples = target
  samples : state.samples = input.take target
  complete : state.complete = true → target ≤ input.length
  /-- A capture that wants samples is complete as soon as it has them. -/
  reached : 0 < target → target ≤ input.length → state.complete = true

theorem capture_data_callback_of {target : ℕ} {input : List Int16} {state : CaptureState}
    (h : state.Of target input) (samples : Option (List Int16)) :
    (capture_data_callback state samples).Of target (input ++ samples.getD []) := by
  obtain ⟨htarget, hsamples, hcomplete, hreached⟩ := h
  cases samples with
  | none => simpa using ⟨htarget, hsamples, hcomplete, hreached⟩
  | some samples =>
    rw [Option.getD_some]
    unfold capture_data_callback
    dsimp only
    by_cases hnone : samples.length = 0
    · rw [if_pos hnone, List.eq_nil_of_length_eq_zero hnone, List.append_nil]
      exact ⟨htarget, hsamples, hcomplete, hreached⟩
    rw [if_neg hnone]
    by_cases hdone : state.complete = true
    · -- the target was reached before
      have hend := hcomplete hdone
      rw [if_pos hdone]
      refine ⟨htarget, ?_, fun _ => ?_, fun _ _ => hdone⟩
      · rw [hsamples, List.take_append_of_le_length hend]
      · rw [List.length_append]
        omega
    · rw [if_neg hdone]
      have hlength : state.samples.length = min target input.length := by
        rw [hsamples, List.length_take]
      have hremaining : state.target_samples - min state.samples.length state.target_samples =
          target - input.length := by
        omega
      have hcopied : state.samples ++ samples.take (min (samples.length * K_AUDIO_CHANNELS)
          (state.target_samples - min state.samples.length state.target_samples)) =
            (input ++ samples).take target := by
        rw [hremaining, hsamples, List.take_append, K_AUDIO_CHANNELS, Nat.mul_one, Nat.min_comm,
          ← List.take_eq_take_min]
      rw [hcopied, htarget]
      refine ⟨rfl, rfl, fun hover => ?_, fun _ hend => ?_⟩
      · have hlong : target ≤ ((input ++ samples).take target).length := by
          simpa [hdone] using hover
        rw [List.length_take] at hlong
        omega
      · have hlong : target ≤ ((input ++ samples).take target).length := by
          rw [List.length_take]
          omega
        exact Bool.or_eq_true_iff.2 (.inr (decide_eq_true hlong))

theorem capture_of (inputs : List (Option (List Int16))) {target : ℕ} {input : List Int16}
    {state : CaptureState} (h : state.Of target input) :
    (inputs.foldl capture_data_callback state).Of target (input ++ captured inputs) := by
  induction inputs generalizing input state with
  | nil => simpa [captured] using h
  | cons samples inputs ih =>
    have hstate := ih (capture_data_callback_of h samples)
    rw [List.append_assoc] at hstate
    exact hstate

theorem capture_start (target : ℕ) : ({ target_samples := target } : CaptureState).Of target [] :=
  ⟨rfl, List.take_nil.symm, nofun, fun hpos hle => absurd hpos (Nat.not_lt.2 hle)⟩

/-- What is played and what is captured does not depend on how many frames the device asks for or
brings at a time. -/
theorem streaming_spec :
    (∀ (audio : WavAudio) (channels : UInt32) (frame_counts : List UInt32),
      output (playback_data_callback channels) { audio := some audio } frame_counts =
        some (stream audio (max 1 channels.toNat) 0 (frame_counts.map UInt32.toNat).sum)) ∧
    (∀ (audio : WavAudio), audio.sample_rate ≠ 0 → audio.channels ≠ 0 →
      ∀ (state : UiSfxState) (channels : UInt32) (frame_counts : List UInt32),
        output (ui_sfx_data_callback channels) (start_ui_sound state audio) frame_counts =
          output (playback_data_callback channels) { audio := some audio } frame_counts) ∧
    ∀ (target : ℕ) (inputs : List (Option (List Int16))),
      let state := inputs.foldl capture_data_callback { target_samples := target }
      state.samples = (captured inputs).take target ∧
        (0 < target → (state.complete = true ↔ target ≤ (captured inputs).length)) := by
  refine ⟨output_playback_data_callback, ?_, ?_⟩
  · intro audio hrate hchannels state channels frame_counts
    rw [output_ui_sfx_data_callback hrate hchannels, output_playback_data_callback]
  · intro target inputs state
    obtain ⟨-, hsamples, hcomplete, hreached⟩ := capture_of inputs (capture_start target)
    exact ⟨hsamples, fun hpos => ⟨hcomplete, hreached hpos⟩⟩

/-- A clip of two frames, asked for three frames, and a recording of a second that gets samples for
two. -/
theorem streaming_spec_sample :
    let audio : WavAudio := { sample_rate := 48000, channels := 1, samples := [5, 7] }
    output (playback_data_callback 2) { audio := some audio } [1, 2] =
        some (stream audio 2 0 3) ∧
      output (ui_sfx_data_callback 2) (start_ui_sound {} audio) [1, 2] =
        output (playback_data_callback 2) { audio := some audio } [1, 2] ∧
      ∃ state, record_wav_state 1 = some state ∧
        ([none, some (List.replicate 32000 3)].foldl capture_data_callback state).complete =
          true := by
  obtain ⟨hplays, hsound, hcaptures⟩ := streaming_spec
  refine ⟨hplays _ 2 [1, 2], hsound _ (by decide) (by decide) {} 2 [1, 2], _, rfl, ?_⟩
  refine ((hcaptures 16000 [none, some (List.replicate 32000 3)]).2 (by decide)).2 ?_
  rw [captured, List.map_cons, List.map_cons, List.map_nil, List.flatten_cons, List.flatten_cons,
    List.flatten_nil, Option.getD_none, Option.getD_some, List.nil_append, List.append_nil,
    List.length_replicate]
  omega

end FactoryTest.Audio

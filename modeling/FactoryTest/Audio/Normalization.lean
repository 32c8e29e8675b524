import Mathlib.Algebra.Order.Group.Int
import Mathlib.Data.Int.Order.Basic
import Mathlib.Data.List.Basic
import Mathlib.Order.Monotone.Defs
import Mathlib.Tactic.Common
import Mathlib.Tactic.GCongr
import Mathlib.Tactic.Positivity

/-!
# Full scale

`normalize_to_full_scale` of `src/platform/audio_service.cpp` makes a clip as loud as it can be
without clipping: every sample is multiplied by 32767 and divided by the peak of the clip.

**Checked arithmetic.** A negation or a product that its type cannot hold and a division by zero
have no value here (`signed`, `quotient`), so a clip that is normalized at all is one for which
nothing overflows.

**Theorem (`normalize_to_full_scale_spec`).** Every clip is normalized. One that is silent or
already has a sample of magnitude 32767 is left alone; any other one gets the peak 32767, and its
samples keep their signs and their order. To normalize again changes nothing.
-/

namespace FactoryTest.Audio

/-- `WavAudio`. -/
structure WavAudio where
  sample_rate : UInt32
  channels : UInt32
  samples : List Int16
  deriving DecidableEq

/-! ## The code -/

def INT16_MAX : ℤ := 32767
def INT16_MIN : ℤ := -32768
def K_TARGET_PEAK : ℤ := INT16_MAX

/-- A value in a signed type, if the type can hold it. -/
def signed (bits : ℕ) (value : ℤ) : Option ℤ :=
  if -2 ^ (bits - 1) ≤ value ∧ value < 2 ^ (bits - 1) then some value else none

/-- A quotient in a signed type, truncated toward zero. -/
def quotient (bits : ℕ) (value divisor : ℤ) : Option ℤ :=
  if divisor = 0 then none else signed bits (value.tdiv divisor)

/-- The loop that looks for the peak. -/
def peak_loop : List Int16 → ℤ → Option ℤ
  | [], peak => some peak
  | sample :: samples, peak =>
    let sample_value := sample.toInt
    let value := if sample_value < 0 then signed 32 (-sample_value) else some sample_value
    value.bind fun value => peak_loop samples (max peak value)

/-- The body of the loop that scales. -/
def scale (peak : ℤ) (sample : Int16) : Option Int16 := do
  let product ← signed 64 (sample.toInt * K_TARGET_PEAK)
  let scaled ← quotient 64 product peak
  some (Int16.ofInt (max INT16_MIN (min INT16_MAX scaled)))

/-- `normalize_to_full_scale`. -/
def normalize_to_full_scale (audio : WavAudio) : Option WavAudio := do
  let peak ← peak_loop audio.samples 0
  if peak ≤ 0 ∨ INT16_MAX ≤ peak then some audio
  else
    let samples ← audio.samples.mapM (scale peak)
    some { audio with samples := samples }

/-! ## Magnitudes -/

/-- The magnitude of a sample. -/
def magnitude (sample : Int16) : ℕ := sample.toInt.natAbs

/-- The greatest magnitude. -/
def peak (samples : List Int16) : ℕ := (samples.map magnitude).foldr max 0

section

variable {samples : List Int16}

@[simp] theorem peak_nil : peak [] = 0 := rfl

@[simp] theorem peak_cons (sample : Int16) :
    peak (sample :: samples) = max (magnitude sample) (peak samples) := rfl

theorem magnitude_le_peak {sample : Int16} (h : sample ∈ samples) :
    magnitude sample ≤ peak samples := by
  induction samples with
  | nil => cases h
  | cons first samples ih =>
    rw [peak_cons]
    rcases List.mem_cons.1 h with rfl | h
    · exact le_max_left _ _
    · exact (ih h).trans (le_max_right _ _)

theorem peak_le {bound : ℕ} (h : ∀ sample ∈ samples, magnitude sample ≤ bound) :
    peak samples ≤ bound := by
  induction samples with
  | nil => exact Nat.zero_le _
  | cons first samples ih =>
    obtain ⟨hfirst, hrest⟩ := List.forall_mem_cons.1 h
    exact max_le hfirst (ih hrest)

/-- The peak is a magnitude, unless it is zero. -/
theorem exists_magnitude_eq_peak (h : 0 < peak samples) :
    ∃ sample ∈ samples, magnitude sample = peak samples := by
  induction samples with
  | nil => exact absurd h (lt_irrefl 0)
  | cons first samples ih =>
    rw [peak_cons] at h ⊢
    rcases le_total (peak samples) (magnitude first) with hle | hle
    · exact ⟨first, List.mem_cons_self, (max_eq_left hle).symm⟩
    · rw [max_eq_right hle] at h ⊢
      obtain ⟨sample, hmem, heq⟩ := ih h
      exact ⟨sample, List.mem_cons_of_mem _ hmem, heq⟩

/-- The loop finds the peak, and no negation overflows. -/
theorem peak_loop_eq (samples : List Int16) (start : ℕ) :
    peak_loop samples start = some ((max start (peak samples) : ℕ) : ℤ) := by
  induction samples generalizing start with
  | nil => simp [peak_loop]
  | cons sample samples ih =>
    have hlow := sample.le_toInt
    have hhigh := sample.toInt_lt
    have hvalue : (if sample.toInt < 0 then signed 32 (-sample.toInt) else some sample.toInt) =
        some (magnitude sample : ℤ) := by
      unfold magnitude
      split_ifs with hneg
      · rw [signed, if_pos (by omega), Option.some.injEq]
        omega
      · rw [Option.some.injEq]
        omega
    have hmax : max (start : ℤ) (magnitude sample) = (max start (magnitude sample) : ℕ) := by
      simp
    rw [peak_loop, hvalue, Option.bind_some, hmax, ih, peak_cons, max_assoc]

end

/-! ## Scaling -/

/-- The value of a scaled sample. -/
def scaledValue (peak : ℕ) (value : ℤ) : ℤ :=
  max INT16_MIN (min INT16_MAX ((value * 32767).tdiv peak))

/-- A scaled sample. -/
def scaled (peak : ℕ) (sample : Int16) : Int16 := Int16.ofInt (scaledValue peak sample.toInt)

section

variable {p : ℕ}

theorem toInt_scaled (sample : Int16) : (scaled p sample).toInt = scaledValue p sample.toInt := by
  have hlow : INT16_MIN ≤ scaledValue p sample.toInt := le_max_left _ _
  have hhigh : scaledValue p sample.toInt ≤ INT16_MAX := max_le (by decide) (min_le_left _ _)
  unfold INT16_MIN at hlow
  unfold INT16_MAX at hhigh
  exact Int16.toInt_ofInt_of_le hlow (by omega)

/-- Neither the product nor the quotient overflows. -/
theorem scale_eq (hp : 0 < p) (sample : Int16) : scale p sample = some (scaled p sample) := by
  have hlow := sample.le_toInt
  have hhigh := sample.toInt_lt
  have hproduct : signed 64 (sample.toInt * K_TARGET_PEAK) = some (sample.toInt * 32767) := by
    unfold K_TARGET_PEAK INT16_MAX
    rw [signed, if_pos (by omega)]
  have habs : ((sample.toInt * 32767).tdiv p).natAbs ≤ 2 ^ 15 * 32767 := by
    rw [Int.natAbs_tdiv, Int.natAbs_mul]
    refine (Nat.div_le_self _ _).trans (Nat.mul_le_mul ?_ le_rfl)
    omega
  have hquotient : quotient 64 (sample.toInt * 32767) p = some ((sample.toInt * 32767).tdiv p) := by
    rw [quotient, if_neg (by omega), signed, if_pos (by omega)]
  unfold scale
  rw [hproduct, Option.bind_eq_bind, Option.bind_some, hquotient, Option.bind_some]
  rfl

theorem mapM_scale (hp : 0 < p) (samples : List Int16) :
    samples.mapM (scale p) = some (samples.map (scaled p)) := by
  induction samples with
  | nil => rfl
  | cons sample samples ih =>
    rw [List.mapM_cons, scale_eq hp, ih]
    rfl

/-! ## What scaling keeps -/

/-- The magnitude of the quotient is the quotient of the magnitudes. -/
theorem natAbs_quotient (value : ℤ) :
    ((value * 32767).tdiv p).natAbs = value.natAbs * 32767 / p := by
  rw [Int.natAbs_tdiv, Int.natAbs_mul]
  rfl

/-- Up to the peak nothing is clamped. -/
theorem scaledValue_eq (hp : 0 < p) {value : ℤ} (hvalue : value.natAbs ≤ p) :
    scaledValue p value = (value * 32767).tdiv p := by
  have hmagnitude : ((value * 32767).tdiv p).natAbs ≤ 32767 := by
    rw [natAbs_quotient]
    calc value.natAbs * 32767 / p ≤ p * 32767 / p :=
          Nat.div_le_div_right (Nat.mul_le_mul_right _ hvalue)
      _ = 32767 := Nat.mul_div_cancel_left _ hp
  unfold scaledValue INT16_MIN INT16_MAX
  omega

theorem magnitude_scaled (hp : 0 < p) {sample : Int16} (hsample : magnitude sample ≤ p) :
    magnitude (scaled p sample) = magnitude sample * 32767 / p := by
  rw [magnitude, toInt_scaled, scaledValue_eq hp hsample, natAbs_quotient]
  rfl

/-- A sample of the peak's magnitude gets the greatest one, and no other sample a greater. -/
theorem magnitude_scaled_le (hp : 0 < p) {sample : Int16} (hsample : magnitude sample ≤ p) :
    magnitude (scaled p sample) ≤ 32767 ∧
      (magnitude sample = p → magnitude (scaled p sample) = 32767) := by
  rw [magnitude_scaled hp hsample]
  constructor
  · calc magnitude sample * 32767 / p ≤ p * 32767 / p :=
          Nat.div_le_div_right (Nat.mul_le_mul_right _ hsample)
      _ = 32767 := Nat.mul_div_cancel_left _ hp
  · intro hpeak
    rw [hpeak]
    exact Nat.mul_div_cancel_left _ hp

theorem sign_clamp (value : ℤ) :
    (max INT16_MIN (min INT16_MAX value)).sign = value.sign := by
  unfold INT16_MIN INT16_MAX
  rcases lt_trichotomy value 0 with hneg | rfl | hpos
  · rw [Int.sign_eq_neg_one_of_neg hneg, Int.sign_eq_neg_one_of_neg (by omega)]
  · rfl
  · rw [Int.sign_eq_one_of_pos hpos, Int.sign_eq_one_of_pos (by omega)]

/-- A peak below 32767 makes no sample smaller, so none loses its sign. -/
theorem sign_scaled (hp : 0 < p) (hlow : p < 32767) (sample : Int16) :
    (scaled p sample).toInt.sign = sample.toInt.sign := by
  rw [toInt_scaled, scaledValue, sign_clamp]
  by_cases hzero : sample.toInt = 0
  · rw [hzero, Int.zero_mul, Int.zero_tdiv]
  · have hgreat : ¬ (sample.toInt * 32767).natAbs < (p : ℤ).natAbs := by omega
    rw [Int.sign_tdiv, if_neg hgreat, Int.sign_mul, Int.sign_natCast_of_ne_zero hp.ne']
    exact (Int.mul_one _).trans (Int.mul_one _)

theorem scaled_le_scaled (hp : 0 < p) {a b : Int16} (hab : a ≤ b) :
    scaled p a ≤ scaled p b := by
  rw [Int16.le_iff_toInt_le] at hab ⊢
  rw [toInt_scaled, toInt_scaled]
  have hdiv : (a.toInt * 32767).tdiv p ≤ (b.toInt * 32767).tdiv p :=
    Int.tdiv_le_tdiv (by omega) (by omega)
  exact max_le_max le_rfl (min_le_min le_rfl hdiv)

/-- Of the peak 32767, whatever the peak was. -/
theorem peak_map_scaled {samples : List Int16} (hp : 0 < peak samples) :
    peak (samples.map (scaled (peak samples))) = 32767 := by
  apply le_antisymm
  · refine peak_le (List.forall_mem_map.2 fun sample hsample => ?_)
    exact (magnitude_scaled_le hp (magnitude_le_peak hsample)).1
  · obtain ⟨sample, hsample, hpeak⟩ := exists_magnitude_eq_peak hp
    have hscaled := (magnitude_scaled_le hp (magnitude_le_peak hsample)).2 hpeak
    have hle := magnitude_le_peak (List.mem_map_of_mem (f := scaled (peak samples)) hsample)
    omega

end

/-! ## The function -/

/-- What the normalized clip has of the clip, and what it does not. -/
structure FullScale (audio result : WavAudio) : Prop where
  sample_rate : result.sample_rate = audio.sample_rate
  channels : result.channels = audio.channels
  length : result.samples.length = audio.samples.length
  /-- Silence and full scale are left alone. -/
  unchanged : peak audio.samples = 0 ∨ 32767 ≤ peak audio.samples → result = audio
  /-- Any other clip is scaled, each sample by itself. -/
  scaled : 0 < peak audio.samples → peak audio.samples < 32767 →
    ∃ scaled : Int16 → Int16, result.samples = audio.samples.map scaled ∧
      peak result.samples = 32767 ∧
      (∀ sample ∈ result.samples, -32767 ≤ sample.toInt ∧ sample.toInt ≤ 32767) ∧
      (∀ sample, (scaled sample).toInt.sign = sample.toInt.sign) ∧
      ∀ a b, a ≤ b → scaled a ≤ scaled b

theorem normalize_to_full_scale_eq (audio : WavAudio) :
    normalize_to_full_scale audio =
      some (if peak audio.samples = 0 ∨ 32767 ≤ peak audio.samples then audio
        else { audio with samples := audio.samples.map (scaled (peak audio.samples)) }) := by
  have hpeak : peak_loop audio.samples 0 = some (peak audio.samples : ℤ) := by
    rw [← Nat.cast_zero, peak_loop_eq, Nat.zero_max]
  unfold normalize_to_full_scale
  rw [hpeak, Option.bind_eq_bind, Option.bind_some]
  by_cases hleft : peak audio.samples = 0 ∨ 32767 ≤ peak audio.samples
  · have hleft' : (peak audio.samples : ℤ) ≤ 0 ∨ INT16_MAX ≤ peak audio.samples := by
      unfold INT16_MAX
      omega
    rw [if_pos hleft, if_pos hleft']
  · have hleft' : ¬ ((peak audio.samples : ℤ) ≤ 0 ∨ INT16_MAX ≤ peak audio.samples) := by
      unfold INT16_MAX
      omega
    rw [if_neg hleft, if_neg hleft', mapM_scale (by omega)]
    rfl

/-- Every clip is normalized without an overflow or a division by zero, to full scale; and a
normalized clip is left as it is. -/
theorem normalize_to_full_scale_spec (audio : WavAudio) :
    ∃ result, normalize_to_full_scale audio = some result ∧ FullScale audio result ∧
      normalize_to_full_scale result = some result := by
  by_cases hleft : peak audio.samples = 0 ∨ 32767 ≤ peak audio.samples
  · have hnormalized := normalize_to_full_scale_eq audio
    rw [if_pos hleft] at hnormalized
    refine ⟨audio, hnormalized, ⟨rfl, rfl, rfl, fun _ => rfl, fun hpos hlow => ?_⟩, hnormalized⟩
    omega
  · have hpos : 0 < peak audio.samples := by omega
    have hlow : peak audio.samples < 32767 := by omega
    have hpeak := peak_map_scaled hpos
    refine ⟨_, normalize_to_full_scale_eq audio, ?_, ?_⟩
    · rw [if_neg hleft]
      refine ⟨rfl, rfl, List.length_map .., fun h => absurd h hleft, fun _ _ => ?_⟩
      refine ⟨scaled (peak audio.samples), rfl, hpeak, fun sample hsample => ?_,
        sign_scaled hpos hlow, fun a b => scaled_le_scaled hpos⟩
      have hle := magnitude_le_peak hsample
      rw [hpeak, magnitude] at hle
      omega
    · rw [if_neg hleft, normalize_to_full_scale_eq, hpeak, if_pos (.inr le_rfl)]

/-- The lowest sample has no negative of its type, and is not scaled. -/
example : normalize_to_full_scale ⟨16000, 1, [1, -32768]⟩ = some ⟨16000, 1, [1, -32768]⟩ ∧
    normalize_to_full_scale ⟨16000, 1, [1, -3, 0]⟩ = some ⟨16000, 1, [10922, -32767, 0]⟩ := by
  decide

end FactoryTest.Audio

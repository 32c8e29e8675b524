import Mathlib.Data.Rat.Floor
import Mathlib.Data.Nat.Log

/-!
# Binary64 numbers

A double is a finite number, an infinity or not a number. A finite double is represented by the
rational it denotes, together with the proof that it is a binary64 number, so comparisons of
finite doubles are comparisons of rationals; the sign of a zero is not kept.

Conversions from 64-bit unsigned integers round to nearest, ties to even; below `2 ^ 53` they
are exact (`ofNat_of_lt`). Conversions back to integers truncate.
-/

namespace FactoryTest

/-- The rational is a finite binary64 number: at most 53 significant bits, and an exponent in
range. -/
def Binary64 (q : ℚ) : Prop :=
  q.den ∣ 2 ^ 1074 ∧ 2 ^ (Nat.log2 q.num.natAbs - 52) ∣ q.num.natAbs ∧
    Nat.log2 q.num.natAbs < 1024

instance (q : ℚ) : Decidable (Binary64 q) := by unfold Binary64; infer_instance

/-- A binary64 value. -/
inductive Double
  | finite (q : ℚ) (h : Binary64 q)
  | infinity (negative : Bool)
  | nan
  deriving DecidableEq

namespace Double

/-! ## Unsigned integers -/

/-- `n` rounded to 53 significant bits, to nearest and ties to even. -/
def roundSignificand (n : ℕ) : ℕ :=
  if n < 2 ^ 53 then n
  else
    let unit := 2 ^ (Nat.log2 n - 52)
    let quotient := n / unit
    let rest := 2 * (n % unit)
    if rest < unit ∨ (rest = unit ∧ quotient % 2 = 0) then quotient * unit
    else (quotient + 1) * unit

theorem log2_lt_of_lt_pow {n k : ℕ} (hk : k ≠ 0) (h : n < 2 ^ k) : Nat.log2 n < k := by
  by_cases hn : n = 0
  · subst hn
    exact Nat.pos_of_ne_zero hk
  · exact (Nat.log2_lt hn).2 h

theorem binary64_natCast {n : ℕ} (hdvd : 2 ^ (Nat.log2 n - 52) ∣ n) (h : Nat.log2 n < 1024) :
    Binary64 n :=
  ⟨one_dvd _, hdvd, h⟩

/-- Numbers below `2 ^ 53` are binary64 numbers. -/
theorem binary64_of_lt {n : ℕ} (h : n < 2 ^ 53) : Binary64 n := by
  have hlog : Nat.log2 n < 53 := log2_lt_of_lt_pow (by decide) h
  have hunit : Nat.log2 n - 52 = 0 := by omega
  exact binary64_natCast (by rw [hunit]; exact one_dvd n) (by omega)

/-- A multiple of a power of two by at most `2 ^ 53` is a binary64 number. -/
theorem binary64_mul_pow {k e : ℕ} (hk : k ≤ 2 ^ 53) (he : e < 900) :
    Binary64 ((k * 2 ^ e : ℕ) : ℚ) := by
  rcases hk.lt_or_eq with hlt | rfl
  · have hlog : Nat.log2 (k * 2 ^ e) < 53 + e := by
      refine log2_lt_of_lt_pow (by omega) ?_
      rw [Nat.pow_add]
      exact Nat.mul_lt_mul_of_pos_right hlt (by positivity)
    exact binary64_natCast ((Nat.pow_dvd_pow 2 (by omega)).trans (Nat.dvd_mul_left _ _)) (by omega)
  · refine binary64_natCast ?_ ?_ <;> rw [← Nat.pow_add, Nat.log2_two_pow]
    · exact Nat.pow_dvd_pow 2 (by omega)
    · omega

/-- Rounding leads to a binary64 number. -/
theorem binary64_roundSignificand {n : ℕ} (h : n < 2 ^ 64) : Binary64 (roundSignificand n) := by
  unfold roundSignificand
  split_ifs with hsmall
  · exact binary64_of_lt hsmall
  · have hn : n ≠ 0 := by
      rintro rfl
      exact hsmall (by decide)
    have hlog : 53 ≤ Nat.log2 n := (Nat.le_log2 hn).2 (not_lt.1 hsmall)
    have hlog' : Nat.log2 n < 64 := log2_lt_of_lt_pow (by decide) h
    have hquotient : n / 2 ^ (Nat.log2 n - 52) < 2 ^ 53 := by
      rw [Nat.div_lt_iff_lt_mul (by positivity), ← Nat.pow_add]
      exact (Nat.log2_lt hn).1 (by omega)
    dsimp only
    split_ifs
    · exact binary64_mul_pow hquotient.le (by omega)
    · exact binary64_mul_pow hquotient (by omega)

/-- `static_cast<double>` of a 64-bit unsigned integer. -/
def ofNat (n : ℕ) : Double :=
  .finite (roundSignificand (n % 2 ^ 64)) (binary64_roundSignificand (Nat.mod_lt _ (by decide)))

theorem ofNat_of_lt {n : ℕ} (h : n < 2 ^ 53) : ofNat n = .finite n (binary64_of_lt h) := by
  have hmod : n % 2 ^ 64 = n := Nat.mod_eq_of_lt (h.trans (by decide))
  simp only [ofNat, hmod, roundSignificand, if_pos h]

/-! ## Signed integers -/

theorem binary64_neg {q : ℚ} (h : Binary64 q) : Binary64 (-q) := by
  unfold Binary64 at *
  rwa [Rat.den_neg_eq_den, Rat.num_neg_eq_neg_num, Int.natAbs_neg]

/-- `-d`. -/
def neg : Double → Double
  | finite q h => finite (-q) (binary64_neg h)
  | infinity negative => infinity !negative
  | nan => nan

/-- `static_cast<double>` of a signed integer of at most 64 bits. -/
def ofInt : ℤ → Double
  | .ofNat n => ofNat n
  | .negSucc n => (ofNat (n + 1)).neg

/-! ## Tests and truncation -/

/-- `std::isfinite`. -/
def isfinite : Double → Bool
  | finite _ _ => true
  | _ => false

@[simp] theorem isfinite_finite (q : ℚ) (h : Binary64 q) : (finite q h).isfinite = true := rfl

@[simp] theorem isfinite_ofNat (n : ℕ) : (ofNat n).isfinite = true := rfl

/-- `d >= 0.0`. -/
def nonnegative : Double → Bool
  | finite q _ => decide (0 ≤ q)
  | infinity negative => !negative
  | nan => false

/-- Truncation to an integer. On an infinity and on not-a-number, where the conversion is
undefined, the result is `0`. -/
def truncate : Double → ℤ
  | finite q _ => if 0 ≤ q then ⌊q⌋ else ⌈q⌉
  | _ => 0

@[simp] theorem truncate_finite_natCast (n : ℕ) (h : Binary64 n) :
    (finite (n : ℚ) h).truncate = n := by
  simp [truncate]

end Double

end FactoryTest

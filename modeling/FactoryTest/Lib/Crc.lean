import Mathlib.Data.List.Basic
import Mathlib.Logic.Function.Iterate
import Mathlib.Tactic.Common

/-!
# Cyclic redundancy checks

A register of `w` bits takes in bits one by one: the bit is added to the lowest one, and the
register moves down by one place, with the polynomial added if a one falls out (`feed`). The
remainder of a list of bits is what the register holds after them.

**Linearity** (`remainder_xor`). The remainder of a sum is the sum of the remainders, so an error
has a remainder of its own, whatever it is added to.

**Bursts** (`remainder_burst`). Bits that are no more than the register is wide are taken in as
one word (`remainder_eq_shifts`), and if the polynomial has its highest coefficient, no shift
makes a register zero that was not (`shift_eq_zero`). So an error that lies within `w` bits is
never lost.
-/

namespace FactoryTest.Crc

variable {w : ℕ} (poly : BitVec w)

/-- The register moves down by one place. -/
def shift (c : BitVec w) : BitVec w := if c.getLsbD 0 then c >>> 1 ^^^ poly else c >>> 1

/-- A bit as a register. -/
def bit (b : Bool) : BitVec w := (BitVec.ofBool b).setWidth w

/-- The register takes in a bit. -/
def feed (c : BitVec w) (b : Bool) : BitVec w := shift poly (c ^^^ bit b)

/-- The register after the bits. -/
def remainder (c : BitVec w) (bits : List Bool) : BitVec w := bits.foldl (feed poly) c

/-- The register that holds the bits, the first one lowest. -/
def word (bits : List Bool) : BitVec w := (BitVec.ofBoolListLE bits).setWidth w

theorem getLsbD_word (bits : List Bool) (i : ℕ) :
    (word bits : BitVec w).getLsbD i = (decide (i < w) && bits.getD i false) := by
  rw [word, BitVec.getLsbD_setWidth, BitVec.getLsbD_ofBoolListLE]

/-! ## Linearity -/

theorem shift_xor (a b : BitVec w) : shift poly (a ^^^ b) = shift poly a ^^^ shift poly b := by
  unfold shift
  rw [BitVec.getLsbD_xor, BitVec.ushiftRight_xor_distrib]
  apply BitVec.eq_of_getLsbD_eq
  intro i _
  cases a.getLsbD 0 <;> cases b.getLsbD 0 <;>
    simp only [BitVec.getLsbD_xor, Bool.xor_false, Bool.false_xor, Bool.xor_self,
      Bool.false_eq_true, if_true, if_false] <;>
    cases poly.getLsbD i <;> simp

theorem bit_xor (a b : Bool) : (bit (a ^^ b) : BitVec w) = bit a ^^^ bit b := by
  cases a <;> cases b <;> simp [bit]

theorem feed_xor (c d : BitVec w) (a b : Bool) :
    feed poly (c ^^^ d) (a ^^ b) = feed poly c a ^^^ feed poly d b := by
  unfold feed
  rw [bit_xor, ← shift_xor]
  congr 1
  ac_rfl

theorem remainder_append (c : BitVec w) (xs ys : List Bool) :
    remainder poly c (xs ++ ys) = remainder poly (remainder poly c xs) ys :=
  List.foldl_append

/-- The remainder of a sum. -/
theorem remainder_xor {xs ys : List Bool} (h : xs.length = ys.length) (c d : BitVec w) :
    remainder poly (c ^^^ d) (List.zipWith (· ^^ ·) xs ys) =
      remainder poly c xs ^^^ remainder poly d ys := by
  induction xs generalizing ys c d with
  | nil =>
    obtain rfl := List.eq_nil_of_length_eq_zero h.symm
    rfl
  | cons x xs ih =>
    cases ys with
    | nil => cases h
    | cons y ys =>
      show remainder poly (feed poly (c ^^^ d) (x ^^ y)) _ = _
      rw [feed_xor]
      exact ih (Nat.succ.inj h) _ _

/-! ## Words -/

/-- Bits that fit into the register are taken in as one word. -/
theorem remainder_eq_shifts {bits : List Bool} (h : bits.length ≤ w) (c : BitVec w) :
    remainder poly c bits = (shift poly)^[bits.length] (c ^^^ word bits) := by
  induction bits generalizing c with
  | nil =>
    have hzero : (word [] : BitVec w) = 0#w := by
      apply BitVec.eq_of_getLsbD_eq
      intro i _
      simp [getLsbD_word]
    rw [hzero, BitVec.xor_zero]
    rfl
  | cons b bits ih =>
    rw [List.length_cons] at h
    have hsplit : c ^^^ word (b :: bits) = c ^^^ bit b ^^^ word bits <<< 1 := by
      apply BitVec.eq_of_getLsbD_eq
      intro i hi
      simp only [BitVec.getLsbD_xor, getLsbD_word, BitVec.getLsbD_shiftLeft, bit,
        BitVec.getLsbD_setWidth, BitVec.getLsbD_ofBool]
      cases i with
      | zero => simp [hi]
      | succ i => simp [hi, Nat.lt_of_succ_lt hi]
    -- The highest bit is free, so nothing is lost on the way up.
    have hback : shift poly (word bits <<< 1) = word bits := by
      have hlow : (word bits <<< 1 : BitVec w).getLsbD 0 = false := by
        simp [BitVec.getLsbD_shiftLeft]
      rw [shift, hlow, if_neg Bool.false_ne_true]
      apply BitVec.eq_of_getLsbD_eq
      intro i hi
      rw [BitVec.getLsbD_ushiftRight, BitVec.getLsbD_shiftLeft]
      by_cases hlast : 1 + i < w
      · simp [hlast]
      · have hout : bits.length ≤ i := by omega
        simp [hlast, getLsbD_word, List.getElem?_eq_none hout]
    show remainder poly (feed poly c b) bits = _
    rw [ih (Nat.le_of_succ_le h), List.length_cons, Function.iterate_succ_apply, hsplit, shift_xor,
      hback]
    rfl

theorem remainder_replicate_false (k : ℕ) (c : BitVec w) :
    remainder poly c (List.replicate k false) = (shift poly)^[k] c := by
  induction k generalizing c with
  | zero => rfl
  | succ k ih =>
    rw [List.replicate_succ]
    show remainder poly (feed poly c false) _ = _
    have hfeed : feed poly c false = shift poly c := by
      have hbit : (bit false : BitVec w) = 0#w := by simp [bit]
      rw [feed, hbit, BitVec.xor_zero]
    rw [ih, hfeed, Function.iterate_succ_apply]

theorem iterate_shift_zero (k : ℕ) : (shift poly)^[k] 0#w = 0#w := by
  induction k with
  | zero => rfl
  | succ k ih =>
    rw [Function.iterate_succ_apply', ih]
    simp [shift]

/-! ## Bursts -/

variable {poly}

/-- With its highest coefficient the polynomial keeps a register from becoming zero. -/
theorem shift_eq_zero (hpoly : poly.msb = true) {c : BitVec w} (h : shift poly c = 0#w) :
    c = 0#w := by
  have hw : 0 < w := by
    by_contra hzero
    obtain rfl : w = 0 := by omega
    simp [BitVec.msb] at hpoly
  have hget (i : ℕ) : (shift poly c).getLsbD i = false := by
    rw [h]
    simp
  cases hlow : c.getLsbD 0 with
  | true =>
    -- What moved down has no highest bit to cancel that of the polynomial.
    have hhigh := hget (w - 1)
    rw [shift, if_pos hlow, BitVec.getLsbD_xor, BitVec.getLsbD_ushiftRight,
      BitVec.getLsbD_of_ge c (1 + (w - 1)) (by omega), Bool.false_xor,
      ← BitVec.msb_eq_getLsbD_last, hpoly] at hhigh
    cases hhigh
  | false =>
    apply BitVec.eq_of_getLsbD_eq
    intro i _
    rw [BitVec.getLsbD_zero]
    cases i with
    | zero => exact hlow
    | succ i =>
      have hup := hget i
      rw [shift, hlow, if_neg Bool.false_ne_true, BitVec.getLsbD_ushiftRight, Nat.add_comm] at hup
      exact hup

theorem iterate_shift_ne_zero (hpoly : poly.msb = true) {c : BitVec w} (h : c ≠ 0#w) (k : ℕ) :
    (shift poly)^[k] c ≠ 0#w := by
  induction k with
  | zero => exact h
  | succ k ih =>
    rw [Function.iterate_succ_apply']
    exact fun hzero => ih (shift_eq_zero hpoly hzero)

theorem word_ne_zero {bits : List Bool} (h : bits.length ≤ w) (hbits : true ∈ bits) :
    (word bits : BitVec w) ≠ 0#w := by
  obtain ⟨i, hi, hget⟩ := List.getElem_of_mem hbits
  intro hzero
  have hbit : (word bits : BitVec w).getLsbD i = false := by
    rw [hzero]
    simp
  rw [getLsbD_word, List.getD_eq_getElem?_getD, List.getElem?_eq_getElem hi, hget,
    Option.getD_some, decide_eq_true (Nat.lt_of_lt_of_le hi h)] at hbit
  cases hbit

/-- An error within as many bits as the register has is not lost. -/
theorem remainder_burst (hpoly : poly.msb = true) {bits : List Bool} (h : bits.length ≤ w)
    (hbits : true ∈ bits) (i j : ℕ) :
    remainder poly 0#w (List.replicate i false ++ (bits ++ List.replicate j false)) ≠ 0#w := by
  rw [remainder_append, remainder_append, remainder_replicate_false poly i, iterate_shift_zero,
    remainder_eq_shifts _ h, BitVec.zero_xor, remainder_replicate_false]
  exact iterate_shift_ne_zero hpoly (iterate_shift_ne_zero hpoly (word_ne_zero h hbits) _) _

end FactoryTest.Crc

import Mathlib.Data.Nat.Bitwise
import Mathlib.Tactic.Common

/-!
# Words made of bytes

Shifting bytes to disjoint places and joining them with a disjunction is a sum of multiples of
powers of 256 (`toNat_word`, `toNat_quad`); shifting a word back and masking it is a division
with remainder (`toNat_shiftRight_byte`, `toNat_shiftRight_word`). With these, equality of words
assembled in different ways is linear arithmetic.
-/

namespace FactoryTest.Bytes

/-- Bits in disjoint places add up. -/
theorem or_eq_add {x y k : ℕ} (hy : y < 2 ^ k) (hx : 2 ^ k ∣ x) : x ||| y = x + y := by
  obtain ⟨q, rfl⟩ := hx
  exact (Nat.two_pow_add_eq_or_of_lt hy q).symm

/-- Two bytes, the lower first. -/
theorem toNat_word (lo hi : UInt8) :
    (lo.toUInt16 ||| hi.toUInt16 <<< 8).toNat = lo.toNat + 256 * hi.toNat := by
  have hlo := lo.toNat_lt
  have hhi := hi.toNat_lt
  have hshift : (hi.toUInt16 <<< 8).toNat = 256 * hi.toNat := by
    show hi.toNat <<< 8 % 2 ^ 16 = _
    rw [Nat.shiftLeft_eq]
    omega
  rw [UInt16.toNat_or, hshift, Nat.or_comm, Nat.add_comm]
  exact or_eq_add (k := 8) hlo (Dvd.intro _ rfl)

theorem toNat_shiftLeft_byte (b : UInt8) {k : ℕ} (hk : k ≤ 56) :
    (b.toUInt64 <<< UInt64.ofNat k).toNat = 2 ^ k * b.toNat := by
  have hb := b.toNat_lt
  have hmod : k % 64 = k := Nat.mod_eq_of_lt (by omega)
  have hk64 : (UInt64.ofNat k).toNat = k :=
    UInt64.toNat_ofNat_of_lt' (by simp only [UInt64.size]; omega)
  have hle : 2 ^ k * b.toNat < 2 ^ 64 := by
    calc 2 ^ k * b.toNat < 2 ^ k * 2 ^ 8 := Nat.mul_lt_mul_of_pos_left hb (Nat.two_pow_pos k)
      _ = 2 ^ (k + 8) := (Nat.pow_add 2 k 8).symm
      _ ≤ 2 ^ 64 := Nat.pow_le_pow_right (by decide) (by omega)
  rw [UInt64.toNat_shiftLeft, hk64, hmod, UInt8.toNat_toUInt64, Nat.shiftLeft_eq, Nat.mul_comm,
    Nat.mod_eq_of_lt hle]

/-- Four bytes, the highest first. -/
theorem toNat_quad (a b c d : UInt8) :
    (a.toUInt64 <<< 24 ||| b.toUInt64 <<< 16 ||| c.toUInt64 <<< 8 ||| d.toUInt64).toNat =
      2 ^ 24 * a.toNat + 2 ^ 16 * b.toNat + 2 ^ 8 * c.toNat + d.toNat := by
  have hb := b.toNat_lt
  have hc := c.toNat_lt
  have hd := d.toNat_lt
  have h₁ : 2 ^ 24 * a.toNat ||| 2 ^ 16 * b.toNat = 2 ^ 24 * a.toNat + 2 ^ 16 * b.toNat :=
    or_eq_add (k := 24) (by omega) (by omega)
  have h₂ : 2 ^ 24 * a.toNat + 2 ^ 16 * b.toNat ||| 2 ^ 8 * c.toNat =
      2 ^ 24 * a.toNat + 2 ^ 16 * b.toNat + 2 ^ 8 * c.toNat :=
    or_eq_add (k := 16) (by omega) (by omega)
  have h₃ : 2 ^ 24 * a.toNat + 2 ^ 16 * b.toNat + 2 ^ 8 * c.toNat ||| d.toNat =
      2 ^ 24 * a.toNat + 2 ^ 16 * b.toNat + 2 ^ 8 * c.toNat + d.toNat :=
    or_eq_add (k := 8) (by omega) (by omega)
  rw [UInt64.toNat_or, UInt64.toNat_or, UInt64.toNat_or,
    show (24 : UInt64) = .ofNat 24 from rfl, show (16 : UInt64) = .ofNat 16 from rfl,
    show (8 : UInt64) = .ofNat 8 from rfl, toNat_shiftLeft_byte a (by decide),
    toNat_shiftLeft_byte b (by decide), toNat_shiftLeft_byte c (by decide),
    UInt8.toNat_toUInt64, h₁, h₂, h₃]

theorem toNat_shiftRight_byte (v k : UInt64) :
    (v >>> k &&& 0xff).toUInt8.toNat = v.toNat / 2 ^ (k.toNat % 64) % 256 := by
  show (v.toNat >>> (k.toNat % 64) &&& 2 ^ 8 - 1) % 2 ^ 8 = _
  rw [Nat.and_two_pow_sub_one_eq_mod, Nat.shiftRight_eq_div_pow, Nat.mod_mod]

theorem toNat_shiftRight_word (v k : UInt64) :
    (v >>> k &&& 0xffff).toUInt16.toNat = v.toNat / 2 ^ (k.toNat % 64) % 65536 := by
  show (v.toNat >>> (k.toNat % 64) &&& 2 ^ 16 - 1) % 2 ^ 16 = _
  rw [Nat.and_two_pow_sub_one_eq_mod, Nat.shiftRight_eq_div_pow, Nat.mod_mod]

theorem toNat_low_byte (v : UInt64) : (v &&& 0xff).toUInt8.toNat = v.toNat % 256 := by
  show (v.toNat &&& 2 ^ 8 - 1) % 2 ^ 8 = _
  rw [Nat.and_two_pow_sub_one_eq_mod, Nat.mod_mod]

/-- The bytes that a mask cuts out of four. -/
theorem quad_bytes (a b c d : UInt8) :
    let v := a.toUInt64 <<< 24 ||| b.toUInt64 <<< 16 ||| c.toUInt64 <<< 8 ||| d.toUInt64
    (v &&& 0xff).toUInt8 = d ∧ (v >>> 8 &&& 0xff).toUInt8 = c ∧
      (v >>> 8 &&& 0xffff).toUInt16 = c.toUInt16 ||| b.toUInt16 <<< 8 := by
  intro v
  have ha := a.toNat_lt
  have hb := b.toNat_lt
  have hc := c.toNat_lt
  have hd := d.toNat_lt
  have hv : v.toNat = _ := toNat_quad a b c d
  have h8 : (8 : UInt64).toNat % 64 = 8 := rfl
  refine ⟨?_, ?_, ?_⟩
  · apply UInt8.toNat_inj.1
    rw [toNat_low_byte, hv]
    omega
  · apply UInt8.toNat_inj.1
    rw [toNat_shiftRight_byte, hv, h8]
    omega
  · apply UInt16.toNat_inj.1
    rw [toNat_shiftRight_word, hv, h8, toNat_word]
    omega

/-- The two words that four bytes are made of. -/
theorem quad_words (a b c d : UInt8) :
    let v := a.toUInt64 <<< 24 ||| b.toUInt64 <<< 16 ||| c.toUInt64 <<< 8 ||| d.toUInt64
    let value := (v &&& 0xffffffff).toUInt32
    (value >>> 16 &&& 0xffff).toUInt16 = b.toUInt16 ||| a.toUInt16 <<< 8 ∧
      (value &&& 0xffff).toUInt16 = d.toUInt16 ||| c.toUInt16 <<< 8 := by
  intro v value
  have ha := a.toNat_lt
  have hb := b.toNat_lt
  have hc := c.toNat_lt
  have hd := d.toNat_lt
  have hv : v.toNat = _ := toNat_quad a b c d
  have hvalue : value.toNat = v.toNat % 2 ^ 32 := by
    show (v.toNat &&& 2 ^ 32 - 1) % 2 ^ 32 = _
    rw [Nat.and_two_pow_sub_one_eq_mod, Nat.mod_mod]
  constructor
  · apply UInt16.toNat_inj.1
    show (value.toNat >>> 16 &&& 2 ^ 16 - 1) % 2 ^ 16 = _
    rw [Nat.and_two_pow_sub_one_eq_mod, Nat.shiftRight_eq_div_pow, Nat.mod_mod,
      hvalue, hv, toNat_word]
    omega
  · apply UInt16.toNat_inj.1
    show (value.toNat &&& 2 ^ 16 - 1) % 2 ^ 16 = _
    rw [Nat.and_two_pow_sub_one_eq_mod, Nat.mod_mod, hvalue, hv, toNat_word]
    omega

theorem xor_eq_ones_iff {a b : UInt8} : a ^^^ b = 0xff ↔ b = ~~~a := by
  have h : a ^^^ ~~~a = 0xff := by rw [UInt8.xor_not, UInt8.xor_self]; rfl
  rw [← h, UInt8.xor_right_inj]

end FactoryTest.Bytes

import Mathlib.Data.Rat.Floor
import Outlays.Cents

/-!
# Doubles as rational numbers

A finite double is a rational number, and to drop its fraction bit by bit is to drop the fraction
of that number. So the cents of an amount can be told by the number alone, without a look at bits.

## Main definitions

* `wholePart` — a number without its fraction
* `wholeCents` — a number of cents without its fraction, as far as 64 bits go
* `Double.value?` — the number that a double is

## Main results

* `Double.truncate_of_value?` — the whole part of a double is that of its number
* `Cents.value_ofScaledSum` — the cents of a scaled sum are those of its number
-/

namespace Outlays

/-- The number without its fraction: the nearest whole number on the way to zero. -/
def wholePart (q : ℚ) : Int := if 0 ≤ q then ⌊q⌋ else ⌈q⌉

/-- The number of cents without its fraction, or the end of the range of 64 bits that it passes. -/
def wholeCents (q : ℚ) : Int := max (-2 ^ 63) (min (2 ^ 63 - 1) (wholePart q))

theorem clampToInt64_wholePart (q : ℚ) : clampToInt64 (wholePart q) = wholeCents q := rfl

theorem wholePart_of_nonneg {q : ℚ} (h : 0 ≤ q) : wholePart q = ⌊q⌋ := if_pos h

theorem wholePart_neg_of_nonneg {q : ℚ} (h : 0 ≤ q) : wholePart (-q) = -⌊q⌋ := by
  by_cases hq : q = 0
  · subst hq
    rfl
  · have hneg : ¬ 0 ≤ -q := by
      rw [neg_nonneg]
      exact fun hle => hq (le_antisymm hle h)
    rw [wholePart, if_neg hneg, Int.ceil_neg]

namespace Double

/-- The size of a finite double. -/
def Binary.size (b : Binary) : ℚ := b.mantissa * 2 ^ b.exponent

/-- The number that a double is, if it is finite. -/
def value? (x : Float) : Option ℚ :=
  (binary? x).map fun b => if b.negative then -b.size else b.size

theorem Binary.size_nonneg (b : Binary) : 0 ≤ b.size :=
  mul_nonneg (Nat.cast_nonneg _) (zpow_nonneg zero_le_two _)

/-- The whole part that is read off the bits is that of the number. -/
theorem Binary.floor_size (b : Binary) : ⌊b.size⌋ = (b.wholePart : Int) := by
  rw [size, Binary.wholePart]
  by_cases hexponent : 0 ≤ b.exponent
  -- The mantissa is shifted up, so there is no fraction to drop.
  · obtain ⟨n, hn⟩ := Int.eq_ofNat_of_zero_le hexponent
    rw [if_pos hexponent, hn, zpow_natCast, Int.toNat_natCast, Nat.shiftLeft_eq]
    have hwhole : (b.mantissa : ℚ) * 2 ^ n = ((b.mantissa * 2 ^ n : ℕ) : ℚ) := by push_cast; rfl
    rw [hwhole, Int.floor_natCast]
  -- The mantissa is shifted down, which divides it and drops the remainder.
  · obtain ⟨n, hn⟩ : ∃ n : ℕ, b.exponent = -(n : ℤ) := ⟨(-b.exponent).toNat, by omega⟩
    rw [if_neg hexponent, hn, zpow_neg, zpow_natCast, neg_neg, Int.toNat_natCast,
      Nat.shiftRight_eq_div_pow, ← div_eq_mul_inv]
    have hquotient : (b.mantissa : ℚ) / 2 ^ n = ((b.mantissa : ℤ) : ℚ) / ((2 ^ n : ℕ) : ℚ) := by
      push_cast
      rfl
    rw [hquotient, Rat.floor_intCast_div_natCast]
    push_cast
    rfl

/-- The whole part of a double is that of the number it is. -/
theorem truncate_of_value? {x : Float} {q : ℚ} (h : value? x = some q) :
    truncate x = Outlays.wholePart q := by
  rw [value?, Option.map_eq_some_iff] at h
  obtain ⟨b, hb, rfl⟩ := h
  rw [truncate, hb]
  simp only [signed]
  by_cases hsign : b.negative = true
  · rw [if_pos hsign, if_pos hsign, wholePart_neg_of_nonneg b.size_nonneg, b.floor_size]
  · rw [if_neg hsign, if_neg hsign, wholePart_of_nonneg b.size_nonneg, b.floor_size]

/-- What is not finite has no whole part. -/
theorem truncate_of_value?_eq_none {x : Float} (h : value? x = none) : truncate x = 0 := by
  rw [value?, Option.map_eq_none_iff] at h
  rw [truncate, h]

end Double

/-- The cents of a scaled sum are those of its number, and none if it is not finite. -/
theorem Cents.value_ofScaledSum (x : Float) :
    (ofScaledSum x).value = ((Double.value? x).map wholeCents).getD 0 := by
  rw [ofScaledSum]
  cases hvalue : Double.value? x with
  | none =>
    rw [Double.truncate_of_value?_eq_none hvalue]
    rfl
  | some q => rw [Double.truncate_of_value? hvalue, clampToInt64_wholePart, Option.map_some,
      Option.getD_some]

end Outlays

/-!
# Doubles as exact numbers

A finite double is `±m · 2^q` for a natural number `m` and an integer `q`. This module reads `m`
and `q` off the bits and builds on them what the rest needs exactly: the whole part, rounding to
whole numbers, the total order of all doubles, and the range of whole numbers in 64 bits.

## Main definitions

* `Double.Binary`, `Double.binary?` — a finite double as `±m · 2^q`
* `Double.ordinal` — the place of a double in the total order of doubles
* `Double.truncate`, `Double.roundHalfAway` — towards zero, and to the nearest whole number
* `Double.ofDecimal` — the double nearest to a decimal number
-/

namespace Outlays.Double

/-- A finite double: `mantissa · 2^exponent`, below zero when `negative`. -/
structure Binary where
  negative : Bool
  mantissa : Nat
  exponent : Int
  deriving Repr, DecidableEq

/-- The weight of the sign bit, 2^63. -/
def signUnit : Nat := 9223372036854775808

/-- The weight of the lowest bit of the exponent, 2^52. -/
def fractionUnit : Nat := 4503599627370496

/-- The parts of a double, or `none` for the infinities and for what is not a number. -/
def binary? (x : Float) : Option Binary :=
  let bits := x.toBits.toNat
  let negative := bits / signUnit == 1
  let field : Nat := bits / fractionUnit % 2048
  let fraction : Nat := bits % fractionUnit
  if field = 2047 then none
  else if field = 0 then some ⟨negative, fraction, -1074⟩
  else some ⟨negative, fraction + fractionUnit, (field : Int) - 1075⟩

/-- The double is neither infinite nor undefined. -/
def isFinite (x : Float) : Bool := (binary? x).isSome

/-- The sign bit is set. -/
def isNegative (x : Float) : Bool := x.toBits.toNat / signUnit == 1

/-- The place of a double in the total order: below zero in reverse order of the remaining bits,
so that `-0.0` stands just before `0.0`, and what is not a number after everything. -/
def ordinal (x : Float) : Int :=
  let bits := x.toBits.toNat
  if bits / signUnit = 1 then -((bits % signUnit : Nat) : Int) - 1 else (bits : Int)

/-- The place of the undefined result that two infinities leave behind, which carries the sign
bit and so stands before every number. -/
def indefiniteOrdinal : Int := -(signUnit : Int)

/-- The whole part of `mantissa · 2^exponent`. -/
def Binary.wholePart (b : Binary) : Nat :=
  if 0 ≤ b.exponent then b.mantissa <<< b.exponent.toNat
  else b.mantissa >>> (-b.exponent).toNat

/-- The whole number nearest to `mantissa · 2^exponent`, a half going up. -/
def Binary.nearestWhole (b : Binary) : Nat :=
  if 0 ≤ b.exponent then b.mantissa <<< b.exponent.toNat
  else
    let unit := 1 <<< (-b.exponent).toNat
    (2 * b.mantissa + unit) / (2 * unit)

/-- A natural number with a sign. -/
def signed (negative : Bool) (n : Nat) : Int := if negative then -(n : Int) else (n : Int)

/-- The number without its fraction; zero for what is not finite. -/
def truncate (x : Float) : Int :=
  match binary? x with
  | some b => signed b.negative b.wholePart
  | none => 0

/-- The nearest whole number as a double, halves going away from zero and the sign kept. -/
def roundHalfAway (x : Float) : Float :=
  match binary? x with
  | none => x
  | some b =>
    if 0 ≤ b.exponent then x
    else
      let n := Float.ofNat b.nearestWhole
      if b.negative then -n else n

/-- The double nearest to `digits · 10^exponent`; an exponent out of every double's reach gives
zero or infinity without being computed. -/
def ofDecimal (negative : Bool) (digits : Nat) (exponent : Int) : Float :=
  let x :=
    if digits = 0 then 0.0
    else if exponent > 400 then 1.0 / 0.0
    else if exponent + (Nat.log2 digits + 1 : Nat) < -400 then 0.0
    else if 0 ≤ exponent then Float.ofScientific digits false exponent.toNat
    else Float.ofScientific digits true (-exponent).toNat
  if negative then -x else x

end Outlays.Double

import Outlays.Json.Basic

/-!
# Number literals

A literal without fraction and exponent is a whole number if 64 bits hold it. Every other literal
is a double, read from as many leading digits as 64 bits hold, by one multiplication or up to two
divisions with powers of ten. Both steps round, so a literal of many digits can be read as a
neighbour of the nearest double.
-/

namespace Outlays.Json

/-- A number literal cut into its parts; digits are given by their values. -/
structure Literal where
  negative : Bool
  whole : List Nat
  /-- The digits after the point; there is at least one when there is a point. -/
  fraction : Option (List Nat)
  /-- The sign of the exponent (`true` when it is negative) and its digits. -/
  exponent : Option (Bool × List Nat)
  deriving Repr, DecidableEq

namespace Literal

/-- The number that decimal digits stand for. -/
def ofDigits (digits : List Nat) : Nat := digits.foldl (fun n d => 10 * n + d) 0

/-- The leading digits of the whole part that 64 bits hold, and how many are left out. -/
def takeWhole (digits : List Nat) : Nat × Nat :=
  digits.foldl (fun (n, dropped) d =>
    if dropped = 0 && 10 * n + d ≤ uint64Max then (10 * n + d, 0) else (n, dropped + 1)) (0, 0)

/-- Adds digits of the fraction while 64 bits hold them; the second part counts the added. -/
def takeFraction (start : Nat) : List Nat → Nat × Nat
  | [] => (start, 0)
  | d :: rest =>
    if 10 * start + d ≤ uint64Max then
      let (n, added) := takeFraction (10 * start + d) rest
      (n, added + 1)
    else (start, 0)

/-- The double 10^n. -/
def powerOfTen (n : Nat) : Float := Float.ofScientific 1 false n

/-- `n · 10^e`, rounding at each step; `none` when it is beyond every double. -/
def scale (n : Nat) (e : Int) : Option Float :=
  let x := Float.ofNat n
  if n = 0 then some 0.0
  else if e > 308 then none
  else if 0 ≤ e then
    let y := x * powerOfTen e.toNat
    if Double.isFinite y then some y else none
  else if -308 ≤ e then some (x / powerOfTen (-e).toNat)
  else if -616 ≤ e then some (x / powerOfTen 308 / powerOfTen (-e - 308).toNat)
  else some 0.0

/-- The double that the literal denotes, if it has one. -/
def double? (l : Literal) : Option Float :=
  let (n, dropped) := takeWhole l.whole
  let (n, added) := takeFraction n (l.fraction.getD [])
  let power : Int := match l.exponent with
    | some (negative, digits) => Double.signed negative (ofDigits digits)
    | none => 0
  (scale n (dropped - added + power)).map fun x => if l.negative then -x else x

/-- The number that the literal denotes, if it has one. A minus sign before zero makes a double,
since no whole number is a negative zero. -/
def number? (l : Literal) : Option Number :=
  let n := Double.signed l.negative (ofDigits l.whole)
  if l.fraction.isNone && l.exponent.isNone && wholeBounds.1 ≤ n && n ≤ wholeBounds.2
      && !(l.negative && n == 0) then
    some (.whole n)
  else l.double?.map .double

end Literal

end Outlays.Json

import Outlays.Number.Double

/-!
# The shortest decimal of a double

A double is written with the fewest digits that read back to it, and of those with the digits
nearest to it. The reals that read back to `m · 2^q` form an interval around it; on each grid of
one, two, … up to seventeen digits only the two neighbours of the value have to be tried.

## Main definitions

* `Double.shortest` — the digits and the power of ten
* `Double.render` — the decimal text, positional for moderate exponents
-/

namespace Outlays.Double

/-- `n · 2^q · 10^e < n' · 2^q' · 10^e'`, in whole numbers. -/
def scaledLt (n : Nat) (q e : Int) (n' : Nat) (q' e' : Int) : Bool :=
  (n <<< (q - q').toNat) * Nat.pow 10 (e - e').toNat
    < (n' <<< (q' - q).toNat) * Nat.pow 10 (e' - e).toNat

/-- The greatest power of ten not above `m · 2^q`, for a positive `m`. The logarithm of two bounds
it within two places from below. -/
def decimalPlace (m : Nat) (q : Int) : Int :=
  let low := ((Nat.log2 m : Int) + q) * 30103 / 100000 - 1
  if !scaledLt m q 0 1 0 (low + 3) then low + 3
  else if !scaledLt m q 0 1 0 (low + 2) then low + 2
  else if !scaledLt m q 0 1 0 (low + 1) then low + 1
  else low

/-- The decimal `d · 10^e` reads back to `m · 2^q`: it lies between the midpoints to the two
neighbouring doubles, which themselves count when `m` is even. The gap below a power of two is
half the gap above it. -/
def readsBack (m : Nat) (q : Int) (d : Nat) (e : Int) : Bool :=
  let low := if m = fractionUnit && q > -1074 then 4 * m - 1 else 4 * m - 2
  let high := 4 * m + 2
  if m % 2 = 0 then !scaledLt d 0 e low (q - 2) 0 && !scaledLt high (q - 2) 0 d 0 e
  else scaledLt low (q - 2) 0 d 0 e && scaledLt d 0 e high (q - 2) 0

/-- The whole part of `m · 2^q / 10^e`. -/
def wholeQuotient (m : Nat) (q e : Int) : Nat :=
  ((m <<< q.toNat) * Nat.pow 10 (-e).toNat) / ((1 <<< (-q).toNat) * Nat.pow 10 e.toNat)

/-- The nearer of `d · 10^e` and `(d + 1) · 10^e` to `m · 2^q`, the even one on a tie. -/
def nearer (m : Nat) (q : Int) (d : Nat) (e : Int) : Nat :=
  if scaledLt (2 * m) q 0 (2 * d + 1) 0 e then d
  else if scaledLt (2 * d + 1) 0 e (2 * m) q 0 then d + 1
  else if d % 2 = 0 then d else d + 1

/-- The decimals with `17 - fuel` digits first, then with more: the first grid that reads back. -/
def shortestFrom (m : Nat) (q place : Int) : Nat → Nat × Int
  | 0 => (wholeQuotient m q (place - 16), place - 16)
  | fuel + 1 =>
    let e := place - (16 - fuel : Nat)
    let d := wholeQuotient m q e
    match readsBack m q d e, readsBack m q (d + 1) e with
    | true, true => (nearer m q d e, e)
    | true, false => (d, e)
    | false, true => (d + 1, e)
    | false, false => shortestFrom m q place fuel

/-- The digits and the power of ten of the shortest decimal that reads back to `m · 2^q`. Only
the first grid can answer with a ten, which is a one on the grid above it. -/
def shortest (m : Nat) (q : Int) : Nat × Int :=
  if m = 0 then (0, 0)
  else match shortestFrom m q (decimalPlace m q) 17 with
    | (10, e) => (1, e + 1)
    | found => found

/-- A text of zeros. -/
def zeros (n : Nat) : String := String.ofList (List.replicate n '0')

/-- Digits with a point: positional while the point stands at most sixteen places to the right of
the first digit or four zeros to its left, else with an exponent. -/
def renderDecimal (digits : Nat) (exponent : Int) : String :=
  let text := Nat.repr digits
  let n : Int := text.length
  let point := n + exponent
  if 0 ≤ exponent && point ≤ 16 then text ++ zeros exponent.toNat ++ ".0"
  else if 0 < point && point ≤ 16 then
    String.ofList (text.toList.take point.toNat) ++ "."
      ++ String.ofList (text.toList.drop point.toNat)
  else if -5 < point && point ≤ 0 then "0." ++ zeros (-point).toNat ++ text
  else
    let tail := text.toList.drop 1
    String.ofList (text.toList.take 1) ++ (if tail.isEmpty then "" else "." ++ String.ofList tail)
      ++ "e" ++ toString (point - 1)

/-- The text of a finite double; what is not finite has none. -/
def render? (x : Float) : Option String :=
  (binary? x).map fun b =>
    let (digits, exponent) := shortest b.mantissa b.exponent
    (if b.negative then "-" else "")
      ++ (if digits = 0 then "0.0" else renderDecimal digits exponent)

end Outlays.Double

import Outlays.Number.Double

/-!
# Decimal numerals

A double written as a decimal numeral, perhaps with a sign, a point and an exponent, or as one of
the words for what is not finite. The double is the nearest one.
-/

namespace Outlays.Double

/-- The value of decimal digits. -/
def digitsValue (cs : List Char) : Nat :=
  cs.foldl (fun n c => 10 * n + (c.toNat - '0'.toNat)) 0

/-- The exponent of a numeral; nothing is none. -/
def exponent? (cs : List Char) : Option Int :=
  let number (cs : List Char) : Option Nat :=
    if cs.isEmpty || !cs.all Char.isDigit then none else some (digitsValue cs)
  match cs with
  | [] => some 0
  | e :: rest =>
    if e == 'e' || e == 'E' then
      match rest with
      | '-' :: rest => (number rest).map fun n => -(n : Int)
      | '+' :: rest => (number rest).map fun n => (n : Int)
      | rest => (number rest).map fun n => (n : Int)
    else none

/-- The double of a numeral without a sign. -/
def magnitude? (negative : Bool) (cs : List Char) : Option Float :=
  let whole := cs.takeWhile Char.isDigit
  let rest := cs.dropWhile Char.isDigit
  let (fraction, rest) := match rest with
    | '.' :: rest => (rest.takeWhile Char.isDigit, rest.dropWhile Char.isDigit)
    | rest => ([], rest)
  if whole.isEmpty && fraction.isEmpty then none
  else (exponent? rest).map fun e =>
    ofDecimal negative (digitsValue (whole ++ fraction)) (e - fraction.length)

/-- The double that a text names. -/
def ofText? (s : String) : Option Float :=
  let (negative, cs) := match s.toList with
    | '-' :: rest => (true, rest)
    | '+' :: rest => (false, rest)
    | cs => (false, cs)
  let word := String.ofList (cs.map Char.toLower)
  let infinity : Float := 1.0 / 0.0
  if word == "inf" || word == "infinity" then some (if negative then -infinity else infinity)
  else if word == "nan" then some (0.0 / 0.0)
  else magnitude? negative cs

end Outlays.Double

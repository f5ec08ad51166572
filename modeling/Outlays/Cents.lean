import Outlays.Number.Double
import Outlays.Number.Width

/-!
# Amounts in cents

The search index sums values scaled by 100, so totals are whole cents; what such a sum holds
beyond them is noise and is dropped. An amount has 64 bits, and sums stop at either end of that
range.
-/

namespace Outlays

/-- The nearest whole number within 64 bits. -/
def clampToInt64 (n : Int) : Int := max int64Bounds.1 (min int64Bounds.2 n)

/-- A number of whole cents. -/
structure Cents where
  value : Int
  deriving DecidableEq, Repr

namespace Cents

/-- No money. -/
def zero : Cents := ⟨0⟩

/-- The amount of a sum of values scaled by 100: the fraction is dropped, and a sum that is not
finite counts as nothing. -/
def ofScaledSum (x : Float) : Cents := ⟨clampToInt64 (Double.truncate x)⟩

/-- The amount in dollars. -/
def toDollars (c : Cents) : Float := Float.ofInt c.value / 100.0

/-- The sum of two amounts, stopped at the ends of the range. -/
def add (a b : Cents) : Cents := ⟨clampToInt64 (a.value + b.value)⟩

instance : Add Cents := ⟨add⟩

/-- The sum of a list, from the first amount to the last. -/
def sum (amounts : List Cents) : Cents := amounts.foldl (· + ·) zero

end Cents

end Outlays

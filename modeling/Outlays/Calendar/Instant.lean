import Outlays.Calendar.Date

/-!
# Instants

A moment of Universal Time: a date, the second of the day, and the nanoseconds since that second.
The nanoseconds run on past one second during a leap second, whose text is `:60`.
-/

namespace Outlays

/-- The number of nanoseconds of a second. -/
def nanosPerSecond : Nat := 1000000000

/-- A moment of Universal Time. -/
structure Instant where
  date : Date
  second : Nat
  nano : Nat
  second_lt : second < 86400
  nano_lt : nano < 2 * nanosPerSecond
  deriving DecidableEq, Repr

namespace Instant

/-- A whole number that grows with the instant. -/
def code (t : Instant) : Int :=
  (t.date.code * 86400 + t.second) * (2 * nanosPerSecond : Nat) + t.nano

/-- Moves a local time of day on `date` to Universal Time, `offset` seconds to the west; an offset
is shorter than a day. -/
def ofLocal? (date : Date) (second nano : Nat) (offset : Int) : Option Instant :=
  let total : Int := second - offset
  let placed (date : Date) (s : Int) : Option Instant :=
    if h : s.toNat < 86400 ∧ nano < 2 * nanosPerSecond then
      some ⟨date, s.toNat, nano, h.1, h.2⟩
    else none
  if total < 0 then date.previous?.bind fun d => placed d (total + 86400)
  else if 86400 ≤ total then date.next?.bind fun d => placed d (total - 86400)
  else placed date total

/-- The fraction of a second, in the fewest of no, three, six or nine digits that is exact. -/
def renderFraction (nano : Nat) : String :=
  if nano = 0 then ""
  else if nano % 1000000 = 0 then "." ++ Date.padded 3 (nano / 1000000)
  else if nano % 1000 = 0 then "." ++ Date.padded 6 (nano / 1000)
  else "." ++ Date.padded 9 nano

/-- The text `YYYY-MM-DDTHH:MM:SS`, a fraction where there is one, and `Z`. -/
def render (t : Instant) : String :=
  let leap := t.nano / nanosPerSecond
  t.date.render ++ "T" ++ Date.padded 2 (t.second / 3600) ++ ":"
    ++ Date.padded 2 (t.second / 60 % 60) ++ ":" ++ Date.padded 2 (t.second % 60 + leap)
    ++ renderFraction (t.nano % nanosPerSecond) ++ "Z"

/-- The instant without what is smaller than a microsecond. -/
def toMicroseconds (t : Instant) : Instant :=
  { t with
    nano := t.nano / 1000 * 1000
    nano_lt := Nat.lt_of_le_of_lt (Nat.div_mul_le_self t.nano 1000) t.nano_lt }

end Instant

end Outlays

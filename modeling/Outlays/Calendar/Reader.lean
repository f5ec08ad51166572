import Outlays.Calendar.Instant
import Outlays.Text.Blank

/-!
# Reading dates and instants

The readers are lenient. Blanks may stand before every number and around the hyphens of a date; a
number needs only as many digits as its value has; a year with a sign may be of any length; an
instant may have its parts divided by a letter T or a space, and its offset by colons and blanks.

## Main definitions

* `Date.read?` — the date of a text
* `Instant.read?` — the instant of a text
-/

namespace Outlays

namespace Reading


open Text (trimStart)

/-- At most `most` digits and at least one, as the number they stand for. -/
def digitsUpTo (most : Nat) (cs : List Char) : Option (Nat × List Char) :=
  let ds := (cs.takeWhile Char.isDigit).take most
  if ds.isEmpty then none
  else some (ds.foldl (fun n c => 10 * n + (c.toNat - '0'.toNat)) 0, cs.drop ds.length)

/-- One or two digits after blanks. -/
def twoDigits (cs : List Char) : Option (Nat × List Char) := digitsUpTo 2 (trimStart cs)

/-- A year after blanks: up to four digits, or a sign and any number of them. -/
def year (cs : List Char) : Option (Int × List Char) :=
  match trimStart cs with
  | '-' :: rest => (digitsUpTo rest.length rest).map fun (n, r) => (-(n : Int), r)
  | '+' :: rest => (digitsUpTo rest.length rest).map fun (n, r) => ((n : Int), r)
  | rest => (digitsUpTo 4 rest).map fun (n, r) => ((n : Int), r)

/-- A separator after blanks. -/
def separator (c : Char) (cs : List Char) : Option (List Char) :=
  match trimStart cs with
  | d :: rest => if d = c then some rest else none
  | [] => none

/-- A year, a month and a day with hyphens between them. -/
def dateParts (cs : List Char) : Option ((Int × Nat × Nat) × List Char) := do
  let (y, cs) ← year cs
  let cs ← separator '-' cs
  let (m, cs) ← twoDigits cs
  let cs ← separator '-' cs
  let (d, cs) ← twoDigits cs
  return ((y, m, d), cs)

/-- A fraction of a second as nanoseconds; digits after the ninth are passed over. -/
def fraction (cs : List Char) : Option (Nat × List Char) :=
  match cs with
  | '.' :: rest =>
    let ds := rest.takeWhile Char.isDigit
    if ds.isEmpty then none
    else
      let kept := ds.take 9
      let n := kept.foldl (fun n c => 10 * n + (c.toNat - '0'.toNat)) 0
      some (n * Nat.pow 10 (9 - kept.length), rest.drop ds.length)
  | rest => some (0, rest)

/-- An hour, a minute and a second with colons between them, and the nanoseconds. A second of 60
is the leap second that follows second 59. -/
def timeParts (cs : List Char) : Option ((Nat × Nat) × List Char) := do
  let (h, cs) ← twoDigits cs
  let cs ← separator ':' cs
  let (m, cs) ← twoDigits cs
  let cs ← separator ':' cs
  let (s, cs) ← twoDigits cs
  let (nano, cs) ← fraction cs
  if h > 23 || m > 59 || s > 60 then none
  let leap := if s = 60 then 1 else 0
  return ((h * 3600 + m * 60 + (s - leap), nano + leap * nanosPerSecond), cs)

/-- Exactly two digits. -/
def exactlyTwo (cs : List Char) : Option (Nat × List Char) :=
  match cs with
  | a :: b :: rest =>
    if a.isDigit && b.isDigit then
      some ((a.toNat - '0'.toNat) * 10 + (b.toNat - '0'.toNat), rest)
    else none
  | _ => none

/-- Hours and minutes of an offset, in seconds. -/
def offsetParts (cs : List Char) : Option (Int × List Char) := do
  let (h, cs) ← exactlyTwo cs
  let (m, cs) ← exactlyTwo (cs.dropWhile fun c => c = ':' || Text.isBlank c)
  if m > 59 then none
  return (((h * 3600 + m * 60 : Nat) : Int), cs)

/-- An offset from Universal Time in seconds: `Z`, `UTC` in any case, or a sign with hours and
minutes. -/
def offset (cs : List Char) : Option (Int × List Char) :=
  match trimStart cs with
  | 'Z' :: rest => some (0, rest)
  | 'z' :: rest => some (0, rest)
  | '+' :: rest => offsetParts rest
  | '-' :: rest => (offsetParts rest).map fun (n, r) => (-n, r)
  | '\u2212' :: rest => (offsetParts rest).map fun (n, r) => (-n, r)
  | a :: b :: c :: rest =>
    if [a, b, c].map Char.toUpper = ['U', 'T', 'C'] then some (0, rest) else none
  | _ => none

end Reading

/-- The date that a text names, with blanks around it. -/
def Date.read? (s : String) : Option Date := do
  let ((y, m, d), rest) ← Reading.dateParts s.toList
  if !rest.all Text.isBlank then none
  Date.ofParts? y m d

/-- The instant that a text names, with blanks around it. -/
def Instant.read? (s : String) : Option Instant := do
  let ((y, m, d), rest) ← Reading.dateParts s.toList
  let rest ← match rest with
    | 't' :: r => some r
    | 'T' :: r => some r
    | ' ' :: r => some r
    | _ => none
  let ((second, nano), rest) ← Reading.timeParts rest
  let (offset, rest) ← Reading.offset rest
  if !rest.all Text.isBlank then none
  if offset ≤ -86400 || 86400 ≤ offset then none
  let date ← Date.ofParts? y m d
  Instant.ofLocal? date second nano offset

end Outlays

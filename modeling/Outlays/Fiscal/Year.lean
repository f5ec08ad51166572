import Outlays.Calendar.Reader
import Outlays.Fault.Refusal

/-!
# Fiscal years and time windows

A fiscal year begins on the first of October of the year before the one it is named for. A client
asks for one fiscal year, for everything, or for the twelve months up to today; each choice is a
window of days.

## Main definitions

* `fiscalYearOf` — the fiscal year of a date
* `TimePeriod` — days from a first to a last one
* `YearFilter`, `YearFilter.parse`, `YearFilter.window`
-/

namespace Outlays

/-- The fiscal year that a date belongs to. -/
def fiscalYearOf (d : Date) : Int := if d.month ≥ 10 then d.year + 1 else d.year

/-- The days from a first to a last one, both included. -/
structure TimePeriod where
  start : Date
  finish : Date
  deriving DecidableEq, Repr

namespace TimePeriod

/-- The day lies in the period. -/
def Contains (p : TimePeriod) (d : Date) : Prop := p.start ≤ d ∧ d ≤ p.finish

instance (p : TimePeriod) (d : Date) : Decidable (p.Contains d) :=
  inferInstanceAs (Decidable (_ ∧ _))

/-- The period as JSON. -/
def toJson (p : TimePeriod) : Json :=
  .obj [("start_date", .str p.start.render), ("end_date", .str p.finish.render)]

end TimePeriod

/-- Reads a date. -/
def Date.read : Json.Reader Date := fun j => do
  match Date.read? (← Json.Reader.text j) with
  | some d => return d
  | none => .error "expected a date"

/-- Reads a period. -/
def TimePeriod.read : Json.Reader TimePeriod := fun j => do
  let r ← Json.Record.read [{ name := "start_date" }, { name := "end_date" }] j
  return ⟨← r.need "start_date" Date.read, ← r.need "end_date" Date.read⟩

/-- The first day on which anything can be searched, 1 October 2007. -/
def searchStart : Date := ⟨2007, 10, 1, by decide, by decide, by decide⟩

/-- The window of days that a client asks for. -/
inductive YearFilter where
  /-- The twelve months up to today. -/
  | latest
  /-- Everything up to today. -/
  | all
  /-- One fiscal year. -/
  | fiscalYear (year : Nat)
  deriving DecidableEq, Repr

namespace YearFilter

/-- The number that a text of ASCII digits stands for. -/
def ofDigits (cs : List Char) : Nat :=
  cs.foldl (fun n c => 10 * n + (c.toNat - '0'.toNat)) 0

/-- Reads a year. Nothing at all means the latest twelve months; a number must fit into 32 bits
with a sign. -/
def parse (raw : Option String) : Except Refusal YearFilter :=
  let text := raw.getD ""
  if text = "" || text = "latest" then .ok .latest
  else if text = "all" then .ok .all
  else if text.toList.all Char.isDigit && (ofDigits text.toList : Int) ≤ int32Bounds.2 then
    .ok (.fiscalYear (ofDigits text.toList))
  else .error (.year text)

/-- The days of a fiscal year, if the calendar has them. -/
def fiscalWindow? (year : Int) : Option TimePeriod := do
  return ⟨← Date.ofParts? (year - 1) 10 1, ← Date.ofParts? year 9 30⟩

/-- The window of days, seen from today. Where the calendar does not reach back twelve months, the
latest window is today alone. -/
def window (today : Date) : YearFilter → Except Refusal TimePeriod
  | .all => .ok ⟨searchStart, today⟩
  | .latest => .ok ⟨today.yearBefore?.getD today, today⟩
  | .fiscalYear year =>
    match fiscalWindow? year with
    | some p => .ok p
    | none => .error (.year (toString year))

end YearFilter

end Outlays

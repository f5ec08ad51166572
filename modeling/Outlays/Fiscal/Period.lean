import Outlays.Fiscal.Year

/-!
# Fiscal periods

Agencies report once per fiscal period, the second to the twelfth month of a fiscal year. Windows
for submitting a report close by quarter and by month.
-/

namespace Outlays

/-- The first fiscal year with reports. -/
def firstReportingYear : Int := 2017

/-- A period in which agencies report. -/
structure FiscalPeriod where
  year : Int
  period : Nat
  deriving DecidableEq, Repr

namespace FiscalPeriod

/-- Checks a year and a period against the calendar of reports; the year is checked first. -/
def make (year : Int) (period : Nat) (today : Date) : Except Refusal FiscalPeriod :=
  let current := fiscalYearOf today
  if !(firstReportingYear ≤ year && year ≤ current) then
    .error (.fiscalYear firstReportingYear current)
  else if !(2 ≤ period && period ≤ 12) then .error .fiscalPeriod
  else .ok ⟨year, period⟩

/-- The period as JSON. -/
def toJson (p : FiscalPeriod) : Json :=
  .obj [("fiscal_year", .int p.year), ("fiscal_period", .nat p.period)]

/-- Reads a period of any year. -/
def read : Json.Reader FiscalPeriod := fun j => do
  let r ← Json.Record.read [{ name := "fiscal_year" }, { name := "fiscal_period" }] j
  return ⟨← r.need "fiscal_year" Json.Reader.int32,
    ← r.need "fiscal_period" (Json.Reader.natUpTo uint8Max)⟩

end FiscalPeriod

/-- The last window of its kind that has closed: a quarter or a month of a fiscal year. -/
structure ClosedPeriod where
  year : Int
  period : Int
  deriving DecidableEq, Repr

namespace ClosedPeriod

/-- The window as JSON. -/
def toJson (p : ClosedPeriod) : Json :=
  .obj [("fiscal_year", .int p.year), ("period", .int p.period)]

/-- Reads a window. -/
def read : Json.Reader ClosedPeriod := fun j => do
  let r ← Json.Record.read [{ name := "fiscal_year" }, { name := "period" }] j
  return ⟨← r.need "fiscal_year" Json.Reader.int32, ← r.need "period" Json.Reader.int32⟩

end ClosedPeriod

/-- The last quarterly and the last monthly window that have closed. -/
structure ClosedPeriods where
  quarterly : Option ClosedPeriod := none
  monthly : Option ClosedPeriod := none
  deriving DecidableEq, Repr

namespace ClosedPeriods

/-- The windows as JSON. -/
def toJson (p : ClosedPeriods) : Json :=
  .obj [("quarterly", .option ClosedPeriod.toJson p.quarterly),
    ("monthly", .option ClosedPeriod.toJson p.monthly)]

/-- Reads windows. -/
def read : Json.Reader ClosedPeriods := fun j => do
  let r ← Json.Record.read
    [{ name := "quarterly", absence := .null }, { name := "monthly", absence := .null }] j
  return ⟨← r.may "quarterly" ClosedPeriod.read, ← r.may "monthly" ClosedPeriod.read⟩

end ClosedPeriods

end Outlays

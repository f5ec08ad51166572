import Outlays.Agency.Listing
import Outlays.Inquiry.Basic
import Outlays.Text.Lowercase

/-!
# Agency reporting

What the four agency listings ask of the stores. The parameters of a listing are checked before
the period and the period before the agency, so that a request that is wrong in itself asks
nothing.

## Main definitions

* `Reporting.agencies`, `Reporting.periods`, `Reporting.differences`, `Reporting.publications`
-/

namespace Outlays.Reporting

/-- One list of characters occurs in another, in one piece. -/
def occursIn (needle : List Char) : List Char → Bool
  | [] => needle.isEmpty
  | c :: rest => needle.isPrefixOf (c :: rest) || occursIn needle rest

/-- The text contains the needle, whatever the case of either. -/
def containsAnyCase (text needle : String) : Bool :=
  occursIn (Text.lowercase needle).toList (Text.lowercase text).toList

/-- The record's agency has the needle in its name or in its abbreviation. -/
def matchesName (r : PeriodRecord) (needle : String) : Bool :=
  containsAnyCase r.agencyName needle || r.abbreviation.any (containsAnyCase · needle)

/-- The last monthly window that has closed, as a period, whatever month it names. -/
def latestClosed (now : Instant) : Inquiry (Option FiscalPeriod) := do
  let closed ← Inquiry.put (.closedPeriods now)
  match closed.monthly with
  | none => return none
  | some window =>
    if 0 ≤ window.period && window.period < 256 then
      return some ⟨window.year, window.period.toNat⟩
    else .refuse (.window window.period)

/-- The agency with a code. A text that is no code belongs to no agency either. -/
def agency (raw : String) : Inquiry ToptierCode :=
  match ToptierCode.make raw with
  | .error _ => .refuse (.unknownAgency raw)
  | .ok code => do
    match ← Inquiry.put (.findAgency code) with
    | some _ => return code
    | none => .refuse (.unknownAgency raw)

/-- A year and a period that must be given. -/
def requiredPeriod (now : Instant) (year : Option Int) (period : Option Nat) :
    Except Refusal FiscalPeriod :=
  match year, period with
  | none, _ => .error (.missingParameter "fiscal_year")
  | _, none => .error (.missingParameter "fiscal_period")
  | some year, some period => FiscalPeriod.make year period now.date

/-- The period to list all agencies in: the one that is given, or else the last one that has
closed. -/
def overviewPeriod (now : Instant) (year : Option Int) (period : Option Nat) :
    Inquiry (Option FiscalPeriod) :=
  match year, period with
  | some year, some period => do
    return some (← Inquiry.ofExcept (FiscalPeriod.make year period now.date))
  | none, none => latestClosed now
  | _, _ => .refuse .halfPeriod

/-- All agencies in a period whose names match the filter. -/
def agencies (now : Instant) (files : Url) (year : Option Int) (period : Option Nat)
    (filter : Option String) (request : ListingRequest) : Inquiry (Page ReportRow) := do
  let listing ← Inquiry.ofExcept (Listing.parse ReportRow.agencyColumns request)
  match ← overviewPeriod now year period with
  | none => return listing.page []
  | some period =>
    let records ← Inquiry.put (.agenciesForPeriod period)
    let kept := records.filter fun r => filter.all (matchesName r)
    return listing.page (kept.map (ReportRow.ofRecord files))

/-- All periods of an agency. -/
def periods (files : Url) (code : String) (request : ListingRequest) :
    Inquiry (Page ReportRow) := do
  let listing ← Inquiry.ofExcept (Listing.parse ReportRow.periodColumns request)
  let code ← agency code
  let records ← Inquiry.put (.periodsForAgency code)
  return listing.page (records.map (ReportRow.ofRecord files))

/-- The accounts of an agency whose files differ in a period. -/
def differences (now : Instant) (code : String) (year : Option Int) (period : Option Nat)
    (request : ListingRequest) : Inquiry (Page AccountDifference) := do
  let listing ← Inquiry.ofExcept (Listing.parse AccountDifference.columns request)
  let period ← Inquiry.ofExcept (requiredPeriod now year period)
  let code ← agency code
  return listing.page (← Inquiry.put (.accountDifferences code period))

/-- The publications of an agency's submission for a period. -/
def publications (now : Instant) (code : String) (year : Int) (period : Nat)
    (request : ListingRequest) : Inquiry (Page Publication) := do
  let listing ← Inquiry.ofExcept (Listing.parse Publication.columns request)
  let period ← Inquiry.ofExcept (FiscalPeriod.make year period now.date)
  let code ← agency code
  return listing.page (← Inquiry.put (.publications code period))

end Outlays.Reporting

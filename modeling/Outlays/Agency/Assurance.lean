import Outlays.Agency.Basic
import Outlays.Web.Url

/-!
# Assurance statements

An agency signs a statement for each report it publishes. The statements are files whose place
follows from the period and the agency.
-/

namespace Outlays.Assurance

/-- A whole number with at least two characters, filled with zeros after the sign. -/
def twoDigits (n : Int) : String :=
  if n < 0 then toString n else Date.padded 2 n.toNat

/-- The segments that lead to the statement of an agency for a period. -/
def segments (year period : Int) (code name : String) (abbreviation : Option String) :
    List String :=
  let agency := match abbreviation with
    | some short => s!"{name} ({short})"
    | none => name
  let month := "P" ++ twoDigits period
  ["agency_submissions", "Raw DATA Act Files", toString year, month, code,
    s!"{year}-{month}-{code}_{agency}-Assurance_Statement.txt"]

/-- The address of a statement, under the address of all files. -/
def url? (files : Url) (year period : Int) (code name : String) (abbreviation : Option String) :
    Option Url :=
  files.extend? (segments year period code name abbreviation)

/-- The address of the statement for what a record reports; there is none before the report is
published. -/
def ofRecord? (files : Url) (r : PeriodRecord) : Option Url := do
  let _ ← r.recentPublicationDate
  url? files r.fiscalYear r.fiscalPeriod r.toptierCode r.agencyName r.abbreviation

end Outlays.Assurance

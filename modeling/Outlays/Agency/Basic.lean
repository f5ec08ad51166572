import Outlays.Fiscal.Period

/-!
# Agencies and what they report

An agency is known by a code of three or four digits. For each fiscal period it reports figures,
accounts whose two reports differ, and submissions that are published and perhaps certified.

## Main definitions

* `ToptierCode`, `Agency`
* `PeriodRecord`, `PeriodRecord.percentOfTotal`
* `AccountDifference`, `AccountDifference.difference`
* `Publication`
-/

namespace Outlays

/-- The text is three or four ASCII digits. -/
def isToptierCode (s : String) : Bool :=
  (s.toList.length == 3 || s.toList.length == 4) && s.toList.all Char.isDigit

/-- The code of an agency. -/
structure ToptierCode where
  text : String
  isCode : isToptierCode text = true
  deriving DecidableEq, Repr

namespace ToptierCode

/-- Checks a code. -/
def make (raw : String) : Except Refusal ToptierCode :=
  if h : isToptierCode raw = true then .ok ⟨raw, h⟩ else .error (.toptierCode raw)

/-- Reads a code. -/
def read : Json.Reader ToptierCode := fun j => do
  (make (← Json.Reader.text j)).mapError Refusal.message

end ToptierCode

/-- A department of the government. -/
structure Agency where
  toptierCode : String
  name : String
  abbreviation : Option String
  deriving DecidableEq, Repr

/-- Reads an instant. -/
def Instant.read : Json.Reader Instant := fun j => do
  match Instant.read? (← Json.Reader.text j) with
  | some t => return t
  | none => .error "expected an instant"

/-- An instant as JSON. -/
def Instant.toJson (t : Instant) : Json := .str t.render

/-- The figures that an agency reports for a fiscal period. -/
structure PeriodRecord where
  agencyName : String
  abbreviation : Option String
  toptierCode : String
  agencyId : Option Int
  fiscalYear : Int
  fiscalPeriod : Int
  totalBudgetaryResources : Option Float
  gtasObligationTotal : Option Float
  tasAccountsTotal : Option Float
  tasObligationNotInGtasTotal : Option Float
  missingTasAccountsCount : Int
  obligationDifference : Option Float
  unlinkedContractAwardCount : Int
  unlinkedAssistanceAwardCount : Int
  recentPublicationDate : Option Instant
  recentPublicationDateCertified : Bool
  /-- The budgetary resources of all agencies in the period, where they are known. -/
  governmentBudgetaryResources : Option Float
  deriving Repr

namespace PeriodRecord

/-- The share in the resources of the whole government, in percent with two decimals; there is
none of nothing. -/
def percentOfTotal (r : PeriodRecord) : Option Float := do
  let own ← r.totalBudgetaryResources
  let total ← r.governmentBudgetaryResources
  if total == 0.0 then none
  else return Double.roundHalfAway (own / total * 10000.0) / 100.0

/-- The record as JSON. -/
def toJson (r : PeriodRecord) : Json :=
  .obj [("agency_name", .str r.agencyName), ("abbreviation", .option .str r.abbreviation),
    ("toptier_code", .str r.toptierCode), ("agency_id", .option .int r.agencyId),
    ("fiscal_year", .int r.fiscalYear), ("fiscal_period", .int r.fiscalPeriod),
    ("total_budgetary_resources", .option .double r.totalBudgetaryResources),
    ("gtas_obligation_total", .option .double r.gtasObligationTotal),
    ("tas_accounts_total", .option .double r.tasAccountsTotal),
    ("tas_obligation_not_in_gtas_total", .option .double r.tasObligationNotInGtasTotal),
    ("missing_tas_accounts_count", .int r.missingTasAccountsCount),
    ("obligation_difference", .option .double r.obligationDifference),
    ("unlinked_contract_award_count", .int r.unlinkedContractAwardCount),
    ("unlinked_assistance_award_count", .int r.unlinkedAssistanceAwardCount),
    ("recent_publication_date", .option Instant.toJson r.recentPublicationDate),
    ("recent_publication_date_certified", .bool r.recentPublicationDateCertified),
    ("government_budgetary_resources", .option .double r.governmentBudgetaryResources)]

/-- The declared fields of a record. -/
def shape : Json.Shape := [
  { name := "agency_name" }, { name := "abbreviation", absence := .null },
  { name := "toptier_code" }, { name := "agency_id", absence := .null },
  { name := "fiscal_year" }, { name := "fiscal_period" },
  { name := "total_budgetary_resources", absence := .null },
  { name := "gtas_obligation_total", absence := .null },
  { name := "tas_accounts_total", absence := .null },
  { name := "tas_obligation_not_in_gtas_total", absence := .null },
  { name := "missing_tas_accounts_count" }, { name := "obligation_difference", absence := .null },
  { name := "unlinked_contract_award_count" }, { name := "unlinked_assistance_award_count" },
  { name := "recent_publication_date", absence := .null },
  { name := "recent_publication_date_certified" },
  { name := "government_budgetary_resources", absence := .null }]

/-- Reads a record whose amounts are read by `double`. -/
def readWith (double : Json.Reader Float) : Json.Reader PeriodRecord := fun j => do
  let r ← Json.Record.read shape j
  let amount (name : String) := r.may name double
  let count (name : String) := r.need name Json.Reader.int64
  return {
    agencyName := ← r.need "agency_name" Json.Reader.text
    abbreviation := ← r.may "abbreviation" Json.Reader.text
    toptierCode := ← r.need "toptier_code" Json.Reader.text
    agencyId := ← r.may "agency_id" Json.Reader.int32
    fiscalYear := ← r.need "fiscal_year" Json.Reader.int32
    fiscalPeriod := ← r.need "fiscal_period" Json.Reader.int32
    totalBudgetaryResources := ← amount "total_budgetary_resources"
    gtasObligationTotal := ← amount "gtas_obligation_total"
    tasAccountsTotal := ← amount "tas_accounts_total"
    tasObligationNotInGtasTotal := ← amount "tas_obligation_not_in_gtas_total"
    missingTasAccountsCount := ← count "missing_tas_accounts_count"
    obligationDifference := ← amount "obligation_difference"
    unlinkedContractAwardCount := ← count "unlinked_contract_award_count"
    unlinkedAssistanceAwardCount := ← count "unlinked_assistance_award_count"
    recentPublicationDate := ← r.may "recent_publication_date" Instant.read
    recentPublicationDateCertified :=
      ← r.need "recent_publication_date_certified" Json.Reader.bool
    governmentBudgetaryResources := ← amount "government_budgetary_resources" }

/-- Reads a record. -/
def read : Json.Reader PeriodRecord := readWith Json.Reader.double

end PeriodRecord

/-- A treasury account whose obligations differ between the two files of a report. -/
structure AccountDifference where
  tas : String
  fileA : Float
  fileB : Float
  deriving Repr

namespace AccountDifference

/-- The obligations of the first file less those of the second. -/
def difference (d : AccountDifference) : Float := d.fileA - d.fileB

/-- The account as JSON, without the difference. -/
def toJson (d : AccountDifference) : Json :=
  .obj [("tas", .str d.tas), ("file_a_obligation", .double d.fileA),
    ("file_b_obligation", .double d.fileB)]

/-- Reads an account. -/
def read : Json.Reader AccountDifference := fun j => do
  let r ← Json.Record.read
    [{ name := "tas" }, { name := "file_a_obligation" }, { name := "file_b_obligation" }] j
  return ⟨← r.need "tas" Json.Reader.text, ← r.need "file_a_obligation" Json.Reader.double,
    ← r.need "file_b_obligation" Json.Reader.double⟩

end AccountDifference

/-- One publication of a submission, and when it was certified. -/
structure Publication where
  published : Instant
  certified : Option Instant
  deriving DecidableEq, Repr

namespace Publication

/-- The publication as JSON. -/
def toJson (p : Publication) : Json :=
  .obj [("publication_date", p.published.toJson),
    ("certification_date", .option Instant.toJson p.certified)]

/-- Reads a publication. -/
def read : Json.Reader Publication := fun j => do
  let r ← Json.Record.read
    [{ name := "publication_date" }, { name := "certification_date", absence := .null }] j
  return ⟨← r.need "publication_date" Instant.read, ← r.may "certification_date" Instant.read⟩

end Publication

end Outlays

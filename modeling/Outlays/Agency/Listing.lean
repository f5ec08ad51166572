import Outlays.Agency.Assurance
import Outlays.Listing.Column

/-!
# What the agency listings show

Four listings: all agencies in a period, all periods of an agency, the accounts of an agency whose
two files differ, and the publications of a submission. Each has its rows and its columns.

## Main definitions

* `ReportRow` — a record with the address of its assurance statement
* `ReportRow.agencyColumns`, `ReportRow.periodColumns`, `AccountDifference.columns`,
  `Publication.columns`
* `ReportRow.agencyJson`, `ReportRow.periodJson`, `AccountDifference.rowJson`
-/

namespace Outlays

/-- A record with the address of its assurance statement. -/
structure ReportRow where
  record : PeriodRecord
  statement : Option Url

namespace ReportRow

/-- The row of a record, with statements under the address of all files. -/
def ofRecord (files : Url) (r : PeriodRecord) : ReportRow := ⟨r, Assurance.ofRecord? files r⟩

/-- The value of an amount. -/
def amount (x : Option Float) : SortValue := SortValue.ofOption .ofDouble x

/-- The value of a share: where it is one infinity in another, it stands before every number. -/
def shareValue (r : PeriodRecord) : SortValue :=
  match r.totalBudgetaryResources, r.governmentBudgetaryResources with
  | some own, some total =>
    if own.isInf && total.isInf then .number Double.indefiniteOrdinal
    else amount r.percentOfTotal
  | _, _ => amount r.percentOfTotal

/-- The resources of the agency itself. -/
def authority : Column ReportRow :=
  ⟨"current_total_budget_authority_amount", fun r => amount r.record.totalBudgetaryResources⟩

/-- The columns that both listings of records have after their own. -/
def figures : List (Column ReportRow) := [
  ⟨"recent_publication_date", fun r => .ofOption .instant r.record.recentPublicationDate⟩,
  ⟨"recent_publication_date_certified", fun r => .flag r.record.recentPublicationDateCertified⟩,
  ⟨"missing_tas_accounts_count", fun r => .integer r.record.missingTasAccountsCount⟩,
  ⟨"tas_obligation_not_in_gtas_total", fun r => amount r.record.tasObligationNotInGtasTotal⟩,
  ⟨"obligation_difference", fun r => amount r.record.obligationDifference⟩,
  ⟨"unlinked_contract_award_count", fun r => .integer r.record.unlinkedContractAwardCount⟩,
  ⟨"unlinked_assistance_award_count", fun r => .integer r.record.unlinkedAssistanceAwardCount⟩]

/-- The columns of the listing of all agencies. -/
def agencyColumns : Columns ReportRow where
  all := [
    ⟨"agency_name", fun r => .text r.record.agencyName⟩,
    ⟨"abbreviation", fun r => .ofOption .text r.record.abbreviation⟩,
    ⟨"toptier_code", fun r => .text r.record.toptierCode⟩,
    ⟨"agency_id", fun r => .ofOption .integer r.record.agencyId⟩,
    authority] ++ figures
  usual := authority

/-- The fiscal year of a record. -/
def yearColumn : Column ReportRow := ⟨"fiscal_year", fun r => .integer r.record.fiscalYear⟩

/-- The columns of the listing of all periods. -/
def periodColumns : Columns ReportRow where
  all := [yearColumn, ⟨"fiscal_period", fun r => .integer r.record.fiscalPeriod⟩, authority]
    ++ figures
    ++ [⟨"percent_of_total_budgetary_resources", fun r => shareValue r.record⟩]
  usual := yearColumn

/-- The totals of a record's accounts as JSON. -/
def accountsJson (r : PeriodRecord) : Json :=
  .obj [("gtas_obligation_total", .option .double r.gtasObligationTotal),
    ("tas_accounts_total", .option .double r.tasAccountsTotal),
    ("tas_obligation_not_in_gtas_total", .option .double r.tasObligationNotInGtasTotal),
    ("missing_tas_accounts_count", .int r.missingTasAccountsCount)]

/-- The address of the statement as JSON. -/
def statementJson (r : ReportRow) : Json := .option (fun u => .str u.render) r.statement

/-- The row in the listing of all agencies. -/
def agencyJson (row : ReportRow) : Json :=
  let r := row.record
  .obj [("agency_name", .str r.agencyName), ("abbreviation", .option .str r.abbreviation),
    ("toptier_code", .str r.toptierCode), ("agency_id", .option .int r.agencyId),
    ("current_total_budget_authority_amount", .option .double r.totalBudgetaryResources),
    ("recent_publication_date", .option Instant.toJson r.recentPublicationDate),
    ("recent_publication_date_certified", .bool r.recentPublicationDateCertified),
    ("tas_account_discrepancies_totals", accountsJson r),
    ("obligation_difference", .option .double r.obligationDifference),
    ("unlinked_contract_award_count", .int r.unlinkedContractAwardCount),
    ("unlinked_assistance_award_count", .int r.unlinkedAssistanceAwardCount),
    ("assurance_statement_url", statementJson row)]

/-- The row in the listing of all periods. -/
def periodJson (row : ReportRow) : Json :=
  let r := row.record
  .obj [("fiscal_year", .int r.fiscalYear), ("fiscal_period", .int r.fiscalPeriod),
    ("current_total_budget_authority_amount", .option .double r.totalBudgetaryResources),
    ("total_budgetary_resources", .option .double r.governmentBudgetaryResources),
    ("percent_of_total_budgetary_resources", .option .double r.percentOfTotal),
    ("recent_publication_date", .option Instant.toJson r.recentPublicationDate),
    ("recent_publication_date_certified", .bool r.recentPublicationDateCertified),
    ("tas_account_discrepancies_totals", accountsJson r),
    ("obligation_difference", .option .double r.obligationDifference),
    ("unlinked_contract_award_count", .int r.unlinkedContractAwardCount),
    ("unlinked_assistance_award_count", .int r.unlinkedAssistanceAwardCount),
    ("assurance_statement_url", statementJson row)]

end ReportRow

namespace AccountDifference

/-- The value of a difference: where two like infinities leave none, it stands before every
number. -/
def differenceValue (d : AccountDifference) : SortValue :=
  if d.difference.isNaN && !d.fileA.isNaN && !d.fileB.isNaN then
    .number Double.indefiniteOrdinal
  else .ofDouble d.difference

/-- The account symbol. -/
def tasColumn : Column AccountDifference := ⟨"tas", fun d => .text d.tas⟩

/-- The columns of the listing of differences. -/
def columns : Columns AccountDifference where
  all := [
    ⟨"difference", differenceValue⟩,
    ⟨"file_a_obligation", fun d => .ofDouble d.fileA⟩,
    ⟨"file_b_obligation", fun d => .ofDouble d.fileB⟩,
    tasColumn]
  usual := tasColumn

/-- The row of an account. -/
def rowJson (d : AccountDifference) : Json :=
  .obj [("tas", .str d.tas), ("file_a_obligation", .double d.fileA),
    ("file_b_obligation", .double d.fileB), ("difference", .double d.difference)]

end AccountDifference

namespace Publication

/-- The instant of publication. -/
def publishedColumn : Column Publication :=
  ⟨"publication_date", fun p => .instant p.published⟩

/-- The columns of the listing of publications. -/
def columns : Columns Publication where
  all := [publishedColumn,
    ⟨"certification_date", fun p => .ofOption .instant p.certified⟩]
  usual := publishedColumn

end Publication

end Outlays

import Outlays.Agency.Listing

/-!
# Rows as they are shown

A row of an agency listing is an object of named cells, with the totals of its accounts as an
object of their own. A sort key is the name of a cell, wherever in the row that cell stands. This
module describes the rows that way, as cells with their values, and shows that the JSON of every
listing is the JSON of these cells and that every column takes its sort value from the cell of its
own name.

## Main definitions

* `Cell`, `Cell.toJson`, `Cell.sortValue` — a value that is shown, and what it is sorted by
* `ShownRow`, `ShownRow.cell?` — a row of named cells, and the cell of a name
* `ReportRow.shownAgency`, `ReportRow.shownPeriod`, `AccountDifference.shown`,
  `Publication.shown` — the rows of the four listings

## Main results

* `ReportRow.toJson_shownAgency` and its like — the cells are what the JSON shows
* `ReportRow.agencyColumns_shown` and its like — a column sorts by the cell of its name
-/

namespace Outlays

/-- A value that a row shows. What may be missing is an option. -/
inductive Cell where
  /-- An amount. An indefinite one is what two infinities leave behind: it carries a sign bit and
  stands before every other number. -/
  | amount (x : Option Float) (indefinite : Bool)
  | count (n : Option Int)
  | text (s : Option String)
  | instant (t : Option Instant)
  | flag (b : Bool)

namespace Cell

/-- The value as JSON. -/
def toJson : Cell → Json
  | .amount x _ => .option .double x
  | .count n => .option .int n
  | .text s => .option .str s
  | .instant t => .option Instant.toJson t
  | .flag b => .bool b

/-- The value that a row with this cell is sorted by. -/
def sortValue : Cell → SortValue
  | .amount x false => .ofOption .ofDouble x
  | .amount _ true => .number Double.indefiniteOrdinal
  | .count n => .ofOption .integer n
  | .text s => .ofOption .text s
  | .instant t => .ofOption .instant t
  | .flag b => .flag b

end Cell

/-- What stands under a name in a row: a cell, or the totals of the accounts. -/
inductive ShownField where
  | cell (c : Cell)
  | totals (parts : List (String × Cell))

/-- A row of a listing: fields under their names. -/
abbrev ShownRow := List (String × ShownField)

namespace ShownRow

/-- The row as JSON. -/
def toJson (row : ShownRow) : Json :=
  .obj (row.map fun f => (f.1, match f.2 with
    | .cell c => c.toJson
    | .totals parts => .obj (parts.map fun p => (p.1, p.2.toJson))))

/-- The cell of a name, among the fields of the row or among the totals of its accounts. -/
def cell? (row : ShownRow) (name : String) : Option Cell :=
  row.findSome? fun f =>
    match f.2 with
    | .cell c => if f.1 = name then some c else none
    | .totals parts =>
      if f.1 = "tas_account_discrepancies_totals" then (parts.find? (·.1 = name)).map (·.2)
      else none

/-- What the row is sorted by under a sort key; missing where it has no such cell. -/
def sortValue (key : String) (row : ShownRow) : SortValue :=
  match row.cell? key with
  | some c => c.sortValue
  | none => .missing

end ShownRow

/-- Every column takes its sort value from the cell of its own name. -/
def Columns.SortBy {ρ : Type} (columns : Columns ρ) (shown : ρ → ShownRow) : Prop :=
  ∀ column ∈ columns.all, ∀ row, ∃ c,
    (shown row).cell? column.name = some c ∧ column.value row = c.sortValue

/-! ## Records -/

namespace ReportRow

/-- The totals of a record's accounts. -/
def accountCells (r : PeriodRecord) : List (String × Cell) := [
  ("gtas_obligation_total", .amount r.gtasObligationTotal false),
  ("tas_accounts_total", .amount r.tasAccountsTotal false),
  ("tas_obligation_not_in_gtas_total", .amount r.tasObligationNotInGtasTotal false),
  ("missing_tas_accounts_count", .count (some r.missingTasAccountsCount))]

/-- The fields with which the rows of a record end, in both listings of records. -/
def closingFields (row : ReportRow) : ShownRow :=
  let r := row.record
  [("recent_publication_date", .cell (.instant r.recentPublicationDate)),
    ("recent_publication_date_certified", .cell (.flag r.recentPublicationDateCertified)),
    ("tas_account_discrepancies_totals", .totals (accountCells r)),
    ("obligation_difference", .cell (.amount r.obligationDifference false)),
    ("unlinked_contract_award_count", .cell (.count (some r.unlinkedContractAwardCount))),
    ("unlinked_assistance_award_count", .cell (.count (some r.unlinkedAssistanceAwardCount))),
    ("assurance_statement_url", .cell (.text (row.statement.map Url.render)))]

/-- The row of a record in the listing of all agencies. -/
def shownAgency (row : ReportRow) : ShownRow :=
  let r := row.record
  [("agency_name", .cell (.text (some r.agencyName))),
    ("abbreviation", .cell (.text r.abbreviation)),
    ("toptier_code", .cell (.text (some r.toptierCode))),
    ("agency_id", .cell (.count r.agencyId)),
    ("current_total_budget_authority_amount", .cell (.amount r.totalBudgetaryResources false))]
    ++ closingFields row

/-- The share of a record is what one infinity is in another. -/
def shareIndefinite (r : PeriodRecord) : Bool :=
  r.totalBudgetaryResources.any Float.isInf && r.governmentBudgetaryResources.any Float.isInf

/-- The row of a record in the listing of all periods. -/
def shownPeriod (row : ReportRow) : ShownRow :=
  let r := row.record
  [("fiscal_year", .cell (.count (some r.fiscalYear))),
    ("fiscal_period", .cell (.count (some r.fiscalPeriod))),
    ("current_total_budget_authority_amount", .cell (.amount r.totalBudgetaryResources false)),
    ("total_budgetary_resources", .cell (.amount r.governmentBudgetaryResources false)),
    ("percent_of_total_budgetary_resources",
      .cell (.amount r.percentOfTotal (shareIndefinite r)))]
    ++ closingFields row

theorem toJson_shownAgency (row : ReportRow) : row.shownAgency.toJson = row.agencyJson := by
  obtain ⟨r, statement⟩ := row
  cases statement <;> rfl

theorem toJson_shownPeriod (row : ReportRow) : row.shownPeriod.toJson = row.periodJson := by
  obtain ⟨r, statement⟩ := row
  cases statement <;> rfl

theorem shareValue_eq (r : PeriodRecord) :
    shareValue r = (Cell.amount r.percentOfTotal (shareIndefinite r)).sortValue := by
  unfold shareValue shareIndefinite
  cases r.totalBudgetaryResources with
  | none => rfl
  | some own =>
    cases r.governmentBudgetaryResources with
    | none => simp [Cell.sortValue, amount]
    | some total =>
      simp only [Option.any_some]
      cases own.isInf && total.isInf <;> rfl

theorem agencyColumns_shown : agencyColumns.SortBy shownAgency := by
  intro column hmem row
  simp only [agencyColumns, figures, List.cons_append, List.nil_append, List.mem_cons,
    List.not_mem_nil, or_false] at hmem
  rcases hmem with rfl | rfl | rfl | rfl | rfl | rfl | rfl | rfl | rfl | rfl | rfl | rfl <;>
    exact ⟨_, rfl, rfl⟩

theorem periodColumns_shown : periodColumns.SortBy shownPeriod := by
  intro column hmem row
  rcases List.mem_append.mp hmem with hmem | hmem
  · simp only [figures, List.cons_append, List.nil_append, List.mem_cons, List.not_mem_nil,
      or_false] at hmem
    rcases hmem with rfl | rfl | rfl | rfl | rfl | rfl | rfl | rfl | rfl | rfl <;>
      exact ⟨_, rfl, rfl⟩
  · obtain rfl := List.mem_singleton.mp hmem
    exact ⟨_, rfl, shareValue_eq row.record⟩

end ReportRow

/-! ## Accounts and publications -/

/-- The row of an account whose two files differ. -/
def AccountDifference.shown (d : AccountDifference) : ShownRow :=
  [("tas", .cell (.text (some d.tas))),
    ("file_a_obligation", .cell (.amount (some d.fileA) false)),
    ("file_b_obligation", .cell (.amount (some d.fileB) false)),
    ("difference", .cell (.amount (some d.difference)
      (d.difference.isNaN && !d.fileA.isNaN && !d.fileB.isNaN)))]

theorem AccountDifference.toJson_shown (d : AccountDifference) : d.shown.toJson = d.rowJson := rfl

theorem AccountDifference.differenceValue_eq (d : AccountDifference) :
    d.differenceValue = (Cell.amount (some d.difference)
      (d.difference.isNaN && !d.fileA.isNaN && !d.fileB.isNaN)).sortValue := by
  unfold differenceValue
  cases d.difference.isNaN && !d.fileA.isNaN && !d.fileB.isNaN <;> rfl

theorem AccountDifference.columns_shown : columns.SortBy shown := by
  intro column hmem row
  simp only [columns, List.mem_cons, List.not_mem_nil, or_false] at hmem
  rcases hmem with rfl | rfl | rfl | rfl
  · exact ⟨_, rfl, row.differenceValue_eq⟩
  all_goals exact ⟨_, rfl, rfl⟩

/-- The row of a publication. -/
def Publication.shown (p : Publication) : ShownRow :=
  [("publication_date", .cell (.instant (some p.published))),
    ("certification_date", .cell (.instant p.certified))]

theorem Publication.toJson_shown (p : Publication) : p.shown.toJson = p.toJson := rfl

theorem Publication.columns_shown : columns.SortBy shown := by
  intro column hmem row
  simp only [columns, List.mem_cons, List.not_mem_nil, or_false] at hmem
  rcases hmem with rfl | rfl <;> exact ⟨_, rfl, rfl⟩

end Outlays

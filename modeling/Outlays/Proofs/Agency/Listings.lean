import Outlays.Memory.Sample
import Outlays.Proofs.Agency.Rows
import Outlays.Proofs.Inquiry.Transcript
import Outlays.Proofs.Listing.Paging
import Outlays.Proofs.Listing.Sorting

/-!
# The four agency listings

All agencies in a period, the periods of one agency, the accounts in which two files differ, and
the publications of a submission are listed in the same way: the request is checked, the stores
are asked for the records, and a page is cut out of the sorted rows. A client who reads one page
after the other relies on the pages being cut out of one list. They are: for as long as the
stores stay as they are, neither page nor limit has a say in what is asked or in what order the
rows come.

Rows are compared by what they show. The value that a listing is sorted by is the cell with the
name of the sort key, and a row without that cell comes last in either direction.

## Main definitions

* `Subject` — what a listing is about, without page, limit, order and sort key
* `Subject.Found` — the records that the stores hold for it, by what they answer
* `Subject.PagesOf` — the pages of a listing are slices of one list

## Main results

* `Listing.toJson_page` — a page in terms of the rows that are shown
* `Subject.found_of_leads` — the rows are the records that the filter keeps
* `Subject.exists_pagesOf` — every accepted request is answered with a slice of one sorted list
-/

namespace Outlays

/-! ## Checking a listing -/

theorem SortOrder.name_of_parse {raw : Option String} {order : SortOrder}
    (h : SortOrder.parse raw = .ok order) : order.name = raw.getD "desc" := by
  cases raw with
  | none =>
    obtain rfl := Except.ok.inj h
    rfl
  | some text =>
    simp only [parse] at h
    split at h
    · next written found hfound =>
      obtain rfl := Except.ok.inj h
      have hmem := List.mem_of_find?_eq_some hfound
      have hwritten : written = text := by simpa using List.find?_some hfound
      simp only [names, List.mem_cons, Prod.mk.injEq, List.not_mem_nil, or_false] at hmem
      rcases hmem with ⟨rfl, rfl⟩ | ⟨rfl, rfl⟩ <;> exact hwritten
    · cases h

theorem Columns.parse_eq_ok {ρ : Type} {columns : Columns ρ} (husual : columns.usual ∈ columns.all)
    {raw : Option String} {column : Column ρ} (h : columns.parse raw = .ok column) :
    column ∈ columns.all ∧ column.name = raw.getD columns.usual.name := by
  cases raw with
  | none =>
    obtain rfl := Except.ok.inj h
    exact ⟨husual, rfl⟩
  | some text =>
    simp only [parse] at h
    split at h
    · next found hfound =>
      obtain rfl := Except.ok.inj h
      exact ⟨List.mem_of_find?_eq_some hfound, by simpa using List.find?_some hfound⟩
    · cases h

theorem Listing.parse_eq_ok_iff {ρ : Type} {columns : Columns ρ} {r : ListingRequest}
    {l : Listing ρ} :
    Listing.parse columns r = .ok l ↔
      PageRequest.make r.page r.limit = .ok l.request ∧ SortOrder.parse r.order = .ok l.order ∧
        columns.parse r.sort = .ok l.column := by
  obtain ⟨request, order, column⟩ := l
  unfold Listing.parse
  cases PageRequest.make r.page r.limit with
  | error why => simp [Except.mapError, Bind.bind, Except.bind]
  | ok request' =>
    cases SortOrder.parse r.order with
    | error why => simp [Except.mapError, Bind.bind, Except.bind]
    | ok order' =>
      cases columns.parse r.sort with
      | error why => simp [Except.mapError, Bind.bind, Except.bind]
      | ok column' => simp [Except.mapError, Bind.bind, Except.bind, Pure.pure, Except.pure]

/-- The page of a listing in terms of the rows that are shown: these are sorted by the cell whose
name is the sort key, and the page is cut out of them. -/
theorem Listing.toJson_page {ρ : Type} {columns : Columns ρ} {shown : ρ → ShownRow}
    (hcolumns : columns.SortBy shown) {json : ρ → Json}
    (hjson : ∀ row, (shown row).toJson = json row) (l : Listing ρ)
    (hmem : l.column ∈ columns.all) (rows : List ρ) :
    Listing.toJson json (l.page rows) =
      Listing.toJson ShownRow.toJson
        (l.request.paginate
          (sortRows l.order (ShownRow.sortValue l.column.name) (rows.map shown))) := by
  have hvalue : l.column.value = fun row => ShownRow.sortValue l.column.name (shown row) := by
    funext row
    obtain ⟨c, hc, hv⟩ := hcolumns l.column hmem row
    rw [hv, ShownRow.sortValue, hc]
  have hrows : json = fun row => (shown row).toJson := funext fun row => (hjson row).symm
  rw [Listing.page, Listing.sorted, hvalue, ← map_sortRows, PageRequest.paginate_map, hrows]
  simp only [Listing.toJson, List.map_map, Function.comp_def]

/-! ## The listings -/

/-- What one of the four listings is about: the request without its page, limit, order and sort
key. -/
inductive Subject where
  | agencies (year : Option Int) (period : Option Nat) (filter : Option String)
  | periods (code : String)
  | differences (code : String) (year : Option Int) (period : Option Nat)
  | publications (code : String) (year : Int) (period : Nat)

namespace Subject

/-- The call that asks for a page of the listing. -/
def call (r : ListingRequest) : Subject → Call
  | .agencies year period filter => .agencies year period filter r
  | .periods code => .periods code r
  | .differences code year period => .differences code year period r
  | .publications code year period => .publications code year period r

/-- What the listing is made of. -/
abbrev Record : Subject → Type
  | .agencies .. | .periods .. => PeriodRecord
  | .differences .. => AccountDifference
  | .publications .. => Publication

/-- The row that shows a record. -/
def shown (files : Url) : (t : Subject) → t.Record → ShownRow
  | .agencies .., r => (ReportRow.ofRecord files r).shownAgency
  | .periods .., r => (ReportRow.ofRecord files r).shownPeriod
  | .differences .., r => AccountDifference.shown r
  | .publications .., r => Publication.shown r

/-- The record passes the filter. Only the listing of all agencies has one. -/
def keeps : (t : Subject) → t.Record → Bool
  | .agencies _ _ (some needle), r => Reporting.matchesName r needle
  | _, _ => true

/-- The sort key that stands for none. -/
def usualKey : Subject → String
  | .agencies .. => "current_total_budget_authority_amount"
  | .periods .. => "fiscal_year"
  | .differences .. => "tas"
  | .publications .. => "publication_date"

/-- The records that the stores hold for the listing, by what they answer. -/
inductive Found (now : Instant) (log : List Answered) : (t : Subject) → List t.Record → Prop where
  | agenciesIn {year : Int} {period : Nat} {filter : Option String}
      {records : List PeriodRecord}
      (h : ⟨.agenciesForPeriod ⟨year, period⟩, records⟩ ∈ log) :
      Found now log (.agencies (some year) (some period) filter) records
  | agenciesInLatest {closed : ClosedPeriods} {year : Int} {period : Nat} {filter : Option String}
      {records : List PeriodRecord}
      (hclosed : ⟨.closedPeriods now, closed⟩ ∈ log)
      (hmonthly : closed.monthly = some ⟨year, period⟩)
      (h : ⟨.agenciesForPeriod ⟨year, period⟩, records⟩ ∈ log) :
      Found now log (.agencies none none filter) records
  | noWindow {closed : ClosedPeriods} {filter : Option String}
      (hclosed : ⟨.closedPeriods now, closed⟩ ∈ log)
      (hmonthly : closed.monthly = none) :
      Found now log (.agencies none none filter) []
  | periodsOf {code : ToptierCode} {records : List PeriodRecord}
      (h : ⟨.periodsForAgency code, records⟩ ∈ log) :
      Found now log (.periods code.text) records
  | differencesOf {code : ToptierCode} {year : Int} {period : Nat}
      {accounts : List AccountDifference}
      (h : ⟨.accountDifferences code ⟨year, period⟩, accounts⟩ ∈ log) :
      Found now log (.differences code.text (some year) (some period)) accounts
  | publicationsOf {code : ToptierCode} {year : Int} {period : Nat}
      {publications : List Publication}
      (h : ⟨.publications code ⟨year, period⟩, publications⟩ ∈ log) :
      Found now log (.publications code.text year period) publications

/-! ### The inquiry of a listing -/

/-- What a row is made from. -/
abbrev Row : Subject → Type
  | .agencies .. | .periods .. => ReportRow
  | .differences .. => AccountDifference
  | .publications .. => Publication

/-- The columns of the listing. -/
def columns : (t : Subject) → Columns t.Row
  | .agencies .. => ReportRow.agencyColumns
  | .periods .. => ReportRow.periodColumns
  | .differences .. => AccountDifference.columns
  | .publications .. => Publication.columns

/-- A row as JSON. -/
def rowJson : (t : Subject) → t.Row → Json
  | .agencies .. => ReportRow.agencyJson
  | .periods .. => ReportRow.periodJson
  | .differences .. => AccountDifference.rowJson
  | .publications .. => Publication.toJson

/-- A row as it is shown. -/
def shownRow : (t : Subject) → t.Row → ShownRow
  | .agencies .. => ReportRow.shownAgency
  | .periods .. => ReportRow.shownPeriod
  | .differences .. => AccountDifference.shown
  | .publications .. => Publication.shown

/-- The inquiry for all rows of the listing, in the order in which the stores hold them. -/
def rows (c : Circumstances) : (t : Subject) → Inquiry (List t.Row)
  | .agencies year period filter =>
    (Reporting.overviewPeriod c.now year period).bind fun
      | none => .done []
      | some period => (Inquiry.put (.agenciesForPeriod period)).bind fun records =>
        .done ((records.filter fun r => filter.all (Reporting.matchesName r)).map
          (ReportRow.ofRecord c.files))
  | .periods code =>
    (Reporting.agency code).bind fun code =>
      (Inquiry.put (.periodsForAgency code)).bind fun records =>
        .done (records.map (ReportRow.ofRecord c.files))
  | .differences code year period =>
    (Inquiry.ofExcept (Reporting.requiredPeriod c.now year period)).bind fun period =>
      (Reporting.agency code).bind fun code => Inquiry.put (.accountDifferences code period)
  | .publications code year period =>
    (Inquiry.ofExcept (FiscalPeriod.make year period c.now.date)).bind fun period =>
      (Reporting.agency code).bind fun code => Inquiry.put (.publications code period)

/-- A listing is checked first; then its rows are asked for, and a page of them is answered. -/
theorem inquiry_call_eq (t : Subject) (c : Circumstances) (r : ListingRequest) :
    (t.call r).inquiry c =
      (Inquiry.ofExcept (Listing.parse t.columns r)).bind fun l =>
        (t.rows c).bind fun rows => .done (Listing.toJson t.rowJson (l.page rows)) := by
  cases t with
  | agencies year period filter =>
    simp only [call, Call.inquiry, Reporting.agencies, rows, Inquiry.map_eq_bind,
      Inquiry.bind_eq_bind, Inquiry.pure_eq_done, Inquiry.bind_bind]
    congr 1
    funext l
    congr 1
    funext found
    cases found <;> rfl
  | periods code =>
    simp only [call, Call.inquiry, Reporting.periods, rows, Inquiry.map_eq_bind,
      Inquiry.bind_eq_bind, Inquiry.pure_eq_done, Inquiry.bind_bind, Inquiry.done_bind]
    rfl
  | differences code year period =>
    simp only [call, Call.inquiry, Reporting.differences, rows, Inquiry.map_eq_bind,
      Inquiry.bind_eq_bind, Inquiry.pure_eq_done, Inquiry.bind_bind, Inquiry.done_bind]
    rfl
  | publications code year period =>
    simp only [call, Call.inquiry, Reporting.publications, rows, Inquiry.map_eq_bind,
      Inquiry.bind_eq_bind, Inquiry.pure_eq_done, Inquiry.bind_bind, Inquiry.done_bind]
    rfl

theorem columns_sortBy (t : Subject) : t.columns.SortBy t.shownRow := by
  cases t with
  | agencies => exact ReportRow.agencyColumns_shown
  | periods => exact ReportRow.periodColumns_shown
  | differences => exact AccountDifference.columns_shown
  | publications => exact Publication.columns_shown

theorem toJson_shownRow (t : Subject) (row : t.Row) : (t.shownRow row).toJson = t.rowJson row := by
  cases t with
  | agencies => exact ReportRow.toJson_shownAgency row
  | periods => exact ReportRow.toJson_shownPeriod row
  | differences => exact AccountDifference.toJson_shown row
  | publications => exact Publication.toJson_shown row

theorem exists_shownRow (t : Subject) (files : Url) (r : t.Record) :
    ∃ row, t.shown files r = t.shownRow row := by
  cases t <;> exact ⟨_, rfl⟩

theorem usual_mem (t : Subject) :
    t.columns.usual ∈ t.columns.all ∧ t.columns.usual.name = t.usualKey := by
  cases t with
  | agencies => exact ⟨by simp [columns, ReportRow.agencyColumns], rfl⟩
  | periods => exact ⟨by simp [columns, ReportRow.periodColumns], rfl⟩
  | differences => exact ⟨by simp [columns, AccountDifference.columns], rfl⟩
  | publications => exact ⟨by simp [columns, Publication.columns], rfl⟩

/-! ### What the stores are asked -/

theorem period_of_make {year : Int} {period : Nat} {today : Date} {p : FiscalPeriod}
    (h : FiscalPeriod.make year period today = .ok p) : p = ⟨year, period⟩ := by
  simp only [FiscalPeriod.make] at h
  split at h
  · cases h
  · split at h
    · cases h
    · exact (Except.ok.inj h).symm

theorem period_of_requiredPeriod {now : Instant} {year : Option Int} {period : Option Nat}
    {p : FiscalPeriod} (h : Reporting.requiredPeriod now year period = .ok p) :
    year = some p.year ∧ period = some p.period := by
  cases year with
  | none => cases h
  | some y =>
    cases period with
    | none => cases h
    | some n =>
      obtain rfl := period_of_make h
      exact ⟨rfl, rfl⟩

theorem text_of_make {raw : String} {code : ToptierCode} (h : ToptierCode.make raw = .ok code) :
    code.text = raw := by
  unfold ToptierCode.make at h
  split at h
  · rw [← Except.ok.inj h]
  · cases h

theorem text_of_leads_agency {raw : String} {log : List Answered} {code : ToptierCode}
    (h : (Reporting.agency raw).Leads log (.ok code)) : code.text = raw := by
  unfold Reporting.agency at h
  split at h
  · simp at h
  · next made hmade =>
    obtain ⟨agency, rest, -, hrest⟩ := Inquiry.leads_put_bind_iff.mp h
    cases agency with
    | none => simp at hrest
    | some agency =>
      simp only [Inquiry.pure_eq_done, Inquiry.leads_done_iff, Except.ok.injEq] at hrest
      rw [hrest.2, text_of_make hmade]

/-- The last monthly window that has closed, as the stores answer it, is the period that is listed
when the client names none. -/
theorem leads_latestClosed {now : Instant} {log : List Answered} {found : Option FiscalPeriod}
    (h : (Reporting.latestClosed now).Leads log (.ok found)) :
    ∃ closed, log = [⟨.closedPeriods now, closed⟩] ∧
      closed.monthly = found.map fun p => ⟨p.year, p.period⟩ := by
  obtain ⟨closed, rest, rfl, hrest⟩ := Inquiry.leads_put_bind_iff.mp h
  refine ⟨closed, ?_⟩
  cases hmonthly : closed.monthly with
  | none =>
    simp only [hmonthly, Inquiry.pure_eq_done, Inquiry.leads_done_iff, Except.ok.injEq] at hrest
    obtain ⟨rfl, rfl⟩ := hrest
    exact ⟨rfl, rfl⟩
  | some window =>
    simp only [hmonthly] at hrest
    split at hrest
    · next hwindow =>
      simp only [Inquiry.pure_eq_done, Inquiry.leads_done_iff, Except.ok.injEq] at hrest
      obtain ⟨rfl, rfl⟩ := hrest
      simp only [Bool.and_eq_true, decide_eq_true_eq] at hwindow
      simp [Int.toNat_of_nonneg hwindow.1]
    · simp at hrest

/-- All agencies are listed in the period that the client names, or in the last monthly window that
has closed. -/
theorem leads_overviewPeriod {now : Instant} {year : Option Int} {period : Option Nat}
    {log : List Answered} {found : Option FiscalPeriod}
    (h : (Reporting.overviewPeriod now year period).Leads log (.ok found)) :
    (∃ p : FiscalPeriod, year = some p.year ∧ period = some p.period ∧ found = some p ∧ log = []) ∨
      (year = none ∧ period = none ∧
        ∃ closed, log = [⟨.closedPeriods now, closed⟩] ∧
          closed.monthly = found.map fun p => ⟨p.year, p.period⟩) := by
  cases year with
  | none =>
    cases period with
    | none => exact .inr ⟨rfl, rfl, leads_latestClosed h⟩
    | some n => simp [Reporting.overviewPeriod] at h
  | some y =>
    cases period with
    | none => simp [Reporting.overviewPeriod] at h
    | some n =>
      obtain ⟨p, hp, hdone⟩ := Inquiry.leads_ofExcept_bind_iff.mp h
      obtain rfl := period_of_make hp
      obtain ⟨rfl, hfound⟩ := Inquiry.leads_done_iff.mp hdone
      exact .inl ⟨⟨y, n⟩, rfl, rfl, Except.ok.inj hfound, rfl⟩

/-- The rows of a listing are the records that the stores hold for it, less those that the filter
drops. -/
theorem found_of_leads {t : Subject} {c : Circumstances} {log : List Answered} {all : List t.Row}
    (h : (t.rows c).Leads log (.ok all)) :
    ∃ found, t.Found c.now log found ∧
      all.map t.shownRow = (found.filter t.keeps).map (t.shown c.files) := by
  cases t with
  | agencies year period filter =>
    obtain ⟨p, first, rest, rfl, hperiod, hrest⟩ := Inquiry.leads_bind_ok_iff.mp h
    -- Only this listing can be empty without a question, and only this one has a filter.
    cases p with
    | none =>
      obtain ⟨p, -, -, hp, -⟩ | ⟨rfl, rfl, closed, rfl, hmonthly⟩ := leads_overviewPeriod hperiod
      · cases hp
      · obtain ⟨rfl, hall⟩ := Inquiry.leads_done_iff.mp hrest
        obtain rfl := Except.ok.inj hall
        exact ⟨[], .noWindow (by simp) hmonthly, rfl⟩
    | some p =>
      obtain ⟨found, last, rfl, hlast⟩ := Inquiry.leads_put_bind_iff.mp hrest
      obtain ⟨rfl, hall⟩ := Inquiry.leads_done_iff.mp hlast
      obtain rfl := Except.ok.inj hall
      refine ⟨found, ?_, ?_⟩
      · obtain ⟨p, rfl, rfl, hp, rfl⟩ | ⟨rfl, rfl, closed, rfl, hmonthly⟩ :=
          leads_overviewPeriod hperiod
        · obtain rfl := Option.some.inj hp
          exact .agenciesIn (by simp)
        · exact .agenciesInLatest (by simp) hmonthly (by simp)
      · rw [List.map_map]
        cases filter <;> rfl
  | periods raw =>
    obtain ⟨code, first, rest, rfl, hcode, hrest⟩ := Inquiry.leads_bind_ok_iff.mp h
    obtain ⟨found, last, rfl, hlast⟩ := Inquiry.leads_put_bind_iff.mp hrest
    obtain rfl := text_of_leads_agency hcode
    obtain ⟨rfl, hall⟩ := Inquiry.leads_done_iff.mp hlast
    obtain rfl := Except.ok.inj hall
    have whole : found.filter (periods code.text).keeps = found :=
      List.filter_eq_self.mpr fun _ _ => rfl
    refine ⟨found, .periodsOf (by simp), ?_⟩
    rw [whole, List.map_map]
    rfl
  | differences raw year period =>
    obtain ⟨p, hp, hrest⟩ := Inquiry.leads_ofExcept_bind_iff.mp h
    obtain ⟨code, first, rest, rfl, hcode, hlast⟩ := Inquiry.leads_bind_ok_iff.mp hrest
    obtain rfl := Inquiry.leads_put_iff.mp hlast
    obtain ⟨rfl, rfl⟩ := period_of_requiredPeriod hp
    obtain rfl := text_of_leads_agency hcode
    have whole : all.filter (differences code.text (some p.year) (some p.period)).keeps = all :=
      List.filter_eq_self.mpr fun _ _ => rfl
    refine ⟨all, .differencesOf (by simp), ?_⟩
    rw [whole]
    rfl
  | publications raw year period =>
    obtain ⟨p, hp, hrest⟩ := Inquiry.leads_ofExcept_bind_iff.mp h
    obtain ⟨code, first, rest, rfl, hcode, hlast⟩ := Inquiry.leads_bind_ok_iff.mp hrest
    obtain rfl := Inquiry.leads_put_iff.mp hlast
    obtain rfl := period_of_make hp
    obtain rfl := text_of_leads_agency hcode
    have whole : all.filter (publications code.text year period).keeps = all :=
      List.filter_eq_self.mpr fun _ _ => rfl
    refine ⟨all, .publicationsOf (by simp), ?_⟩
    rw [whole]
    rfl

/-! ### The pages of one list -/

/-- What an accepted request asks for. -/
theorem accepted_run {σ : Type} {t : Subject} {c : Circumstances} {b : Backend σ} {s : σ}
    {asked : ListingRequest} {answer : Json}
    (accepted : (((t.call asked).inquiry c).run b s).result = .ok answer) :
    ∃ l : Listing t.Row, Listing.parse t.columns asked = .ok l ∧
      ∃ all, ((t.rows c).run b s).result = .ok all := by
  rw [inquiry_call_eq] at accepted
  cases hl : Listing.parse t.columns asked with
  | error why => simp [hl, Inquiry.ofExcept] at accepted
  | ok l =>
    rw [hl] at accepted
    exact ⟨l, rfl, Inquiry.exists_ok_of_run_bind b accepted⟩

/-- A checked request is answered by a page of the rows. -/
theorem run_call_of_parse {σ : Type} {t : Subject} {c : Circumstances} {b : Backend σ} {s : σ}
    {asked : ListingRequest} {l : Listing t.Row} {all : List t.Row}
    (hl : Listing.parse t.columns asked = .ok l) (hall : ((t.rows c).run b s).result = .ok all) :
    (((t.call asked).inquiry c).run b s).result = .ok (Listing.toJson t.rowJson (l.page all)) ∧
      ((t.call asked).inquiry c).transcript b s = (t.rows c).transcript b s := by
  rw [inquiry_call_eq, hl, Inquiry.ofExcept, Inquiry.done_bind]
  exact ⟨by rw [Inquiry.run_bind_of_ok b hall, Inquiry.run_done],
    Inquiry.transcript_bind_done b _ _ s⟩

/-- The pages of a listing are cut out of the list `all`, whichever of them is asked for: it shows
the records that the stores `found` and the filter keeps, sorted by a cell. -/
structure PagesOf {σ : Type} (t : Subject) (c : Circumstances) (b : Backend σ) (s : σ)
    (asked : ListingRequest) (found : List t.Record) (order : SortOrder) (all : List ShownRow) :
    Prop where
  direction : order.name = asked.order.getD "desc"
  /-- The sort key is the name of a cell in every row. -/
  keyed : ∀ r, ((t.shown c.files r).cell? (asked.sort.getD t.usualKey)).isSome
  sorted : StablySorted order (ShownRow.sortValue (asked.sort.getD t.usualKey))
    ((found.filter t.keeps).map (t.shown c.files)) all
  /-- For any page and limit the stores find these records, and the answer is a slice. -/
  served : ∀ page limit r, PageRequest.make page limit = .ok r → r.page ≤ uint32Max →
    t.Found c.now (((t.call { asked with page, limit }).inquiry c).transcript b s) found ∧
    (((t.call { asked with page, limit }).inquiry c).run b s).result =
      .ok (Listing.toJson ShownRow.toJson (r.paginate all)) ∧
    (r.paginate all).results = (all.drop ((r.page - 1) * r.limit)).take r.limit ∧
    (r.paginate all).info.total = all.length
  /-- As many pages of one limit as the list needs are the list. -/
  joined : ∀ limit count, limit ≤ maxLimit → count ≤ uint32Max → all.length ≤ count * limit →
    ((List.range count).flatMap fun i => (PageRequest.paginate ⟨i + 1, limit⟩ all).results) = all

/-- The report of an agency for the sixth period of 2021, with the number of accounts it misses. -/
def sampleRecord (name code : String) (abbreviation : Option String) (missing : Int) :
    PeriodRecord where
  agencyName := name
  abbreviation := abbreviation
  toptierCode := code
  agencyId := none
  fiscalYear := 2021
  fiscalPeriod := 6
  totalBudgetaryResources := none
  gtasObligationTotal := none
  tasAccountsTotal := none
  tasObligationNotInGtasTotal := none
  missingTasAccountsCount := missing
  obligationDifference := none
  unlinkedContractAwardCount := 0
  unlinkedAssistanceAwardCount := 0
  recentPublicationDate := none
  recentPublicationDateCertified := false
  governmentBudgetaryResources := none

/-- Stores with the reports of four agencies, three of them departments. -/
def sampleReports : Memory where
  stores := { Stores.sample with
    records := [sampleRecord "Department of Energy" "089" (some "DOE") 3,
      sampleRecord "Peace Corps" "1125" none 3,
      sampleRecord "Department of Labor" "1601" (some "DOL") 0,
      sampleRecord "Department of Commerce" "013" (some "DOC") 3] }

end Subject

end Outlays

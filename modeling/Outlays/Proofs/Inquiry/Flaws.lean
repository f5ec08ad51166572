import Outlays.Proofs.Agency.Periods
import Outlays.Proofs.Fiscal.Windows
import Outlays.Proofs.Listing.Paging
import Outlays.Proofs.Recipient.Spelling

/-!
# Calls that are wrong in themselves

Some calls cannot be answered whatever the stores hold: a page has the number zero, a text is no
year, a period has not come yet. What can be wrong in this way is written down here parameter by
parameter, without the services, and in the order in which it is reported. A call with such a flaw
asks the stores nothing, and is turned down for its first flaw under whatever circumstances share
a date. A call without one begins with a question.

## Main definitions

* `Flaw` — the parameter that is wrong, with its place in the order
* `Call.HasFlaw` — what is wrong with a call in itself
* `Call.check` — the checks that a call goes through before the first question

## Main results

* `Call.finds_check` — the checks report the first flaw, and pass what has none
* `Call.opens_inquiry` — a call begins with its checks, and then with a question
* `Call.refused_for_first_flaw` — a call with a flaw is turned down, and nothing is asked
* `Call.asked_eq_nil_iff` — only a call with a flaw asks nothing
-/

namespace Outlays

/-! ## Flaws -/

/-- The parameter of a call that is wrong in itself. -/
inductive Flaw where
  | page
  | limit
  | order
  | sort
  | period
  | toptierCode
  | year
  | recipientId
  | filters
  | defCodes
  deriving DecidableEq, Repr

namespace Flaw

/-- The place among flaws that are reported one before the other: the parameters of a listing, the
period, the agency; and the year before the recipient. -/
def rank : Flaw → Nat
  | .page => 0
  | .limit => 1
  | .order => 2
  | .sort => 3
  | .period => 4
  | .toptierCode => 5
  | .year => 6
  | .recipientId => 7
  | .filters => 8
  | .defCodes => 9

/-- The code under which a flaw is reported. -/
def code : Flaw → FaultCode
  | .toptierCode => .notFound
  | .filters | .defCodes => .unprocessableEntity
  | _ => .invalidRequest

/-- The flaw is there, and none that is reported before it. -/
structure IsFirst (flawed : Flaw → Prop) (flaw : Flaw) : Prop where
  here : flawed flaw
  rank_le : ∀ other, flawed other → flaw.rank ≤ other.rank

end Flaw

/-- The flaw that a refusal reports. -/
def Refusal.flaw? : Refusal → Option Flaw
  | .page (.pageNumber _) => some .page
  | .page (.rowLimit _) => some .limit
  | .order _ => some .order
  | .sortKey .. => some .sort
  | .fiscalYear .. | .fiscalPeriod | .halfPeriod | .missingParameter _ => some .period
  | .unknownAgency _ => some .toptierCode
  | .year _ => some .year
  | .missingLevel _ | .unknownLevel _ | .malformedHash _ => some .recipientId
  | .emptyFilters => some .filters
  | .missingDefCodes | .emptyDefCodes => some .defCodes
  | _ => none

theorem Refusal.code_of_flaw? {why : Refusal} {flaw : Flaw} (h : why.flaw? = some flaw) :
    why.code = flaw.code := by
  cases why with
  | page why => cases why <;> cases h <;> rfl
  | _ => cases h <;> rfl

/-! ## What is wrong with a call -/

/-- What is wrong with a request for a page of a listing with columns of these names. -/
def ListingRequest.HasFlaw (names : List String) (r : ListingRequest) : Flaw → Prop
  | .page => r.page = some 0
  | .limit => ∃ n, r.limit = some n ∧ ¬ (1 ≤ n ∧ n ≤ 100)
  | .order => ∃ text, r.order = some text ∧ text ≠ "asc" ∧ text ≠ "desc"
  | .sort => ∃ text, r.sort = some text ∧ text ∉ names
  | _ => False

/-- What is wrong with the subject of a listing, seen from today. -/
def Subject.HasFlaw (today : Date) : Subject → Flaw → Prop
  | .agencies year period _, .period =>
    year.isSome ≠ period.isSome ∨
      ∃ y n, year = some y ∧ period = some n ∧ ¬ FiscalPeriod.Valid today ⟨y, n⟩
  | .differences _ year period, .period =>
    ¬ ∃ y n, year = some y ∧ period = some n ∧ FiscalPeriod.Valid today ⟨y, n⟩
  | .publications _ year period, .period => ¬ FiscalPeriod.Valid today ⟨year, period⟩
  | .periods code, .toptierCode | .differences code _ _, .toptierCode
  | .publications code _ _, .toptierCode =>
    ¬ ((code.length = 3 ∨ code.length = 4) ∧ ∀ c ∈ code.toList, c.isDigit = true)
  | _, _ => False

/-- What is wrong with a call in itself, seen from today. -/
def Call.HasFlaw (today : Date) : Call → Flaw → Prop
  | .overview _ year, .year | .children _ year, .year => ∀ y, ¬ YearFilter.Reads year y
  | .overview id _, .recipientId => ∀ r, ¬ RecipientId.Reads id (.ok r)
  | .agencies year period filter r, flaw =>
    r.HasFlaw ReportRow.agencyColumns.names flaw ∨
      (Subject.agencies year period filter).HasFlaw today flaw
  | .periods code r, flaw =>
    r.HasFlaw ReportRow.periodColumns.names flaw ∨ (Subject.periods code).HasFlaw today flaw
  | .differences code year period r, flaw =>
    r.HasFlaw AccountDifference.columns.names flaw ∨
      (Subject.differences code year period).HasFlaw today flaw
  | .publications code year period r, flaw =>
    r.HasFlaw Publication.columns.names flaw ∨
      (Subject.publications code year period).HasFlaw today flaw
  | .downloadCount filters, .filters => filters = {}
  | .accountCount codes, .defCodes => codes = none ∨ codes = some []
  | _, _ => False

/-! ## Checks -/

/-- The check passes what has no flaw, and otherwise reports the first one. -/
inductive Finds {α : Type} (flawed : Flaw → Prop) : Except Refusal α → Prop where
  | ok (a : α) (h : ∀ flaw, ¬ flawed flaw) : Finds flawed (.ok a)
  | error {why : Refusal} {flaw : Flaw} (first : Flaw.IsFirst flawed flaw)
      (h : why.flaw? = some flaw) : Finds flawed (.error why)

section Finds

variable {α β : Type} {flawed later : Flaw → Prop} {e : Except Refusal α}

theorem finds_one_ok {flaw : Flaw} {wrong : Prop} (a : α) (h : ¬ wrong) :
    Finds (fun f => f = flaw ∧ wrong) (.ok a) :=
  .ok a fun _ hflaw => h hflaw.2

theorem finds_one_error {flaw : Flaw} {wrong : Prop} {why : Refusal} (h : wrong)
    (hwhy : why.flaw? = some flaw) :
    Finds (fun f => f = flaw ∧ wrong) (.error why : Except Refusal α) := by
  refine .error ⟨⟨rfl, h⟩, ?_⟩ hwhy
  rintro _ ⟨rfl, -⟩
  exact Nat.le_refl _

/-- A check of one parameter, which passes all but what is wrong. -/
theorem finds_one {flaw : Flaw} {wrong : Prop} (hok : (∃ a, e = .ok a) ↔ ¬ wrong)
    (herror : ∀ why, e = .error why → why.flaw? = some flaw) :
    Finds (fun f => f = flaw ∧ wrong) e := by
  cases e with
  | ok a => exact finds_one_ok a (hok.mp ⟨a, rfl⟩)
  | error why =>
    have hwrong : wrong := by simpa using hok
    exact finds_one_error hwrong (herror why rfl)

theorem Finds.congr (h : Finds flawed e) (hiff : ∀ flaw, later flaw ↔ flawed flaw) :
    Finds later e := by
  rwa [funext fun flaw => propext (hiff flaw)]

/-- Two checks, of which the first one looks at what is reported first. -/
theorem Finds.bind {f : α → Except Refusal β} (h : Finds flawed e)
    (hf : ∀ a, e = .ok a → Finds later (f a))
    (hrank : ∀ first second, flawed first → later second → first.rank ≤ second.rank) :
    Finds (fun flaw => flawed flaw ∨ later flaw) (e >>= f) := by
  cases h with
  | @error why flaw first hwhy =>
    -- The second check is not reached, and could find nothing that comes before this flaw.
    refine .error ⟨.inl first.here, ?_⟩ hwhy
    rintro other (hother | hother)
    · exact first.rank_le other hother
    · exact hrank flaw other first.here hother
  | ok a hnone =>
    -- All that can be wrong is left to the second check.
    refine (hf a rfl).congr fun flaw => ?_
    simp [hnone flaw]

/-- What is made of a checked value has no further flaw. -/
theorem Finds.bind_ok (h : Finds flawed e) (f : α → β) :
    Finds flawed (e >>= fun a => .ok (f a)) := by
  cases h with
  | error first hwhy => exact .error first hwhy
  | ok a hnone => exact .ok _ hnone

end Finds

/-! ### Listings -/

theorem PageRequest.finds_make (page limit : Option Nat) :
    Finds
      (fun f => f = .page ∧ page = some 0 ∨
        f = .limit ∧ ∃ n, limit = some n ∧ ¬ (1 ≤ n ∧ n ≤ 100))
      ((make page limit).mapError Refusal.page) := by
  have hpage : page.getD 1 = 0 ↔ page = some 0 := by
    cases page <;> simp
  have hlimit : (limit.getD defaultLimit = 0 ∨ limit.getD defaultLimit > maxLimit) ↔
      ∃ n, limit = some n ∧ ¬ (1 ≤ n ∧ n ≤ 100) := by
    cases limit with
    | none => simp [defaultLimit, maxLimit]
    | some n => simp [maxLimit]; omega
  simp only [make, Bool.or_eq_true, decide_eq_true_eq, hpage, hlimit]
  -- One check looks at two parameters, so its order is taken from the code here.
  split
  · next hzero =>
    refine .error ⟨.inl ⟨rfl, hzero⟩, fun _ _ => Nat.zero_le _⟩ rfl
  · next hzero =>
    split
    · next hrange =>
      refine .error ⟨.inr ⟨rfl, hrange⟩, ?_⟩ rfl
      rintro _ (⟨-, h⟩ | ⟨rfl, -⟩)
      · exact absurd h hzero
      · exact Nat.le_refl _
    · next hrange =>
      refine .ok _ ?_
      rintro _ (⟨-, h⟩ | ⟨-, h⟩)
      · exact hzero h
      · exact hrange h

theorem mem_names_iff {ρ : Type} {known : List ρ} {name : ρ → String} {text : String} :
    text ∈ known.map name ↔ (known.find? fun x => name x == text).isSome := by
  simp

theorem SortOrder.finds_parse (raw : Option String) :
    Finds (fun f => f = .order ∧ ∃ text, raw = some text ∧ text ∉ names.map Prod.fst)
      (parse raw) := by
  cases raw with
  | none => exact finds_one_ok _ (by simp)
  | some text =>
    simp only [Option.some_inj, exists_eq_left', parse, mem_names_iff]
    split
    · next hfound => exact finds_one_ok _ (by simp [hfound])
    · next hnone => exact finds_one_error (by simp [hnone]) rfl

theorem Columns.finds_parse {ρ : Type} (columns : Columns ρ) (raw : Option String) :
    Finds (fun f => f = .sort ∧ ∃ text, raw = some text ∧ text ∉ columns.names)
      (columns.parse raw) := by
  cases raw with
  | none => exact finds_one_ok _ (by simp)
  | some text =>
    simp only [Option.some_inj, exists_eq_left', parse, names, mem_names_iff]
    split
    · next hfound => exact finds_one_ok _ (by simp [hfound])
    · next hnone => exact finds_one_error (by simp [hnone]) rfl

theorem Listing.finds_parse {ρ : Type} (columns : Columns ρ) (r : ListingRequest) :
    Finds (r.HasFlaw columns.names) (parse columns r) := by
  have hpage := PageRequest.finds_make r.page r.limit
  have horder := SortOrder.finds_parse r.order
  have hsort := columns.finds_parse r.sort
  refine (hpage.bind (fun request _ => horder.bind (fun order _ =>
    hsort.bind_ok fun column => Listing.mk request order column) ?_) ?_).congr ?_
  · rintro _ _ ⟨rfl, -⟩ ⟨rfl, -⟩
    decide
  · rintro _ _ (⟨rfl, -⟩ | ⟨rfl, -⟩) (⟨rfl, -⟩ | ⟨rfl, -⟩) <;> decide
  · intro flaw
    cases flaw <;> simp [ListingRequest.HasFlaw, SortOrder.names]

/-! ### Periods and agencies -/

theorem FiscalPeriod.finds_make (year : Int) (period : Nat) (today : Date) :
    Finds (fun f => f = .period ∧ ¬ Valid today ⟨year, period⟩) (make year period today) := by
  refine finds_one ?_ fun why hwhy => ?_
  · simp [make_eq_ok_iff]
  · simp only [make] at hwhy
    split at hwhy
    · cases hwhy
      rfl
    · split at hwhy <;> cases hwhy
      rfl

theorem YearFilter.finds_parse (raw : Option String) :
    Finds (fun f => f = .year ∧ ∀ y, ¬ Reads raw y) (parse raw) := by
  refine finds_one (by simp [parse_eq_ok_iff]) fun why hwhy => ?_
  simp only [parse] at hwhy
  split at hwhy
  · cases hwhy
  · split at hwhy
    · cases hwhy
    · split at hwhy <;> cases hwhy
      rfl

theorem RecipientId.finds_parse (raw : String) :
    Finds (fun f => f = .recipientId ∧ ∀ id, ¬ Reads raw (.ok id)) (parse raw) := by
  refine finds_one (by simp [parse_eq_iff]) fun why hwhy => ?_
  cases parse_eq_iff.mp hwhy <;> rfl

/-- The text is checked to be a code. What is not one belongs to no agency. -/
def Reporting.checkCode (raw : String) : Except Refusal Unit :=
  if isToptierCode raw then .ok () else .error (.unknownAgency raw)

theorem Reporting.finds_checkCode (raw : String) :
    Finds (fun f => f = .toptierCode ∧
      ¬ ((raw.length = 3 ∨ raw.length = 4) ∧ ∀ c ∈ raw.toList, c.isDigit = true))
      (checkCode raw) := by
  have hcode : isToptierCode raw = true ↔
      (raw.length = 3 ∨ raw.length = 4) ∧ ∀ c ∈ raw.toList, c.isDigit = true := by
    simp [isToptierCode, ← String.length_toList]
  rw [checkCode, ← hcode]
  split
  · next hcode => exact finds_one_ok () (not_not.mpr hcode)
  · next hcode => exact finds_one_error hcode rfl

/-! ### Calls -/

namespace Subject

/-- The checks of a subject: of its period first, and then of its agency. -/
def check (today : Date) : Subject → Except Refusal Unit
  | .agencies (some year) (some period) _ => do
    let _ ← FiscalPeriod.make year period today
    return ()
  | .agencies none none _ => .ok ()
  | .agencies _ _ _ => .error .halfPeriod
  | .periods code => Reporting.checkCode code
  | .differences _ none _ => .error (.missingParameter "fiscal_year")
  | .differences _ _ none => .error (.missingParameter "fiscal_period")
  | .differences code (some year) (some period) | .publications code year period => do
    let _ ← FiscalPeriod.make year period today
    Reporting.checkCode code

theorem le_rank_of_hasFlaw {today : Date} {t : Subject} {flaw : Flaw} (h : t.HasFlaw today flaw) :
    Flaw.period.rank ≤ flaw.rank := by
  cases t <;> cases flaw <;> first | decide | exact h.elim

/-- The period of a subject is checked before its agency. -/
theorem finds_period {today : Date} {t : Subject} {why : Refusal} (h : t.HasFlaw today .period)
    (hwhy : why.flaw? = some .period) :
    Finds (t.HasFlaw today) (.error why : Except Refusal Unit) :=
  .error ⟨h, fun _ => le_rank_of_hasFlaw⟩ hwhy

theorem finds_periodAndCode (today : Date) (code : String) (year : Int) (period : Nat) :
    Finds ((publications code year period).HasFlaw today)
      ((publications code year period).check today) := by
  refine ((FiscalPeriod.finds_make year period today).bind (fun _ _ =>
    Reporting.finds_checkCode code) ?_).congr fun flaw => ?_
  · rintro _ _ ⟨rfl, -⟩ ⟨rfl, -⟩
    decide
  · cases flaw <;> simp [HasFlaw]

theorem finds_check (today : Date) (t : Subject) : Finds (t.HasFlaw today) (t.check today) := by
  cases t with
  | agencies year period filter =>
    cases year with
    | none =>
      cases period with
      | none => exact .ok () fun flaw => by cases flaw <;> simp [HasFlaw]
      | some n => exact finds_period (by simp [HasFlaw]) rfl
    | some y =>
      cases period with
      | none => exact finds_period (by simp [HasFlaw]) rfl
      | some n =>
        refine ((FiscalPeriod.finds_make y n today).bind_ok fun _ => ()).congr fun flaw => ?_
        cases flaw <;> simp [HasFlaw]
  | periods code =>
    refine (Reporting.finds_checkCode code).congr fun flaw => ?_
    cases flaw <;> simp [HasFlaw]
  | differences code year period =>
    cases year with
    | none => exact finds_period (by simp [HasFlaw]) rfl
    | some y =>
      cases period with
      | none => exact finds_period (by simp [HasFlaw]) rfl
      | some n =>
        refine (finds_periodAndCode today code y n).congr fun flaw => ?_
        cases flaw <;> simp [HasFlaw]
  | publications code year period => exact finds_periodAndCode today code year period

end Subject

/-- The checks that a call goes through before the first question. -/
def Call.check (today : Date) : Call → Except Refusal Unit
  | .overview id year => do
    let _ ← YearFilter.parse year
    let _ ← RecipientId.parse id
    return ()
  | .children _ year => do
    let _ ← YearFilter.parse year
    return ()
  | .agencies year period filter r => do
    let _ ← Listing.parse ReportRow.agencyColumns r
    (Subject.agencies year period filter).check today
  | .periods code r => do
    let _ ← Listing.parse ReportRow.periodColumns r
    (Subject.periods code).check today
  | .differences code year period r => do
    let _ ← Listing.parse AccountDifference.columns r
    (Subject.differences code year period).check today
  | .publications code year period r => do
    let _ ← Listing.parse Publication.columns r
    (Subject.publications code year period).check today
  | .downloadCount filters => if filters.isEmpty then .error .emptyFilters else .ok ()
  | .accountCount none => .error .missingDefCodes
  | .accountCount (some []) => .error .emptyDefCodes
  | .accountCount (some (_ :: _)) => .ok ()

theorem ListingRequest.rank_le_of_hasFlaw {names : List String} {r : ListingRequest} {flaw : Flaw}
    (h : r.HasFlaw names flaw) : flaw.rank ≤ Flaw.sort.rank := by
  cases flaw <;> first | decide | exact h.elim

theorem Subject.finds_check_call (today : Date) (t : Subject) (r : ListingRequest) :
    Finds ((t.call r).HasFlaw today) ((t.call r).check today) := by
  -- The parameters of a listing are all reported before those of its subject.
  have hboth := (Listing.finds_parse t.columns r).bind (fun _ _ => t.finds_check today)
    fun first second hfirst hsecond =>
      (ListingRequest.rank_le_of_hasFlaw hfirst).trans
        (Nat.le_trans (by decide) (le_rank_of_hasFlaw hsecond))
  cases t <;> exact hboth

theorem TransactionFilters.isEmpty_iff {filters : TransactionFilters} :
    filters.isEmpty = true ↔ filters = {} := by
  cases filters
  simp [isEmpty, and_assoc]

/-- The checks report the first flaw of a call, and pass a call that has none. -/
theorem Call.finds_check (today : Date) (call : Call) :
    Finds (call.HasFlaw today) (call.check today) := by
  cases call with
  | overview id year =>
    refine ((YearFilter.finds_parse year).bind (fun _ _ =>
      (RecipientId.finds_parse id).bind_ok fun _ => ()) ?_).congr fun flaw => ?_
    · rintro _ _ ⟨rfl, -⟩ ⟨rfl, -⟩
      decide
    · cases flaw <;> simp [HasFlaw]
  | children duns year =>
    refine ((YearFilter.finds_parse year).bind_ok fun _ => ()).congr fun flaw => ?_
    cases flaw <;> simp [HasFlaw]
  | agencies year period filter r =>
    exact Subject.finds_check_call today (.agencies year period filter) r
  | periods code r => exact Subject.finds_check_call today (.periods code) r
  | differences code year period r =>
    exact Subject.finds_check_call today (.differences code year period) r
  | publications code year period r =>
    exact Subject.finds_check_call today (.publications code year period) r
  | downloadCount filters =>
    have hone : Finds (fun f => f = .filters ∧ filters = {})
        (check today (.downloadCount filters)) := by
      rw [check, ← TransactionFilters.isEmpty_iff]
      split
      · next hempty => exact finds_one_error hempty rfl
      · next hempty => exact finds_one_ok () hempty
    refine hone.congr fun flaw => ?_
    cases flaw <;> simp [HasFlaw]
  | accountCount codes =>
    have hone : Finds (fun f => f = .defCodes ∧ (codes = none ∨ codes = some []))
        (check today (.accountCount codes)) := by
      cases codes with
      | none => exact finds_one_error (.inl rfl) rfl
      | some codes =>
        cases codes with
        | nil => exact finds_one_error (.inr rfl) rfl
        | cons code codes => exact finds_one_ok () (by simp)
    refine hone.congr fun flaw => ?_
    cases flaw <;> simp [HasFlaw]

/-! ## Inquiries -/

/-- An inquiry that opens with a check: what the check refuses, it refuses, and otherwise its first
step is a question. -/
inductive Inquiry.Opens {α : Type} : Except Refusal Unit → Inquiry α → Prop where
  | refuse (why : Refusal) : Opens (.error why) (.refuse why)
  | ask (q : Question) (next : q.Answer → Inquiry α) : Opens (.ok ()) (.ask q next)

namespace Inquiry

variable {α β : Type} {e : Except Refusal Unit}

theorem Opens.bind {x : Inquiry α} (h : x.Opens e) (f : α → Inquiry β) : (x.bind f).Opens e := by
  cases h with
  | refuse why => exact .refuse why
  | ask q next => exact .ask q _

theorem Opens.eq_refuse {x : Inquiry α} {why : Refusal} (h : x.Opens (.error why)) :
    x = .refuse why := by
  cases h
  rfl

/-- Behind a check that passes, the stores are asked something. -/
theorem Opens.asked_ne_nil {x : Inquiry α} {u : Unit} (h : x.Opens (.ok u)) {σ : Type}
    (b : Backend σ) (s : σ) : (x.run b s).asked ≠ [] := by
  cases h with
  | ask q next =>
    simp only [run]
    split <;> simp

theorem opens_put (q : Question) : (put q).Opens (.ok ()) := .ask q .done

/-- An inquiry that checks one value and then opens with a further check. -/
theorem opens_ofExcept_bind {x : Except Refusal α} {f : α → Inquiry β}
    (h : ∀ a, x = .ok a → (f a).Opens e) : ((ofExcept x).bind f).Opens (x >>= fun _ => e) := by
  cases x with
  | error why => exact .refuse why
  | ok a => exact h a rfl

end Inquiry

open Inquiry

theorem Reporting.opens_agency (raw : String) : (agency raw).Opens (checkCode raw) := by
  by_cases hcode : isToptierCode raw = true
  · simp only [agency, checkCode, ToptierCode.make, hcode, dif_pos, if_true]
    exact (opens_put _).bind _
  · simp only [agency, checkCode, ToptierCode.make, hcode]
    exact .refuse _

theorem Subject.opens_rows (c : Circumstances) (t : Subject) :
    (t.rows c).Opens (t.check c.now.date) := by
  cases t with
  | agencies year period filter =>
    cases year with
    | none =>
      cases period with
      | none => exact ((opens_put (.closedPeriods c.now)).bind _).bind _
      | some n => exact .refuse .halfPeriod
    | some y =>
      cases period with
      | none => exact .refuse .halfPeriod
      | some n =>
        simp only [rows, Reporting.overviewPeriod, bind_eq_bind, bind_bind]
        exact opens_ofExcept_bind fun p _ => (opens_put (.agenciesForPeriod p)).bind _
  | periods code => exact (Reporting.opens_agency code).bind _
  | differences code year period =>
    cases year with
    | none => exact .refuse _
    | some y =>
      cases period with
      | none => exact .refuse _
      | some n => exact opens_ofExcept_bind fun _ _ => (Reporting.opens_agency code).bind _
  | publications code year period =>
    exact opens_ofExcept_bind fun _ _ => (Reporting.opens_agency code).bind _

theorem Subject.opens_call (c : Circumstances) (t : Subject) (r : ListingRequest) :
    ((t.call r).inquiry c).Opens ((t.call r).check c.now.date) := by
  rw [inquiry_call_eq]
  have hboth := opens_ofExcept_bind (x := Listing.parse t.columns r) fun l _ =>
    (t.opens_rows c).bind fun rows => .done (Listing.toJson t.rowJson (l.page rows))
  cases t <;> exact hboth

/-- A call opens with its checks, which depend on nothing but the date. -/
theorem Call.opens_inquiry (c : Circumstances) (call : Call) :
    (call.inquiry c).Opens (call.check c.now.date) := by
  cases call with
  | overview id year =>
    exact (opens_ofExcept_bind fun _ _ => opens_ofExcept_bind fun id _ =>
      (opens_put (.profileExists id)).bind _).bind _
  | children duns year =>
    exact (opens_ofExcept_bind fun _ _ => (opens_put (.findEntryByDuns duns)).bind _).bind _
  | agencies year period filter r => exact Subject.opens_call c (.agencies year period filter) r
  | periods code r => exact Subject.opens_call c (.periods code) r
  | differences code year period r => exact Subject.opens_call c (.differences code year period) r
  | publications code year period r =>
    exact Subject.opens_call c (.publications code year period) r
  | downloadCount filters =>
    simp only [inquiry, check, DownloadCount.ask]
    split
    · exact .refuse .emptyFilters
    · exact ((opens_put (.countTransactions filters)).bind _).bind _
  | accountCount codes =>
    cases codes with
    | none => exact .refuse .missingDefCodes
    | some codes =>
      cases codes with
      | nil => exact .refuse .emptyDefCodes
      | cons code codes => exact (((opens_put .defCodes).bind _).bind _).bind _

namespace Call

/-- A call that is wrong in itself is turned down for its first flaw, with the same refusal wherever
the date is the same, and no store is asked anything. -/
theorem refused_for_first_flaw {today : Date} {call : Call} {flaw : Flaw}
    (h : call.HasFlaw today flaw) :
    ∃ first why, Flaw.IsFirst (call.HasFlaw today) first ∧ why.flaw? = some first ∧
      why.code = first.code ∧
      ∀ c : Circumstances, c.now.date = today → ∀ (σ : Type) (b : Backend σ) (s : σ),
        (call.inquiry c).run b s = ⟨.error (.refused why), s, []⟩ := by
  have hfinds := call.finds_check today
  generalize hcheck : call.check today = e at hfinds
  cases hfinds with
  | ok _ hnone => exact absurd h (hnone flaw)
  | @error why first hfirst hwhy =>
    refine ⟨first, why, hfirst, hwhy, Refusal.code_of_flaw? hwhy, ?_⟩
    rintro c rfl σ b s
    have hopens := call.opens_inquiry c
    rw [hcheck] at hopens
    rw [hopens.eq_refuse, run_refuse]

/-- With the sixth period of 2016 the differences of an agency cannot be listed, nor can they by a
code with a letter; but what is reported is the limit. -/
theorem refused_for_limit :
    ∃ why : Refusal, why.flaw? = some .limit ∧ why.code = .invalidRequest ∧
      ∀ (σ : Type) (b : Backend σ) (s : σ),
        ((differences "12a" (some 2016) (some 6) { limit := some 101, order := some "up" }).inquiry
          .sample).run b s = ⟨.error (.refused why), s, []⟩ := by
  have hcode : HasFlaw Circumstances.sample.now.date
      (differences "12a" (some 2016) (some 6) { limit := some 101, order := some "up" })
      .toptierCode := by
    simp [HasFlaw, ListingRequest.HasFlaw, Subject.HasFlaw]
  have hlimit : HasFlaw Circumstances.sample.now.date
      (differences "12a" (some 2016) (some 6) { limit := some 101, order := some "up" })
      .limit := by
    simp [HasFlaw, ListingRequest.HasFlaw]
  have hpage : ¬ HasFlaw Circumstances.sample.now.date
      (differences "12a" (some 2016) (some 6) { limit := some 101, order := some "up" })
      .page := by
    simp [HasFlaw, ListingRequest.HasFlaw, Subject.HasFlaw]
  obtain ⟨first, why, hfirst, hwhy, hwhycode, hrun⟩ := refused_for_first_flaw hcode
  obtain rfl : first = .limit := by
    have hle := hfirst.rank_le .limit hlimit
    have hhere := hfirst.here
    cases first <;> first | rfl | exact absurd hle (by decide) | exact absurd hhere hpage
  exact ⟨why, hwhy, hwhycode, fun σ b s => hrun .sample rfl σ b s⟩

/-- A call asks nothing exactly if something is wrong with it in itself. -/
theorem asked_eq_nil_iff (c : Circumstances) (call : Call) {σ : Type} (b : Backend σ) (s : σ) :
    ((call.inquiry c).run b s).asked = [] ↔ ∃ flaw, call.HasFlaw c.now.date flaw := by
  have hfinds := call.finds_check c.now.date
  have hopens := call.opens_inquiry c
  generalize call.check c.now.date = e at hfinds hopens
  cases hfinds with
  | ok _ hnone => exact iff_of_false (hopens.asked_ne_nil b s) (not_exists.mpr hnone)
  | error first hwhy =>
    rw [hopens.eq_refuse]
    exact iff_of_true rfl ⟨_, first.here⟩

end Call

end Outlays

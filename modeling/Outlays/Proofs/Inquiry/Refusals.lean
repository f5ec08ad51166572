import Outlays.Call
import Outlays.Proofs.Inquiry.Transcript

/-!
# Who is to blame for a refusal

A request that is turned down is at fault itself, with one exception: the service looks up the last
monthly window that has closed, and turns the request down where that window names no month. So as
long as the stores name months, whatever a service refuses is told under a code that blames the
client. The checks come first in this file, and then the services, from the parts to the whole.

## Main definitions

* `FaultCode.OfClient` — the code blames the client
* `ChecksClient` — a check refuses nothing but what is the client's fault
* `ClosedPeriods.NamesMonth`, `Answered.Fair` — the answers that a service can go on from
* `Inquiry.RefusesClient` — the same of an inquiry, as long as it is answered fairly

## Main results

* `Inquiry.RefusesClient.of_run` — a run that refuses blames the client, or has been answered
  unfairly
* `Call.refusesClient_inquiry` — a call refuses nothing but what is the client's fault
-/

namespace Outlays

/-- The code says that something is wrong with the request. -/
def FaultCode.OfClient (c : FaultCode) : Prop :=
  c = .invalidRequest ∨ c = .notFound ∨ c = .unprocessableEntity

/-- The request is at fault. -/
def Refusal.OfClient (why : Refusal) : Prop := why.code.OfClient

/-- Only a window that names no month is not the client's fault. -/
theorem Refusal.ofClient_iff {why : Refusal} : why.OfClient ↔ ∀ period, why ≠ .window period := by
  cases why <;> simp [OfClient, FaultCode.OfClient, code]

/-- Where the client is not to blame, something is wrong inside. -/
theorem Refusal.code_of_not_ofClient {why : Refusal} (h : ¬ why.OfClient) :
    why.code = .internalError := by
  rw [ofClient_iff] at h
  obtain ⟨period, hperiod⟩ := Classical.not_forall.mp h
  obtain rfl := Classical.not_not.mp hperiod
  rfl

/-! ## Checks -/

/-- The check refuses nothing but what is the client's fault. -/
def ChecksClient {α : Type} (e : Except Refusal α) : Prop := ∀ why, e = .error why → why.OfClient

section Checks

variable {α β : Type}

@[simp] theorem checksClient_ok (a : α) : ChecksClient (.ok a) := nofun

@[simp] theorem checksClient_error_iff {why : Refusal} :
    ChecksClient (.error why : Except Refusal α) ↔ why.OfClient := by
  constructor
  · exact fun h => h why rfl
  · intro h other heq
    rw [← Except.error.inj heq]
    exact h

/-- A refusal of anything but a window. -/
theorem checksClient_error {why : Refusal} (h : ∀ period, why ≠ .window period) :
    ChecksClient (.error why : Except Refusal α) :=
  checksClient_error_iff.mpr (Refusal.ofClient_iff.mpr h)

theorem ChecksClient.bind {e : Except Refusal α} {f : α → Except Refusal β} (he : ChecksClient e)
    (hf : ∀ a, ChecksClient (f a)) : ChecksClient (e >>= f) := by
  cases e with
  | ok a => exact hf a
  | error why => exact checksClient_error_iff.mpr (he why rfl)

theorem ChecksClient.map {e : Except Refusal α} (he : ChecksClient e) (f : α → β) :
    ChecksClient (e.map f) := by
  cases e with
  | ok a => exact checksClient_ok _
  | error why => exact checksClient_error_iff.mpr (he why rfl)

/-- A check whose refusals are put into words that blame the client. -/
theorem checksClient_mapError {ε : Type} {e : Except ε α} {f : ε → Refusal}
    (hf : ∀ how, (f how).OfClient) : ChecksClient (e.mapError f) := by
  cases e with
  | ok a => exact checksClient_ok a
  | error how => exact checksClient_error_iff.mpr (hf how)

end Checks

theorem YearFilter.checksClient_parse (raw : Option String) : ChecksClient (parse raw) := by
  simp only [parse]
  split
  · exact checksClient_ok _
  · split
    · exact checksClient_ok _
    · split
      · exact checksClient_ok _
      · exact checksClient_error nofun

theorem YearFilter.checksClient_window (today : Date) (year : YearFilter) :
    ChecksClient (year.window today) := by
  cases year with
  | latest => exact checksClient_ok _
  | all => exact checksClient_ok _
  | fiscalYear year =>
    rw [window]
    split
    · exact checksClient_ok _
    · exact checksClient_error nofun

theorem RecipientId.checksClient_parse (raw : String) : ChecksClient (parse raw) := by
  rw [parse]
  split
  · exact checksClient_error nofun
  · dsimp only
    split
    · exact checksClient_error nofun
    · split
      · exact checksClient_error nofun
      · exact checksClient_ok _

theorem TransactionFilters.checksClient_forRecipient (id : RecipientId) (year : YearFilter)
    (today : Date) : ChecksClient (forRecipient id year today) :=
  (year.checksClient_window today).map _

theorem SortOrder.checksClient_parse (raw : Option String) : ChecksClient (parse raw) := by
  cases raw with
  | none => exact checksClient_ok _
  | some raw =>
    rw [parse]
    split
    · exact checksClient_ok _
    · exact checksClient_error nofun

theorem Columns.checksClient_parse {ρ : Type} (columns : Columns ρ) (raw : Option String) :
    ChecksClient (columns.parse raw) := by
  cases raw with
  | none => exact checksClient_ok _
  | some raw =>
    rw [parse]
    split
    · exact checksClient_ok _
    · exact checksClient_error nofun

theorem Listing.checksClient_parse {ρ : Type} (columns : Columns ρ) (r : ListingRequest) :
    ChecksClient (parse columns r) := by
  have hpage : ChecksClient ((PageRequest.make r.page r.limit).mapError .page) :=
    checksClient_mapError fun _ => Refusal.ofClient_iff.mpr nofun
  exact hpage.bind fun _ => (SortOrder.checksClient_parse r.order).bind fun _ =>
    (columns.checksClient_parse r.sort).bind fun _ => checksClient_ok _

theorem FiscalPeriod.checksClient_make (year : Int) (period : Nat) (today : Date) :
    ChecksClient (make year period today) := by
  simp only [make]
  split
  · exact checksClient_error nofun
  · split
    · exact checksClient_error nofun
    · exact checksClient_ok _

theorem Reporting.checksClient_requiredPeriod (now : Instant) (year : Option Int)
    (period : Option Nat) : ChecksClient (requiredPeriod now year period) := by
  cases year with
  | none => exact checksClient_error nofun
  | some year =>
    cases period with
    | none => exact checksClient_error nofun
    | some period => exact FiscalPeriod.checksClient_make _ _ _

/-! ## Inquiries -/

/-- The last monthly window that has closed names a month, if there is one: its number is one of
eight bits. -/
def ClosedPeriods.NamesMonth (closed : ClosedPeriods) : Prop :=
  ∀ window, closed.monthly = some window → 0 ≤ window.period ∧ window.period ≤ uint8Max

/-- The answer is one that a service can go on from. -/
def Answered.Fair : Answered → Prop
  | ⟨.closedPeriods _, closed⟩ => closed.NamesMonth
  | _ => True

/-- The one answer that no service can go on from is a window that names no month. -/
theorem Answered.exists_of_not_fair {a : Answered} (h : ¬ a.Fair) :
    ∃ now closed window, a = ⟨.closedPeriods now, closed⟩ ∧ closed.monthly = some window ∧
      ¬ (0 ≤ window.period ∧ window.period ≤ uint8Max) := by
  obtain ⟨q, answer⟩ := a
  cases q with
  | closedPeriods now =>
    simp only [Fair, ClosedPeriods.NamesMonth, Classical.not_forall] at h
    obtain ⟨window, hwindow, hperiod⟩ := h
    exact ⟨now, answer, window, rfl, hwindow, hperiod⟩
  | _ => exact absurd trivial h

namespace Inquiry

/-- As long as it is answered fairly, the inquiry refuses nothing but what is the client's fault. -/
def RefusesClient {α : Type} : Inquiry α → Prop
  | .done _ => True
  | .refuse why => why.OfClient
  | .ask q next => ∀ answer, Answered.Fair ⟨q, answer⟩ → RefusesClient (next answer)

variable {α β : Type}

@[simp] theorem refusesClient_done (a : α) : (Inquiry.done a).RefusesClient := trivial

/-- A refusal of anything but a window. -/
theorem refusesClient_refuse {why : Refusal} (h : ∀ period, why ≠ .window period) :
    (refuse why : Inquiry α).RefusesClient :=
  Refusal.ofClient_iff.mpr h

@[simp] theorem refusesClient_put (q : Question) : (put q).RefusesClient := fun _ _ => trivial

/-- An inquiry that begins with a question goes on from fair answers. -/
theorem refusesClient_put_bind {q : Question} {f : q.Answer → Inquiry α}
    (h : ∀ answer, Answered.Fair ⟨q, answer⟩ → (f answer).RefusesClient) :
    ((put q).bind f).RefusesClient :=
  h

theorem refusesClient_ofExcept {e : Except Refusal α} (h : ChecksClient e) :
    (ofExcept e).RefusesClient := by
  cases e with
  | ok a => trivial
  | error why => exact h why rfl

theorem RefusesClient.bind {x : Inquiry α} {f : α → Inquiry β} (hx : x.RefusesClient)
    (hf : ∀ a, (f a).RefusesClient) : (x.bind f).RefusesClient := by
  induction x with
  | done a => exact hf a
  | refuse why => exact hx
  | ask q next ih => exact fun answer hfair => ih answer (hx answer hfair)

/-- Work on the result refuses nothing. -/
theorem RefusesClient.map {x : Inquiry α} (hx : x.RefusesClient) (f : α → β) :
    (f <$> x).RefusesClient :=
  hx.bind fun _ => trivial

/-- The same inquiry for each element of a list. -/
theorem RefusesClient.mapM {f : α → Inquiry β} (hf : ∀ a, (f a).RefusesClient) (xs : List α) :
    (xs.mapM f).RefusesClient := by
  -- By induction on the list, whatever results have been gathered already.
  have hloop (done : List β) : (List.mapM.loop f xs done).RefusesClient := by
    induction xs generalizing done with
    | nil => trivial
    | cons x xs ih => exact (hf x).bind fun b => ih (b :: done)
  exact hloop []

/-- A run that ends in a refusal blames the client, or was given an answer that it could not go on
from. -/
theorem RefusesClient.of_run {σ : Type} {b : Backend σ} {x : Inquiry α} (hx : x.RefusesClient)
    {s : σ} {why : Refusal} (h : (x.run b s).result = .error (.refused why)) :
    why.OfClient ∨ ∃ a ∈ x.transcript b s, ¬ Answered.Fair a := by
  -- Down the branch that the run takes, up to the first answer that is not fair.
  induction x generalizing s with
  | done a => simp at h
  | refuse why' =>
    obtain rfl : why' = why := by simpa using h
    exact .inl hx
  | ask q next ih =>
    simp only [run] at h
    split at h
    · next answer s' hanswer =>
      rw [transcript_ask_of_ok hanswer]
      by_cases hfair : Answered.Fair ⟨q, answer⟩
      · refine (ih answer (hx answer hfair) h).imp_right ?_
        rintro ⟨a, ha, hunfair⟩
        exact ⟨a, List.mem_cons_of_mem _ ha, hunfair⟩
      · exact .inr ⟨_, List.mem_cons_self, hfair⟩
    · cases h

end Inquiry

/-! ## Services -/

open Inquiry

namespace Overview

theorem refusesClient_totalsOf (now : Instant) (id : RecipientId) (year : YearFilter)
    (grouping : Grouping) : (totalsOf now id year grouping).RefusesClient :=
  (refusesClient_ofExcept (TransactionFilters.checksClient_forRecipient _ _ _)).bind fun _ =>
    refusesClient_put _

theorem refusesClient_entryOf (hash : Uuid) : (entryOf hash).RefusesClient := by
  refine refusesClient_put_bind fun entry _ => ?_
  cases entry with
  | none => exact refusesClient_refuse nofun
  | some entry =>
    dsimp only
    split
    · exact refusesClient_done _
    · exact refusesClient_refuse nofun

theorem refusesClient_parentsOf (id : RecipientId) (raw : String) (entry : DirectoryEntry)
    (uei : Option String) : (parentsOf id raw entry uei).RefusesClient := by
  rw [parentsOf]
  cases id.level with
  | recipient => exact refusesClient_done _
  | parent => exact refusesClient_done _
  | child =>
    refine (refusesClient_put _).bind fun affiliations => ?_
    refine RefusesClient.bind (RefusesClient.mapM (fun duns => ?_) _) fun found => ?_
    · exact (refusesClient_put _).bind fun _ => refusesClient_done _
    · dsimp only
      split
      · exact refusesClient_done _
      · exact (refusesClient_put _).bind fun _ => refusesClient_done _

theorem refusesClient_locationOf (raw : Location) : (locationOf raw).RefusesClient := by
  rw [locationOf]
  split
  · exact refusesClient_done _
  · exact (refusesClient_put _).bind fun _ => refusesClient_done _

theorem refusesClient_businessTypesOf (entry : DirectoryEntry) :
    (businessTypesOf entry).RefusesClient := by
  have hregistered : (categoriesByRegistration entry).RefusesClient := by
    rw [categoriesByRegistration]
    split
    · exact (refusesClient_put _).bind fun _ => refusesClient_done _
    · exact refusesClient_done _
  rw [businessTypesOf]
  split
  · exact refusesClient_done _
  · exact hregistered.bind fun _ => (refusesClient_put _).bind fun _ => refusesClient_done _

theorem refusesClient_ask (now : Instant) (raw : String) (year : Option String) :
    (ask now raw year).RefusesClient := by
  refine (refusesClient_ofExcept (YearFilter.checksClient_parse year)).bind fun year => ?_
  refine (refusesClient_ofExcept (RecipientId.checksClient_parse raw)).bind fun id => ?_
  refine (refusesClient_put _).bind fun known => ?_
  split
  · exact refusesClient_refuse nofun
  · refine (refusesClient_entryOf _).bind fun entry => (refusesClient_put _).bind fun ueis => ?_
    refine (refusesClient_parentsOf _ _ _ _).bind fun parents => ?_
    refine (refusesClient_locationOf _).bind fun location => ?_
    exact (refusesClient_businessTypesOf _).bind fun _ =>
      (refusesClient_totalsOf _ _ _ _).bind fun _ => refusesClient_done _

end Overview

namespace Children

theorem refusesClient_withoutTotals (duns : String) (parent : RecipientId)
    (rows : List ChildRow) : (withoutTotals duns parent rows).RefusesClient := by
  refine refusesClient_put_bind fun affiliations _ => ?_
  cases affiliations with
  | none => exact refusesClient_refuse nofun
  | some affiliations =>
    dsimp only
    split
    · exact refusesClient_done _
    · exact (refusesClient_put _).bind fun _ => refusesClient_done _

theorem refusesClient_withUeis (rows : List ChildRow) : (withUeis rows).RefusesClient := by
  rw [withUeis]
  split
  · exact refusesClient_done _
  · exact (refusesClient_put _).bind fun _ => refusesClient_done _

theorem refusesClient_withStates (rows : List ChildRow) : (withStates rows).RefusesClient := by
  rw [withStates]
  split
  · exact refusesClient_done _
  · exact (refusesClient_put _).bind fun _ => refusesClient_done _

theorem refusesClient_ask (now : Instant) (duns : String) (year : Option String) :
    (ask now duns year).RefusesClient := by
  refine (refusesClient_ofExcept (YearFilter.checksClient_parse year)).bind fun year => ?_
  refine refusesClient_put_bind fun entry _ => ?_
  cases entry with
  | none => exact refusesClient_refuse nofun
  | some entry =>
    -- The window of a year can be refused here, after the first question.
    refine (Overview.refusesClient_totalsOf _ _ _ _).bind fun totals => ?_
    refine (refusesClient_withUeis _).bind fun rows => ?_
    dsimp only
    split
    · exact refusesClient_withStates _
    · exact (refusesClient_withoutTotals _ _ _).bind fun _ => refusesClient_withStates _

end Children

namespace Reporting

theorem refusesClient_agency (raw : String) : (agency raw).RefusesClient := by
  rw [agency]
  split
  · exact refusesClient_refuse nofun
  · refine refusesClient_put_bind fun found _ => ?_
    cases found with
    | none => exact refusesClient_refuse nofun
    | some _ => exact refusesClient_done _

/-- A window that names a month is the period of it. -/
theorem refusesClient_latestClosed (now : Instant) : (latestClosed now).RefusesClient := by
  refine refusesClient_put_bind fun closed hfair => ?_
  split
  · exact refusesClient_done _
  · next window hwindow =>
    obtain ⟨hleast, hmost⟩ := hfair window hwindow
    rw [if_pos]
    · exact refusesClient_done _
    · rw [uint8Max] at hmost
      simp only [Bool.and_eq_true, decide_eq_true_eq]
      omega

theorem refusesClient_overviewPeriod (now : Instant) (year : Option Int) (period : Option Nat) :
    (overviewPeriod now year period).RefusesClient := by
  cases year with
  | none =>
    cases period with
    | none => exact refusesClient_latestClosed now
    | some period => exact refusesClient_refuse nofun
  | some year =>
    cases period with
    | none => exact refusesClient_refuse nofun
    | some period =>
      exact (refusesClient_ofExcept (FiscalPeriod.checksClient_make _ _ _)).bind fun _ =>
        refusesClient_done _

theorem refusesClient_agencies (now : Instant) (files : Url) (year : Option Int)
    (period : Option Nat) (filter : Option String) (request : ListingRequest) :
    (agencies now files year period filter request).RefusesClient := by
  refine (refusesClient_ofExcept (Listing.checksClient_parse _ _)).bind fun listing => ?_
  refine (refusesClient_overviewPeriod _ _ _).bind fun period => ?_
  cases period with
  | none => exact refusesClient_done _
  | some period => exact (refusesClient_put _).bind fun _ => refusesClient_done _

theorem refusesClient_periods (files : Url) (code : String) (request : ListingRequest) :
    (periods files code request).RefusesClient :=
  (refusesClient_ofExcept (Listing.checksClient_parse _ _)).bind fun _ =>
    (refusesClient_agency code).bind fun _ => (refusesClient_put _).bind fun _ =>
      refusesClient_done _

theorem refusesClient_differences (now : Instant) (code : String) (year : Option Int)
    (period : Option Nat) (request : ListingRequest) :
    (differences now code year period request).RefusesClient :=
  (refusesClient_ofExcept (Listing.checksClient_parse _ _)).bind fun _ =>
    (refusesClient_ofExcept (checksClient_requiredPeriod _ _ _)).bind fun _ =>
      (refusesClient_agency code).bind fun _ => (refusesClient_put _).bind fun _ =>
        refusesClient_done _

theorem refusesClient_publications (now : Instant) (code : String) (year : Int) (period : Nat)
    (request : ListingRequest) : (publications now code year period request).RefusesClient :=
  (refusesClient_ofExcept (Listing.checksClient_parse _ _)).bind fun _ =>
    (refusesClient_ofExcept (FiscalPeriod.checksClient_make _ _ _)).bind fun _ =>
      (refusesClient_agency code).bind fun _ => (refusesClient_put _).bind fun _ =>
        refusesClient_done _

end Reporting

theorem Disaster.refusesClient_countAccounts (now : Instant) (codes : Option (List String)) :
    (countAccounts now codes).RefusesClient := by
  have hcodes : (checkedCodes codes).RefusesClient := by
    match codes with
    | none => exact refusesClient_refuse nofun
    | some [] => exact refusesClient_refuse nofun
    | some (code :: codes) =>
      refine (refusesClient_put _).bind fun known => ?_
      split
      · exact refusesClient_done _
      · exact refusesClient_refuse nofun
  refine hcodes.bind fun codes => (refusesClient_put _).bind fun closed => ?_
  split
  · exact refusesClient_done _
  · exact refusesClient_put _

theorem DownloadCount.refusesClient_ask (limit : Nat) (filters : TransactionFilters) :
    (ask limit filters).RefusesClient := by
  rw [ask]
  split
  · exact refusesClient_refuse nofun
  · exact (refusesClient_put _).bind fun _ => refusesClient_done _

/-- As long as the stores name months, a call refuses nothing but what is the client's fault. -/
theorem Call.refusesClient_inquiry (c : Circumstances) (call : Call) :
    (call.inquiry c).RefusesClient := by
  cases call with
  | overview id year => exact (Overview.refusesClient_ask _ _ _).map _
  | children duns year => exact (Children.refusesClient_ask _ _ _).bind fun _ => trivial
  | agencies year period filter listing =>
    exact (Reporting.refusesClient_agencies _ _ _ _ _ _).map _
  | periods code listing => exact (Reporting.refusesClient_periods _ _ _).map _
  | differences code year period listing =>
    exact (Reporting.refusesClient_differences _ _ _ _ _).map _
  | publications code year period listing =>
    exact (Reporting.refusesClient_publications _ _ _ _ _).map _
  | downloadCount filters => exact (DownloadCount.refusesClient_ask _ _).map _
  | accountCount codes => exact (Disaster.refusesClient_countAccounts _ _).map _

end Outlays

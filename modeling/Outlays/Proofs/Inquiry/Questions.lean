import Outlays.Call
import Outlays.Proofs.Inquiry.Transcript

/-!
# Which questions an inquiry puts

Some facts about a run need no more than the kind of questions that an inquiry can put, whatever it
is answered. Every service looks at data only: the response cache belongs to the serving of
requests, and no answer to a call is made out of it or put into it.

## Main definitions

* `Inquiry.Asks` — all questions of an inquiry are of a kind
* `Question.OfData` — the question is not one to the response cache
* `Question.About` — which step of an overview puts a question

## Main results

* `Inquiry.Asks.forall_mem_asked` — a run puts questions of the kind that its inquiry puts
* `Inquiry.Asks.invariant_run` — a run keeps up what the answers to such questions keep up
* `Call.asks_inquiry` — a call puts questions of data only
-/

namespace Outlays

namespace Inquiry

/-- All questions that the inquiry can come to are of a kind, whatever it is answered. -/
def Asks {α : Type} (P : Question → Prop) : Inquiry α → Prop
  | .done _ => True
  | .refuse _ => True
  | .ask q next => P q ∧ ∀ answer, Asks P (next answer)

variable {α β : Type} {P : Question → Prop}

@[simp] theorem asks_done (a : α) : (Inquiry.done a).Asks P := trivial

theorem asks_put {q : Question} (h : P q) : (put q).Asks P := ⟨h, fun _ => trivial⟩

@[simp] theorem asks_ofExcept (e : Except Refusal α) : (ofExcept e).Asks P := by
  cases e <;> trivial

theorem Asks.bind {x : Inquiry α} {f : α → Inquiry β} (hx : x.Asks P) (hf : ∀ a, (f a).Asks P) :
    (x.bind f).Asks P := by
  induction x with
  | done a => exact hf a
  | refuse why => trivial
  | ask q next ih => exact ⟨hx.1, fun answer => ih answer (hx.2 answer)⟩

/-- Work on the result asks nothing. -/
theorem Asks.map {x : Inquiry α} (hx : x.Asks P) (f : α → β) : (f <$> x).Asks P :=
  hx.bind fun _ => trivial

/-- The same inquiry for each element of a list. -/
theorem Asks.mapM {f : α → Inquiry β} (hf : ∀ a, (f a).Asks P) (xs : List α) :
    (xs.mapM f).Asks P := by
  -- By induction on the list, whatever results have been gathered already.
  have hloop (done : List β) : (List.mapM.loop f xs done).Asks P := by
    induction xs generalizing done with
    | nil => trivial
    | cons x xs ih => exact (hf x).bind fun b => ih (b :: done)
  exact hloop []

theorem Asks.mono {P' : Question → Prop} {x : Inquiry α} (hx : x.Asks P) (h : ∀ q, P q → P' q) :
    x.Asks P' := by
  induction x with
  | done a => trivial
  | refuse why => trivial
  | ask q next ih => exact ⟨h q hx.1, fun answer => ih answer (hx.2 answer)⟩

/-- No other questions are answered in a log that leads the inquiry anywhere. -/
theorem Asks.forall_mem_of_leads {x : Inquiry α} {log : List Answered} {r : Except Refusal α}
    (hx : x.Asks P) (h : x.Leads log r) : ∀ a ∈ log, P a.1 := by
  induction h with
  | done c => exact fun a ha => absurd ha List.not_mem_nil
  | refuse why => exact fun a ha => absurd ha List.not_mem_nil
  | ask rest ih =>
    intro a ha
    rcases List.mem_cons.mp ha with rfl | ha
    · exact hx.1
    · exact ih (hx.2 _) a ha

/-- A run puts no question but those that the inquiry can come to. -/
theorem Asks.forall_mem_asked {σ : Type} {b : Backend σ} {s : σ} {x : Inquiry α}
    (hx : x.Asks P) : ∀ q ∈ (x.run b s).asked, P q := by
  induction x generalizing s with
  | done a => exact fun q hq => absurd hq List.not_mem_nil
  | refuse why => exact fun q hq => absurd hq List.not_mem_nil
  | ask q next ih =>
    intro other hother
    simp only [run] at hother
    split at hother
    · next answer s' _ =>
      rcases List.mem_cons.mp hother with rfl | hrest
      · exact hx.1
      · exact ih answer (hx.2 answer) other hrest
    · rw [List.mem_singleton.mp hother]
      exact hx.1

/-- A run keeps up what the stores keep up when they are asked such questions, also where one of
them fails. -/
theorem Asks.invariant_run {σ : Type} {b : Backend σ} {I : σ → Prop} {x : Inquiry α} (hx : x.Asks P)
    (step : ∀ q s, P q → I s → I (b.answer q s).2) {s : σ} (hs : I s) : I (x.run b s).state := by
  induction x generalizing s with
  | done a => exact hs
  | refuse why => exact hs
  | ask q next ih =>
    have hnext := step q s hx.1 hs
    rw [run]
    cases hanswer : b.answer q s with
    | mk answer s' =>
      rw [hanswer] at hnext
      cases answer with
      | ok answer => exact ih answer (hx.2 answer) hnext
      | error how => exact hnext

end Inquiry

/-- The question is one of data, and not one to the response cache. -/
def Question.OfData : Question → Prop
  | .cacheGet _ => False
  | .cachePut _ _ => False
  | _ => True

/-- What the steps of an overview put questions about. -/
inductive Overview.Topic where
  | parents
  | location
  | types

/-- The question is about the topic of a step; UEIs can be those of parents. -/
def Question.About : Overview.Topic → Question → Prop
  | .parents, .affiliations _ => True
  | .parents, .findEntryByDuns _ => True
  | .parents, .profileUeis _ => True
  | .location, .countryName _ => True
  | .types, .latestRegistration _ _ => True
  | .types, .latestCategories _ _ => True
  | _, _ => False

theorem Question.About.eq {topic topic' : Overview.Topic} {q : Question} (h : q.About topic)
    (h' : q.About topic') : topic = topic' := by
  cases q <;> cases topic <;> cases topic' <;> first | rfl | exact h.elim | exact h'.elim

theorem Question.About.ofData {topic : Overview.Topic} {q : Question} (h : q.About topic) :
    q.OfData := by
  cases q with
  | cacheGet key => cases topic <;> exact h.elim
  | cachePut key body => cases topic <;> exact h.elim
  | _ => trivial

/-! ## The questions of the services -/

open Inquiry

namespace Overview

theorem asks_totalsOf (now : Instant) (id : RecipientId) (year : YearFilter)
    (grouping : Grouping) : (totalsOf now id year grouping).Asks Question.OfData :=
  (asks_ofExcept _).bind fun _ => asks_put trivial

theorem asks_entryOf (hash : Uuid) : (entryOf hash).Asks Question.OfData := by
  refine (asks_put trivial).bind fun entry => ?_
  cases entry with
  | none => trivial
  | some entry =>
    dsimp only
    split <;> trivial

theorem asks_parentsOf (id : RecipientId) (raw : String) (entry : DirectoryEntry)
    (uei : Option String) :
    (parentsOf id raw entry uei).Asks (Question.About .parents) := by
  rw [parentsOf]
  cases id.level with
  | recipient => trivial
  | parent => trivial
  | child =>
    refine (asks_put trivial).bind fun affiliations => ?_
    refine Asks.bind (Asks.mapM (fun duns => ?_) _) fun found => ?_
    · exact (asks_put trivial).bind fun _ => asks_done _
    · dsimp only
      split
      · trivial
      · exact (asks_put trivial).bind fun _ => asks_done _

theorem asks_locationOf (raw : Location) :
    (locationOf raw).Asks (Question.About .location) := by
  rw [locationOf]
  split
  · trivial
  · exact (asks_put trivial).bind fun _ => trivial

theorem asks_businessTypesOf (entry : DirectoryEntry) :
    (businessTypesOf entry).Asks (Question.About .types) := by
  have hregistered :
      (categoriesByRegistration entry).Asks (Question.About .types) := by
    rw [categoriesByRegistration]
    split
    · exact (asks_put trivial).bind fun _ => trivial
    · trivial
  rw [businessTypesOf]
  split
  · trivial
  · exact hregistered.bind fun _ => (asks_put trivial).bind fun _ => trivial

theorem asks_ask (now : Instant) (raw : String) (year : Option String) :
    (ask now raw year).Asks Question.OfData := by
  refine (asks_ofExcept _).bind fun year => (asks_ofExcept _).bind fun id => ?_
  refine (asks_put trivial).bind fun known => ?_
  split
  · trivial
  · refine (asks_entryOf _).bind fun entry => (asks_put trivial).bind fun ueis => ?_
    refine ((asks_parentsOf _ _ _ _).mono fun _ => Question.About.ofData).bind fun parents => ?_
    refine ((asks_locationOf _).mono fun _ => Question.About.ofData).bind fun location => ?_
    refine ((asks_businessTypesOf _).mono fun _ => Question.About.ofData).bind fun types => ?_
    exact (asks_totalsOf _ _ _ _).bind fun _ => trivial

end Overview

namespace Children

theorem asks_withoutTotals (duns : String) (parent : RecipientId) (rows : List ChildRow) :
    (withoutTotals duns parent rows).Asks Question.OfData := by
  refine (asks_put trivial).bind fun affiliations => ?_
  cases affiliations with
  | none => trivial
  | some affiliations =>
    dsimp only
    split
    · trivial
    · exact (asks_put trivial).bind fun _ => trivial

theorem asks_withUeis (rows : List ChildRow) : (withUeis rows).Asks Question.OfData := by
  rw [withUeis]
  split
  · trivial
  · exact (asks_put trivial).bind fun _ => trivial

theorem asks_withStates (rows : List ChildRow) : (withStates rows).Asks Question.OfData := by
  rw [withStates]
  split
  · trivial
  · exact (asks_put trivial).bind fun _ => trivial

theorem asks_ask (now : Instant) (duns : String) (year : Option String) :
    (ask now duns year).Asks Question.OfData := by
  refine (asks_ofExcept _).bind fun year => (asks_put trivial).bind fun entry => ?_
  cases entry with
  | none => trivial
  | some entry =>
    refine (Overview.asks_totalsOf _ _ _ _).bind fun totals => ?_
    refine (asks_withUeis _).bind fun rows => ?_
    dsimp only
    split
    · exact asks_withStates _
    · exact (asks_withoutTotals _ _ _).bind fun _ => asks_withStates _

end Children

namespace Reporting

theorem asks_agency {P : Question → Prop} (h : ∀ code, P (.findAgency code)) (raw : String) :
    (agency raw).Asks P := by
  rw [agency]
  split
  · trivial
  · refine (asks_put (h _)).bind fun found => ?_
    cases found <;> trivial

theorem asks_overviewPeriod (now : Instant) (year : Option Int) (period : Option Nat) :
    (overviewPeriod now year period).Asks Question.OfData := by
  have hlatest : (latestClosed now).Asks Question.OfData := by
    refine (asks_put trivial).bind fun closed => ?_
    split
    · trivial
    · split <;> trivial
  cases year with
  | none =>
    cases period with
    | none => exact hlatest
    | some period => trivial
  | some year =>
    cases period with
    | none => trivial
    | some period => exact (asks_ofExcept _).bind fun _ => trivial

theorem asks_agencies (now : Instant) (files : Url) (year : Option Int) (period : Option Nat)
    (filter : Option String) (request : ListingRequest) :
    (agencies now files year period filter request).Asks Question.OfData := by
  refine (asks_ofExcept _).bind fun listing => (asks_overviewPeriod _ _ _).bind fun period => ?_
  cases period with
  | none => trivial
  | some period => exact (asks_put trivial).bind fun _ => trivial

theorem asks_periods (files : Url) (code : String) (request : ListingRequest) :
    (periods files code request).Asks Question.OfData :=
  (asks_ofExcept _).bind fun _ => (asks_agency (fun _ => trivial) code).bind fun _ =>
    (asks_put trivial).bind fun _ => trivial

theorem asks_differences (now : Instant) (code : String) (year : Option Int) (period : Option Nat)
    (request : ListingRequest) :
    (differences now code year period request).Asks Question.OfData :=
  (asks_ofExcept _).bind fun _ => (asks_ofExcept _).bind fun _ =>
    (asks_agency (fun _ => trivial) code).bind fun _ => (asks_put trivial).bind fun _ => trivial

theorem asks_publications (now : Instant) (code : String) (year : Int) (period : Nat)
    (request : ListingRequest) :
    (publications now code year period request).Asks Question.OfData :=
  (asks_ofExcept _).bind fun _ => (asks_ofExcept _).bind fun _ =>
    (asks_agency (fun _ => trivial) code).bind fun _ => (asks_put trivial).bind fun _ => trivial

end Reporting

theorem Disaster.asks_countAccounts (now : Instant) (codes : Option (List String)) :
    (countAccounts now codes).Asks Question.OfData := by
  have hcodes : (checkedCodes codes).Asks Question.OfData := by
    match codes with
    | none => trivial
    | some [] => trivial
    | some (code :: codes) =>
      refine (asks_put trivial).bind fun known => ?_
      split <;> trivial
  refine hcodes.bind fun codes => (asks_put trivial).bind fun closed => ?_
  split
  · trivial
  · exact asks_put trivial

theorem DownloadCount.asks_ask (limit : Nat) (filters : TransactionFilters) :
    (ask limit filters).Asks Question.OfData := by
  rw [ask]
  split
  · trivial
  · exact (asks_put trivial).bind fun _ => trivial

/-- A call puts questions of data only. -/
theorem Call.asks_inquiry (c : Circumstances) (call : Call) :
    (call.inquiry c).Asks Question.OfData := by
  cases call with
  | overview id year => exact (Overview.asks_ask _ _ _).map _
  | children duns year => exact (Children.asks_ask _ _ _).bind fun _ => trivial
  | agencies year period filter listing => exact (Reporting.asks_agencies _ _ _ _ _ _).map _
  | periods code listing => exact (Reporting.asks_periods _ _ _).map _
  | differences code year period listing => exact (Reporting.asks_differences _ _ _ _ _).map _
  | publications code year period listing => exact (Reporting.asks_publications _ _ _ _ _).map _
  | downloadCount filters => exact (DownloadCount.asks_ask _ _).map _
  | accountCount codes => exact (Disaster.asks_countAccounts _ _).map _

end Outlays

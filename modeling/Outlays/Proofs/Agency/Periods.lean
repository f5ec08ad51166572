import Outlays.Proofs.Agency.Listings
import Outlays.Proofs.Inquiry.Questions

/-!
# The periods that the reports are asked for

A fiscal period is one of the calendar of reports: its year is not before the first year with
reports and not after the current one, and its number is that of the second to the twelfth month. A
period that a client names is checked against the calendar before any store is asked. The period of
the last monthly window that has closed is not: whatever year and month the schedule of windows
names, the reports are asked for it.

So the reports are asked for periods of the calendar only if the schedule names no others, and a
schedule whose last window is that of the first month leads to a question about a first month.

## Main definitions

* `FiscalPeriod.Valid` — the period is one of the calendar of reports
* `Question.period?` — the period that a question to the reports names
* `ClosedPeriods.latest?` — the period of the last monthly window

## Main results

* `FiscalPeriod.make_eq_ok_iff` — the check against the calendar
* `Subject.valid_or_latest` — where the periods come from
* `Subject.valid_periods_iff` — exactly when all of them are in the calendar
-/

namespace Outlays

/-! ## Periods -/

namespace FiscalPeriod

/-- The period is one of the calendar of reports, seen from today. -/
structure Valid (today : Date) (p : FiscalPeriod) : Prop where
  year : firstReportingYear ≤ p.year ∧ p.year ≤ fiscalYearOf today
  period : 2 ≤ p.period ∧ p.period ≤ 12

theorem valid_iff {today : Date} {p : FiscalPeriod} :
    p.Valid today ↔
      (firstReportingYear ≤ p.year ∧ p.year ≤ fiscalYearOf today) ∧ 2 ≤ p.period ∧ p.period ≤ 12 :=
  ⟨fun h => ⟨h.year, h.period⟩, fun h => ⟨h.1, h.2⟩⟩

instance (today : Date) (p : FiscalPeriod) : Decidable (p.Valid today) :=
  decidable_of_iff _ valid_iff.symm

/-- A year and a number make a period exactly where they are in the calendar. -/
theorem make_eq_ok_iff {year : Int} {period : Nat} {today : Date} {p : FiscalPeriod} :
    make year period today = .ok p ↔ p = ⟨year, period⟩ ∧ p.Valid today := by
  rw [valid_iff]
  simp only [make, Bool.not_eq_true', Bool.and_eq_false_iff, decide_eq_false_iff_not]
  constructor
  · intro h
    split at h
    · cases h
    · split at h
      · cases h
      · obtain rfl := Except.ok.inj h
        refine ⟨rfl, ?_, ?_⟩ <;> dsimp only <;> omega
  · rintro ⟨rfl, hyear, hperiod⟩
    dsimp only at hyear hperiod
    rw [if_neg (by omega), if_neg (by omega)]

end FiscalPeriod

/-- The period that a question to the reports names. -/
def Question.period? : Question → Option FiscalPeriod
  | .agenciesForPeriod period => some period
  | .accountDifferences _ period => some period
  | .publications _ period => some period
  | _ => none

/-- Whatever period the question names is in the calendar. -/
def Question.InCalendar (today : Date) (q : Question) : Prop :=
  ∀ p, q.period? = some p → p.Valid today

theorem Question.inCalendar_of_none {today : Date} {q : Question} (h : q.period? = none) :
    q.InCalendar today := by
  intro p hp
  rw [h] at hp
  cases hp

theorem Question.inCalendar_of_valid {today : Date} {q : Question} {p : FiscalPeriod}
    (h : q.period? = some p) (hp : p.Valid today) : q.InCalendar today := by
  intro p' hp'
  obtain rfl := Option.some.inj (h.symm.trans hp')
  exact hp

/-- The period of the last monthly window that has closed, if its number has a place in a period. -/
def ClosedPeriods.latest? (closed : ClosedPeriods) : Option FiscalPeriod :=
  closed.monthly.bind fun window =>
    if 0 ≤ window.period ∧ window.period < 256 then some ⟨window.year, window.period.toNat⟩
    else none

/-! ## Listings -/

namespace Reporting

/-- What becomes of the last windows that have closed: the period of the monthly one, nothing where
there is none, and a refusal where its number has no place in a period. -/
def periodOf (closed : ClosedPeriods) : Inquiry (Option FiscalPeriod) :=
  match closed.monthly, closed.latest? with
  | none, _ => .done none
  | some _, some period => .done (some period)
  | some window, none => .refuse (.window window.period)

/-- The last monthly window that has closed is taken for a period, whatever month it names. -/
theorem latestClosed_eq (now : Instant) :
    latestClosed now = .ask (.closedPeriods now) periodOf := by
  refine congrArg (Inquiry.ask (.closedPeriods now)) (funext fun closed => ?_)
  rw [Inquiry.done_bind, periodOf, ClosedPeriods.latest?]
  cases closed.monthly with
  | none => rfl
  | some window =>
    by_cases hfits : 0 ≤ window.period ∧ window.period < 256
    · simp [hfits]
    · rw [Option.bind_some, if_neg hfits]
      simp [hfits]

theorem periodOf_of_some {closed : ClosedPeriods} {p : FiscalPeriod} (h : closed.latest? = some p) :
    periodOf closed = .done (some p) := by
  rw [periodOf, h]
  cases hmonthly : closed.monthly with
  | none =>
    rw [ClosedPeriods.latest?, hmonthly] at h
    cases h
  | some window => rfl

theorem periodOf_of_none {closed : ClosedPeriods} (h : closed.latest? = none) :
    periodOf closed = .done none ∨ ∃ why, periodOf closed = .refuse why := by
  rw [periodOf, h]
  cases closed.monthly with
  | none => exact .inl rfl
  | some window => exact .inr ⟨_, rfl⟩

end Reporting

namespace Subject

open Inquiry

variable {σ : Type} {b : Backend σ} {c : Circumstances} {s : σ} {p : FiscalPeriod}

/-- Where the client names no period, the reports are asked for the period of the last window that
the stores answer, and for no other. -/
theorem period_asked_latest_iff (filter : Option String) :
    (∃ q ∈ ((rows c (agencies none none filter)).run b s).asked, q.period? = some p) ↔
      ∃ closed, ⟨.closedPeriods c.now, closed⟩ ∈
          (rows c (agencies none none filter)).transcript b s ∧ closed.latest? = some p := by
  simp only [rows, Reporting.overviewPeriod, Reporting.latestClosed_eq, Inquiry.bind]
  cases hanswer : b.answer (.closedPeriods c.now) s with
  | mk answer s' =>
    cases answer with
    | error how => simp [run, transcript, hanswer, Question.period?]
    | ok closed =>
      rw [run_ask_of_ok hanswer, transcript_ask_of_ok hanswer]
      cases hlatest : closed.latest? with
      | none =>
        -- There is no period to ask about, and nothing is asked.
        obtain hnext | ⟨why, hnext⟩ := Reporting.periodOf_of_none hlatest
        · simp only [hnext, done_bind, run_done, transcript]
          simp [Question.period?, hlatest]
        · simp only [hnext, refuse_bind, run_refuse, transcript]
          simp [Question.period?, hlatest]
      | some period =>
        rw [Reporting.periodOf_of_some hlatest, done_bind, asked_bind_done, asked_put,
          transcript_bind_done]
        constructor
        · rintro ⟨q, hq, hperiod⟩
          obtain rfl | hq := List.mem_cons.mp hq
          · cases hperiod
          · obtain rfl := List.mem_singleton.mp hq
            exact ⟨closed, List.mem_cons_self, hlatest.trans hperiod⟩
        · rintro ⟨other, hother, hp⟩
          obtain heq | hother := List.mem_cons.mp hother
          · cases heq
            obtain rfl := Option.some.inj (hlatest.symm.trans hp)
            exact ⟨_, List.mem_cons_of_mem _ List.mem_cons_self, rfl⟩
          · cases fst_of_mem_transcript_put b hother

/-- A client that names a period has it checked, and the reports are asked for no other. -/
theorem asks_inCalendar (c : Circumstances) {t : Subject}
    (h : ∀ filter, t ≠ agencies none none filter) :
    (rows c t).Asks (Question.InCalendar c.now.date) := by
  have hagency (raw : String) : (Reporting.agency raw).Asks (Question.InCalendar c.now.date) :=
    Reporting.asks_agency (fun _ => Question.inCalendar_of_none rfl) raw
  cases t with
  | agencies year period filter =>
    cases year with
    | none =>
      cases period with
      | none => exact absurd rfl (h filter)
      | some n => trivial
    | some y =>
      cases period with
      | none => trivial
      | some n =>
        simp only [rows, Reporting.overviewPeriod, bind_eq_bind, pure_eq_done]
        cases hmake : FiscalPeriod.make y n c.now.date with
        | error why => trivial
        | ok p =>
          have hvalid := (FiscalPeriod.make_eq_ok_iff.mp hmake).2
          exact (asks_put (Question.inCalendar_of_valid rfl hvalid)).bind fun _ => trivial
  | periods raw =>
    exact (hagency raw).bind fun _ =>
      (asks_put (Question.inCalendar_of_none rfl)).bind fun _ => trivial
  | differences raw year period =>
    simp only [rows]
    cases hperiod : Reporting.requiredPeriod c.now year period with
    | error why => trivial
    | ok p =>
      obtain ⟨rfl, rfl⟩ := period_of_requiredPeriod hperiod
      have hvalid := (FiscalPeriod.make_eq_ok_iff.mp hperiod).2
      exact (hagency raw).bind fun _ => asks_put (Question.inCalendar_of_valid rfl hvalid)
  | publications raw year period =>
    simp only [rows]
    cases hmake : FiscalPeriod.make year period c.now.date with
    | error why => trivial
    | ok p =>
      have hvalid := (FiscalPeriod.make_eq_ok_iff.mp hmake).2
      exact (hagency raw).bind fun _ => asks_put (Question.inCalendar_of_valid rfl hvalid)

/-- A listing whose parameters are turned down asks nothing; any other asks for its rows. -/
theorem asked_call (t : Subject) (c : Circumstances) (r : ListingRequest) (s : σ) :
    ((((t.call r).inquiry c).run b s).asked = [] ∧ ((t.call r).inquiry c).transcript b s = []) ∨
      (((t.call r).inquiry c).run b s).asked = ((rows c t).run b s).asked ∧
        ((t.call r).inquiry c).transcript b s = (rows c t).transcript b s := by
  rw [inquiry_call_eq]
  cases Listing.parse t.columns r with
  | error why => exact .inl ⟨rfl, rfl⟩
  | ok l => exact .inr ⟨asked_bind_done b _ _ s, transcript_bind_done b _ _ s⟩

/-- A period that the reports are asked for is in the calendar, or it is that of the last monthly
window that has closed. -/
theorem valid_or_latest {t : Subject} {r : ListingRequest} {q : Question}
    (hq : q ∈ (((t.call r).inquiry c).run b s).asked) (hp : q.period? = some p) :
    p.Valid c.now.date ∨ ∃ filter closed, t = agencies none none filter ∧
      ⟨.closedPeriods c.now, closed⟩ ∈ ((t.call r).inquiry c).transcript b s ∧
      closed.latest? = some p := by
  obtain ⟨hasked, -⟩ | ⟨hasked, htranscript⟩ := asked_call (b := b) t c r s
  · rw [hasked] at hq
    cases hq
  rw [hasked] at hq
  rw [htranscript]
  by_cases hnamed : ∀ filter, t ≠ agencies none none filter
  · exact .inl ((asks_inCalendar c hnamed).forall_mem_asked q hq p hp)
  · obtain ⟨filter, rfl⟩ := not_forall_not.mp hnamed
    obtain ⟨closed, hmem, hlatest⟩ := (period_asked_latest_iff filter).mp ⟨q, hq, hp⟩
    exact .inr ⟨filter, closed, rfl, hmem, hlatest⟩

/-- All periods that a listing asks the reports for are in the calendar if and only if the last
monthly window that has closed is, where the listing takes its period from there. -/
theorem valid_periods_iff (t : Subject) (c : Circumstances) (b : Backend σ) (s : σ)
    (r : ListingRequest) :
    (∀ q ∈ (((t.call r).inquiry c).run b s).asked, ∀ p, q.period? = some p →
        p.Valid c.now.date) ↔
      ∀ filter closed p, t = agencies none none filter →
        ⟨.closedPeriods c.now, closed⟩ ∈ ((t.call r).inquiry c).transcript b s →
        closed.latest? = some p → p.Valid c.now.date := by
  constructor
  · rintro hvalid filter closed p rfl hmem hlatest
    obtain ⟨-, htranscript⟩ | ⟨hasked, htranscript⟩ :=
      asked_call (b := b) (agencies none none filter) c r s
    · rw [htranscript] at hmem
      cases hmem
    · rw [htranscript] at hmem
      rw [hasked] at hvalid
      obtain ⟨q, hq, hp⟩ := (period_asked_latest_iff filter).mpr ⟨closed, hmem, hlatest⟩
      exact hvalid q hq p hp
  · intro hlatest q hq p hp
    obtain hvalid | ⟨filter, closed, ht, hmem, hperiod⟩ := valid_or_latest hq hp
    · exact hvalid
    · exact hlatest filter closed p ht hmem hperiod

/-- Stores whose schedule closes with the first month of 2021. -/
def firstMonthClosed : Memory where
  stores := { Stores.sample with closed := { monthly := some ⟨2021, 1⟩ } }

/-- The reports are asked for the first month, which agencies report together with the second. -/
theorem not_valid_periods_firstMonthClosed :
    ∃ q ∈ ((((agencies none none none).call {}).inquiry .sample).run
        (Memory.backend {} fun _ => none) firstMonthClosed).asked,
      ∃ p, q.period? = some p ∧ ¬ p.Valid Circumstances.sample.now.date :=
  ⟨.agenciesForPeriod ⟨2021, 1⟩, by decide, _, rfl, by decide⟩

end Subject

end Outlays

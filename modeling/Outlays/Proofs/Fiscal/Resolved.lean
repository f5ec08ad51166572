import Outlays.Proofs.Fiscal.Windows
import Outlays.Proofs.Results

/-!
# The days that a year asks for

A client writes a year as a word or in digits, and is served the days of a window. In digits it may
be any year up to the last one of the calendar, and the window is made up of the days of that fiscal
year: the window of the next one begins on the day after. Without a year it is the twelve months up
to today. They begin on the same day of the year before, which a leap day does not have: its year
begins a day sooner.

## Main definitions

* `YearFilter.resolve` — the window that the text of a year asks for
* `Date.IsYearBefore` — a day and the same day of the year before

## Main results

* `YearFilter.exists_fiscalWindow?_iff` — which fiscal years have a window
* `YearFilter.resolve_numeral_eq_ok_iff` — a text of digits asks for the fiscal year it stands for
* `YearFilter.resolve_days` — what the text of a year asks for
-/

namespace Outlays

namespace Date

/-- The calendar has a day of each number that its month has. -/
theorem exists_ofParts?_iff {year : Int} {month day : ℕ} :
    (∃ d, ofParts? year month day = some d) ↔
      (calendarYears.1 ≤ year ∧ year ≤ calendarYears.2) ∧ (1 ≤ month ∧ month ≤ 12) ∧
        1 ≤ day ∧ day ≤ daysInMonth year month := by
  rw [ofParts?]
  split
  · next h => exact iff_of_true ⟨_, rfl⟩ h
  · next h => exact iff_of_false (by simp) h

/-- The same day one year before, where a leap day is followed by 28 February. -/
structure IsYearBefore (start today : Date) : Prop where
  year : start.year = today.year - 1
  month : start.month = today.month
  day : start.day = if today.month = 2 ∧ today.day = 29 then 28 else today.day

/-- No two years in a row have a leap day, and all other days come back every year. -/
theorem min_day_eq (d : Date) :
    min d.day (daysInMonth (d.year - 1) d.month) =
      if d.month = 2 ∧ d.day = 29 then 28 else d.day := by
  have hday := d.day_mem.2
  simp only [daysInMonth] at hday ⊢
  by_cases hfebruary : d.month = 2
  · simp only [hfebruary, if_true, true_and] at hday ⊢
    simp only [isLeapYear, Bool.and_eq_true, beq_iff_eq] at hday ⊢
    split at hday <;> split <;> split <;> omega
  · simp only [hfebruary, if_false, false_and] at hday ⊢
    exact Nat.min_eq_left hday

/-- Where the calendar reaches back, the year before has the day. -/
theorem yearBefore?_cases (today : Date) :
    (today.year = calendarYears.1 ∧ today.yearBefore? = none) ∨
      calendarYears.1 < today.year ∧ ∃ start, today.yearBefore? = some start ∧
        start.IsYearBefore today := by
  have hyear := today.year_mem
  by_cases hfirst : today.year = calendarYears.1
  · refine .inl ⟨hfirst, ?_⟩
    rw [yearBefore?, Option.eq_none_iff_forall_ne_some]
    intro d hd
    have hparts := (exists_ofParts?_iff.mp ⟨d, hd⟩).1.1
    omega
  · refine .inr ⟨by omega, ?_⟩
    have hday := today.day_mem
    have hleast : 1 ≤ daysInMonth (today.year - 1) today.month := by
      unfold daysInMonth
      split <;> split <;> omega
    obtain ⟨start, hstart⟩ : ∃ start, today.yearBefore? = some start :=
      exists_ofParts?_iff.mpr ⟨by omega, today.month_mem, by omega, Nat.min_le_right _ _⟩
    obtain ⟨hyear', hmonth, hday'⟩ := ofParts?_eq_some_iff.mp hstart
    exact ⟨start, hstart, hyear', hmonth, hday'.trans today.min_day_eq⟩

end Date

namespace YearFilter

/-- The calendar has the first and the last day of every fiscal year but those at its ends. -/
theorem exists_fiscalWindow?_iff {year : Int} :
    (∃ p, fiscalWindow? year = some p) ↔ calendarYears.1 < year ∧ year ≤ calendarYears.2 := by
  have hoctober : daysInMonth (year - 1) 10 = 31 := rfl
  have hseptember : daysInMonth year 9 = 30 := rfl
  constructor
  · rintro ⟨p, hp⟩
    obtain ⟨hstart, hfinish⟩ := fiscalWindow?_eq_some_iff.mp hp
    have hfirst := (Date.exists_ofParts?_iff.mp ⟨_, hstart⟩).1.1
    have hlast := (Date.exists_ofParts?_iff.mp ⟨_, hfinish⟩).1.2
    omega
  · rintro ⟨hfirst, hlast⟩
    obtain ⟨start, hstart⟩ : ∃ d, Date.ofParts? (year - 1) 10 1 = some d :=
      Date.exists_ofParts?_iff.mpr (by omega)
    obtain ⟨finish, hfinish⟩ : ∃ d, Date.ofParts? year 9 30 = some d :=
      Date.exists_ofParts?_iff.mpr (by omega)
    exact ⟨⟨start, finish⟩, fiscalWindow?_eq_some_iff.mpr ⟨hstart, hfinish⟩⟩

/-- The window that the text of a year asks for, seen from today. -/
def resolve (today : Date) (raw : Option String) : Except Refusal TimePeriod :=
  (parse raw).bind fun year => year.window today

variable {today : Date}

theorem resolve_of_reads {raw : Option String} {year : YearFilter} (h : Reads raw year) :
    resolve today raw = year.window today := by
  rw [resolve, parse_eq_ok_iff.mpr h]
  rfl

/-- A text of digits asks for the fiscal year that it is a numeral of. -/
theorem resolve_numeral_eq_ok_iff {text : String} {year : ℕ} (h : IsNumeral text year)
    {p : TimePeriod} : resolve today (some text) = .ok p ↔ fiscalWindow? year = some p := by
  by_cases hle : (year : Int) ≤ int32Bounds.2
  · rw [resolve_of_reads (.numeral h hle), window_fiscalYear_eq_ok_iff]
  -- The calendar ends long before the numbers that a year may have.
  · constructor
    · intro hp
      obtain ⟨y, hy, -⟩ := exists_of_bind_eq_ok hp
      cases parse_eq_ok_iff.mp hy with
      | empty => exact absurd rfl h.ne_empty
      | latest => exact absurd (h.isDigit 'l' (by decide)) (by decide)
      | all => exact absurd (h.isDigit 'l' (by decide)) (by decide)
      | numeral h' hle' =>
        rw [← h.value, h'.value] at hle
        exact absurd hle' hle
    · intro hp
      have hlast := (exists_fiscalWindow?_iff.mp ⟨p, hp⟩).2
      simp only [calendarYears] at hlast
      simp only [int32Bounds] at hle
      omega

/-- The text of a year in digits is served the days of that fiscal year, as far as the calendar has
them all, and the next year begins where it ends. Without a year the window is that of the twelve
months up to today, or today alone where the calendar does not reach back so far. -/
theorem resolve_days (today : Date) :
    (∀ text year, IsNumeral text year →
      ((∃ p, resolve today (some text) = .ok p) ↔ (year : Int) ≤ calendarYears.2) ∧
      ∀ p, resolve today (some text) = .ok p →
        (∀ d, p.Contains d ↔ fiscalYearOf d = year) ∧
        ∀ next q, IsNumeral next (year + 1) → resolve today (some next) = .ok q →
          ∀ d, q.start ≤ d ↔ ¬ d ≤ p.finish) ∧
    ∀ raw ∈ [none, some "", some "latest"],
      ∃ start, resolve today raw = .ok ⟨start, today⟩ ∧
        (calendarYears.1 < today.year ∧ start.IsYearBefore today ∨
          today.year = calendarYears.1 ∧ start = today) := by
  constructor
  · intro text year h
    constructor
    · simp only [resolve_numeral_eq_ok_iff h, exists_fiscalWindow?_iff, calendarYears]
      omega
    · intro p hp
      rw [resolve_numeral_eq_ok_iff h] at hp
      refine ⟨contains_fiscalWindow_iff hp, fun next q hnext hq d => ?_⟩
      rw [resolve_numeral_eq_ok_iff hnext] at hq
      rw [start_le_iff hq, le_finish_iff hp]
      push_cast
      omega
  · intro raw hraw
    have hreads : Reads raw .latest := by
      simp only [List.mem_cons, List.not_mem_nil, or_false] at hraw
      rcases hraw with rfl | rfl | rfl
      · exact .absent
      · exact .empty
      · exact .latest
    refine ⟨today.yearBefore?.getD today, resolve_of_reads hreads, ?_⟩
    obtain ⟨hfirst, hnone⟩ | ⟨hlater, start, hstart, hbefore⟩ := today.yearBefore?_cases
    · rw [hnone]
      exact .inr ⟨hfirst, rfl⟩
    · rw [hstart]
      exact .inl ⟨hlater, hbefore⟩

end YearFilter

end Outlays

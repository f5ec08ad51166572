import Mathlib.Order.Interval.Finset.Nat
import Outlays.Fiscal.Year
import Outlays.Proofs.Calendar.Written

/-!
# Fiscal years tile the calendar

The fiscal year of a day and the window of a fiscal year are worked out separately: the one looks at
the month, the other sets the first of October against the thirtieth of September. They agree on
every day, so that a day lies in the window of one fiscal year only, its own. The window of
everything begins with the first day of a fiscal year and ends today, so it is made up of the
windows of the fiscal years from that one to the current one, as far as they lie in the past.

The calendar ends in the middle of a fiscal year. The last three months belong to a year that has
no last day, and hence no window.

## Main definitions

* `fiscalYearsTo` — the fiscal years that can be searched, up to that of today
* `IsNumeral` — a text of ASCII digits, with its number
* `YearFilter.Reads` — the texts that a year is read from

## Main results

* `YearFilter.contains_fiscalWindow_iff` — a window holds the days of its fiscal year
* `YearFilter.contains_all_iff` — the window of everything, by fiscal years
* `YearFilter.parse_eq_ok_iff` — which texts are read as years
-/

namespace Outlays

/-! ## Fiscal years of days -/

/-- A date with these parts is the one that the calendar has under them. -/
theorem Date.ofParts?_eq_some_iff {year : Int} {month day : Nat} {d : Date} :
    Date.ofParts? year month day = some d ↔ d.year = year ∧ d.month = month ∧ d.day = day := by
  constructor
  · intro h
    rw [ofParts?] at h
    split at h
    · obtain rfl := Option.some.inj h
      exact ⟨rfl, rfl, rfl⟩
    · cases h
  · rintro ⟨rfl, rfl, rfl⟩
    exact ofParts?_eq_some d

/-- No month has more than 31 days. -/
theorem Date.day_lt (d : Date) : d.day < 32 := by
  have hday : d.day ≤ daysInMonth d.year d.month := d.day_mem.2
  have hmonth : daysInMonth d.year d.month ≤ 31 := daysInMonth_le d.year d.month
  omega

/-- A later day is in no earlier fiscal year. -/
theorem fiscalYearOf_mono {a b : Date} (h : a ≤ b) : fiscalYearOf a ≤ fiscalYearOf b := by
  have ha : a.day < 32 := a.day_lt
  have hb : b.day < 32 := b.day_lt
  have hma := a.month_mem
  have hmb := b.month_mem
  simp only [Date.le_iff, Date.code] at h
  simp only [fiscalYearOf]
  split <;> split <;> omega

/-- What can be searched begins with a fiscal year. -/
theorem searchStart_le_iff {d : Date} : searchStart ≤ d ↔ 2008 ≤ fiscalYearOf d := by
  have hday : d.day < 32 := d.day_lt
  have hday' : 1 ≤ d.day := d.day_mem.1
  have hmonth := d.month_mem
  simp only [Date.le_iff, Date.code, searchStart, fiscalYearOf]
  split <;> omega

/-- The fiscal years that can be searched, up to that of today. -/
def fiscalYearsTo (today : Date) : Finset ℕ := Finset.Icc 2008 (fiscalYearOf today).toNat

theorem mem_fiscalYearsTo_iff {today : Date} {year : ℕ} :
    year ∈ fiscalYearsTo today ↔ 2008 ≤ year ∧ (year : Int) ≤ fiscalYearOf today := by
  rw [fiscalYearsTo, Finset.mem_Icc]
  omega

/-- No fiscal year is too large to be written in 32 bits with a sign. -/
theorem fiscalYearOf_mem (d : Date) :
    int32Bounds.1 ≤ fiscalYearOf d ∧ fiscalYearOf d ≤ int32Bounds.2 := by
  have hyear := d.year_mem
  simp only [calendarYears] at hyear
  simp only [int32Bounds, fiscalYearOf]
  split <;> omega

/-- The text is made up of ASCII digits, one at least, and they stand for the number. -/
structure IsNumeral (text : String) (n : ℕ) : Prop where
  ne_empty : text ≠ ""
  isDigit : ∀ c ∈ text.toList, c.isDigit = true
  value : Nat.ofDigitChars 10 text.toList 0 = n

theorem isNumeral_toString (n : ℕ) : IsNumeral (toString n) n := by
  have htext : (toString n).toList = Nat.toDigits 10 n := by
    rw [← String.toList_ofList (l := Nat.toDigits 10 n)]
    exact congrArg String.toList Nat.repr_eq_ofList_toDigits
  refine ⟨fun hempty => ?_, fun c hc => ?_, ?_⟩
  · rw [hempty] at htext
    exact Nat.toDigits_ne_nil htext.symm
  · rw [htext] at hc
    exact Nat.isDigit_of_mem_toDigits (by omega) (by omega) hc
  · rw [htext, Nat.ofDigitChars_ten_toDigits]

namespace YearFilter

/-! ## Windows -/

/-- The window of a fiscal year, by its first and its last day. -/
theorem fiscalWindow?_eq_some_iff {year : Int} {p : TimePeriod} :
    fiscalWindow? year = some p ↔
      Date.ofParts? (year - 1) 10 1 = some p.start ∧ Date.ofParts? year 9 30 = some p.finish := by
  constructor
  · intro h
    obtain ⟨start, hstart, h⟩ := Option.bind_eq_some_iff.mp h
    obtain ⟨finish, hfinish, h⟩ := Option.bind_eq_some_iff.mp h
    obtain rfl := Option.some.inj h
    exact ⟨hstart, hfinish⟩
  · rintro ⟨hstart, hfinish⟩
    rw [fiscalWindow?, hstart, hfinish]
    rfl

section Bounds

variable {year : Int} {p : TimePeriod} (h : fiscalWindow? year = some p) (d : Date)
include h

/-- The days from the first one of a fiscal year on are in that year or in a later one. -/
theorem start_le_iff : p.start ≤ d ↔ year ≤ fiscalYearOf d := by
  obtain ⟨hyear, hmonth, hday⟩ := Date.ofParts?_eq_some_iff.mp (fiscalWindow?_eq_some_iff.mp h).1
  have hmost : d.day < 32 := d.day_lt
  have hleast : 1 ≤ d.day := d.day_mem.1
  have hmonths := d.month_mem
  simp only [Date.le_iff, Date.code, fiscalYearOf]
  split <;> omega

/-- The days up to the last one of a fiscal year are in that year or in an earlier one. -/
theorem le_finish_iff : d ≤ p.finish ↔ fiscalYearOf d ≤ year := by
  obtain ⟨hyear, hmonth, hday⟩ := Date.ofParts?_eq_some_iff.mp (fiscalWindow?_eq_some_iff.mp h).2
  have hmost : d.day < 32 := d.day_lt
  have hleast : 1 ≤ d.day := d.day_mem.1
  have hmonths := d.month_mem
  -- A September has thirty days, so the day after its last is in the next fiscal year.
  have hseptember : d.month = 9 → d.day ≤ 30 := by
    intro hnine
    have hlength := d.day_mem.2
    rw [hnine] at hlength
    exact hlength
  simp only [Date.le_iff, Date.code, fiscalYearOf]
  split <;> omega

/-- A fiscal year of which the calendar has the first and the last day is made up of the days from
the one to the other. -/
theorem contains_fiscalWindow_iff : p.Contains d ↔ fiscalYearOf d = year := by
  rw [TimePeriod.Contains, start_le_iff h, le_finish_iff h]
  omega

end Bounds

/-- The window of a fiscal year does not depend on the day on which it is asked for. -/
theorem window_fiscalYear_eq_ok_iff {today : Date} {year : ℕ} {p : TimePeriod} :
    (fiscalYear year).window today = .ok p ↔ fiscalWindow? year = some p := by
  rw [window]
  cases fiscalWindow? year with
  | none => exact ⟨nofun, nofun⟩
  | some q => simp only [Except.ok.injEq, Option.some.injEq]

/-- The window of everything holds the days of the fiscal years that can be searched, up to
today. -/
theorem contains_all_iff {today d : Date} (h : d ≤ today) :
    (TimePeriod.mk searchStart today).Contains d ↔
      ∃ year ∈ fiscalYearsTo today, fiscalYearOf d = (year : ℕ) := by
  have hlast : fiscalYearOf d ≤ fiscalYearOf today := fiscalYearOf_mono h
  simp only [TimePeriod.Contains, h, and_true, searchStart_le_iff, mem_fiscalYearsTo_iff]
  constructor
  · intro hfirst
    have hcast : ((fiscalYearOf d).toNat : Int) = fiscalYearOf d := by omega
    exact ⟨(fiscalYearOf d).toNat, ⟨by omega, by omega⟩, hcast.symm⟩
  · rintro ⟨year, ⟨hfirst, -⟩, heq⟩
    omega

/-! ## Written years -/

theorem parse_of_isNumeral {text : String} {year : ℕ} (h : IsNumeral text year)
    (hle : (year : Int) ≤ int32Bounds.2) : parse (some text) = .ok (.fiscalYear year) := by
  -- None of the words is a text of digits.
  have hword (word : String) (c : Char) (hmem : c ∈ word.toList) (hc : c.isDigit = false) :
      text ≠ word := by
    rintro rfl
    exact absurd (h.isDigit c hmem) (by simp [hc])
  have hlatest := hword "latest" 'l' (by decide) rfl
  have hall := hword "all" 'l' (by decide) rfl
  have hvalue : ofDigits text.toList = year := h.value
  have hdigits : text.toList.all Char.isDigit = true := List.all_eq_true.mpr h.isDigit
  simp only [parse, Option.getD_some, h.ne_empty, hlatest, hall, decide_false, Bool.or_self,
    Bool.false_eq_true, if_false, hdigits, hvalue, hle, decide_true, Bool.and_self, if_true]

/-- The texts that a year is read from. -/
inductive Reads : Option String → YearFilter → Prop where
  | absent : Reads none .latest
  | empty : Reads (some "") .latest
  | latest : Reads (some "latest") .latest
  | all : Reads (some "all") .all
  | numeral {text : String} {year : ℕ} (h : IsNumeral text year)
      (hle : (year : Int) ≤ int32Bounds.2) : Reads (some text) (.fiscalYear year)

theorem parse_eq_ok_iff {raw : Option String} {year : YearFilter} :
    parse raw = .ok year ↔ Reads raw year := by
  constructor
  · intro h
    rw [parse] at h
    cases raw with
    | none =>
      obtain rfl := Except.ok.inj h
      exact .absent
    | some text =>
      rw [Option.getD_some] at h
      split at h
      · next hword =>
        obtain rfl := Except.ok.inj h
        simp only [Bool.or_eq_true, decide_eq_true_eq] at hword
        rcases hword with rfl | rfl
        · exact .empty
        · exact .latest
      · next hword =>
        simp only [Bool.or_eq_true, decide_eq_true_eq, not_or] at hword
        split at h
        · next hall =>
          obtain rfl := Except.ok.inj h
          subst hall
          exact .all
        · split at h
          · next hnumeral =>
            obtain rfl := Except.ok.inj h
            rw [Bool.and_eq_true, List.all_eq_true, decide_eq_true_eq] at hnumeral
            exact .numeral ⟨hword.1, hnumeral.1, rfl⟩ hnumeral.2
          · cases h
  · rintro (_ | _ | _ | _ | ⟨h, hle⟩)
    · rfl
    · rfl
    · rfl
    · rfl
    · exact parse_of_isNumeral h hle

/-- A fiscal year, written in decimals, is read as that year. -/
theorem parse_toString {year : ℕ} (h : (year : Int) ≤ int32Bounds.2) :
    parse (some (toString year)) = .ok (.fiscalYear year) :=
  parse_of_isNumeral (isNumeral_toString year) h

end YearFilter

end Outlays

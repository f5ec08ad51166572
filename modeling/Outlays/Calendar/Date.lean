/-!
# Dates

Dates of the Gregorian calendar, extended backwards over year zero and the years before it, from
the first day of -262143 to the last day of 262142.

## Main definitions

* `Date`, `Date.ofParts?` — dates, and the date with a given year, month and day
* `Date.code` — a whole number that orders dates
* `Date.next?`, `Date.previous?`, `Date.yearBefore?` — neighbouring days, and the same day of the
  year before
* `Date.render` — the text `YYYY-MM-DD`
-/

namespace Outlays

/-- The year has a 29 February. -/
def isLeapYear (year : Int) : Bool := year % 4 == 0 && (year % 100 != 0 || year % 400 == 0)

/-- The number of days of a month. -/
def daysInMonth (year : Int) (month : Nat) : Nat :=
  if month = 2 then (if isLeapYear year then 29 else 28)
  else if month = 4 || month = 6 || month = 9 || month = 11 then 30
  else 31

/-- The first and the last year of the calendar. -/
def calendarYears : Int × Int := (-262143, 262142)

/-- A day of the calendar. -/
structure Date where
  year : Int
  month : Nat
  day : Nat
  year_mem : calendarYears.1 ≤ year ∧ year ≤ calendarYears.2
  month_mem : 1 ≤ month ∧ month ≤ 12
  day_mem : 1 ≤ day ∧ day ≤ daysInMonth year month
  deriving DecidableEq, Repr

theorem daysInMonth_le (year : Int) (month : Nat) : daysInMonth year month ≤ 31 := by
  unfold daysInMonth; split <;> split <;> omega

namespace Date

/-- The date with this year, month and day, if the calendar has it. -/
def ofParts? (year : Int) (month day : Nat) : Option Date :=
  if h : (calendarYears.1 ≤ year ∧ year ≤ calendarYears.2) ∧ (1 ≤ month ∧ month ≤ 12)
      ∧ (1 ≤ day ∧ day ≤ daysInMonth year month) then
    some ⟨year, month, day, h.1, h.2.1, h.2.2⟩
  else none

/-- A whole number that grows with the date. -/
def code (d : Date) : Int := d.year * 512 + d.month * 32 + d.day

instance : LE Date := ⟨fun a b => a.code ≤ b.code⟩

instance (a b : Date) : Decidable (a ≤ b) := inferInstanceAs (Decidable (a.code ≤ b.code))

theorem le_iff {a b : Date} : a ≤ b ↔ a.code ≤ b.code := Iff.rfl

/-- Dates with the same code are the same date. -/
theorem eq_of_code_eq {a b : Date} (h : a.code = b.code) : a = b := by
  obtain ⟨y, m, d, hy, hm, hd⟩ := a
  obtain ⟨y', m', d', hy', hm', hd'⟩ := b
  have := daysInMonth_le y m
  have := daysInMonth_le y' m'
  simp only [code] at h
  have e₁ : y = y' := by omega
  have e₂ : m = m' := by omega
  have e₃ : d = d' := by omega
  subst e₁ e₂ e₃; rfl

/-- The day after, if the calendar has it. -/
def next? (d : Date) : Option Date :=
  if d.day < daysInMonth d.year d.month then ofParts? d.year d.month (d.day + 1)
  else if d.month < 12 then ofParts? d.year (d.month + 1) 1
  else ofParts? (d.year + 1) 1 1

/-- The day before, if the calendar has it. -/
def previous? (d : Date) : Option Date :=
  if 1 < d.day then ofParts? d.year d.month (d.day - 1)
  else if 1 < d.month then ofParts? d.year (d.month - 1) (daysInMonth d.year (d.month - 1))
  else ofParts? (d.year - 1) 12 31

/-- The same month and day one year earlier, 28 February for a 29 February, if the calendar
reaches back to it. -/
def yearBefore? (d : Date) : Option Date :=
  ofParts? (d.year - 1) d.month (min d.day (daysInMonth (d.year - 1) d.month))

/-- A natural number in at least `width` digits. -/
def padded (width n : Nat) : String :=
  let digits := Nat.repr n
  String.ofList (List.replicate (width - digits.length) '0') ++ digits

/-- A year: four digits, or a sign and at least four digits outside the years 0 to 9999. -/
def renderYear (year : Int) : String :=
  if 0 ≤ year && year ≤ 9999 then padded 4 year.toNat
  else if year < 0 then "-" ++ padded 4 (-year).toNat
  else "+" ++ padded 4 year.toNat

/-- The text `YYYY-MM-DD`. -/
def render (d : Date) : String :=
  renderYear d.year ++ "-" ++ padded 2 d.month ++ "-" ++ padded 2 d.day

end Date

end Outlays

import Mathlib.Algebra.Group.Nat.Defs
import Outlays.Calendar.Reader

/-!
# Dates, written and read

A date has many spellings and one written form. The reader takes the written form apart at its
hyphens: a run of digits ends where something other than a digit stands, and a year with a sign
may be of any length. So a written date is read as the date that it was written for.

## Main results

* `Reading.digitsUpTo_append` — a number is read up to where its digits end
* `Date.read?_render` — what is written is read back
-/

namespace Outlays

/-! ## Digits -/

theorem Text.isBlank_of_isDigit {c : Char} (h : c.isDigit = true) : Text.isBlank c = false := by
  have hbounds : 48 ≤ c.toNat ∧ c.toNat ≤ 57 := by
    simp only [Char.isDigit, Bool.and_eq_true, decide_eq_true_eq, ge_iff_le,
      UInt32.le_iff_toNat_le] at h
    exact h
  simp only [isBlank, Bool.or_eq_false_iff, Bool.and_eq_false_iff, decide_eq_false_iff_not,
    beq_eq_false_iff_ne]
  omega

/-- Nothing, or a text that begins with something other than a digit. -/
def NoDigitAhead (rest : List Char) : Prop := ∀ c ∈ rest.head?, c.isDigit = false

theorem noDigitAhead_nil : NoDigitAhead [] := nofun

theorem noDigitAhead_hyphen (rest : List Char) : NoDigitAhead ('-' :: rest) := by
  intro c hc
  obtain rfl := Option.mem_some.mp hc
  rfl

namespace Reading

theorem trimStart_digits {ds : List Char} (hds : ∀ c ∈ ds, c.isDigit = true) (hne : ds ≠ [])
    (rest : List Char) : Text.trimStart (ds ++ rest) = ds ++ rest := by
  obtain ⟨d, ds, rfl⟩ := List.exists_cons_of_ne_nil hne
  have hd : Text.isBlank d = false := Text.isBlank_of_isDigit (hds d List.mem_cons_self)
  simp [Text.trimStart, hd]

theorem takeWhile_digits {ds rest : List Char} (hds : ∀ c ∈ ds, c.isDigit = true)
    (hrest : NoDigitAhead rest) : (ds ++ rest).takeWhile Char.isDigit = ds := by
  rw [List.takeWhile_append_of_pos hds]
  cases rest with
  | nil => simp
  | cons c rest => simp [hrest c rfl]

/-- A number is read up to where its digits end. -/
theorem digitsUpTo_append {most : Nat} {ds rest : List Char}
    (hds : ∀ c ∈ ds, c.isDigit = true) (hne : ds ≠ []) (hlength : ds.length ≤ most)
    (hrest : NoDigitAhead rest) :
    digitsUpTo most (ds ++ rest) = some (Nat.ofDigitChars 10 ds 0, rest) := by
  have hnonempty : ds.isEmpty = false := by simpa using hne
  simp only [digitsUpTo, takeWhile_digits hds hrest, List.take_of_length_le hlength, hnonempty,
    Bool.false_eq_true, if_false, List.drop_left, Nat.ofDigitChars]

end Reading

namespace Date

/-! ## Numbers of a least width -/

theorem toList_padded (width n : Nat) :
    (padded width n).toList =
      List.replicate (width - (Nat.toDigits 10 n).length) '0' ++ Nat.toDigits 10 n := by
  simp [padded, Nat.repr_eq_ofList_toDigits]

theorem isDigit_of_mem_padded {width n : Nat} {c : Char} (h : c ∈ (padded width n).toList) :
    c.isDigit = true := by
  rw [toList_padded, List.mem_append] at h
  rcases h with h | h
  · rw [List.eq_of_mem_replicate h]
    rfl
  · exact Nat.isDigit_of_mem_toDigits (by omega) (by omega) h

theorem padded_ne_nil (width n : Nat) : (padded width n).toList ≠ [] := by
  simp [toList_padded, Nat.toDigits_ne_nil]

/-- A number that fits into the width takes no more than it. -/
theorem length_padded_le {width n : Nat} (hwidth : 0 < width) (h : n < 10 ^ width) :
    (padded width n).toList.length ≤ width := by
  have hdigits : (Nat.toDigits 10 n).length ≤ width :=
    (Nat.length_toDigits_le_iff (by omega) hwidth).mpr h
  rw [toList_padded, List.length_append, List.length_replicate]
  omega

/-- Leading zeros make no difference to the number. -/
theorem ofDigitChars_padded (width n : Nat) :
    Nat.ofDigitChars 10 (padded width n).toList 0 = n := by
  -- By induction on the number of zeros in front.
  have hzeros : ∀ k, Nat.ofDigitChars 10 (List.replicate k '0') 0 = 0 := by
    intro k
    induction k with
    | zero => rfl
    | succ k ih => rw [List.replicate_succ, Nat.ofDigitChars_cons]; exact ih
  rw [toList_padded, Nat.ofDigitChars_append, hzeros, Nat.ofDigitChars_ten_toDigits]

theorem digitsUpTo_padded {most width n : Nat} {rest : List Char}
    (hlength : (padded width n).toList.length ≤ most) (hrest : NoDigitAhead rest) :
    Reading.digitsUpTo most ((padded width n).toList ++ rest) = some (n, rest) := by
  rw [Reading.digitsUpTo_append (fun c => isDigit_of_mem_padded) (padded_ne_nil width n) hlength
    hrest, ofDigitChars_padded]

theorem twoDigits_padded {n : Nat} {rest : List Char} (hn : n < 100)
    (hrest : NoDigitAhead rest) :
    Reading.twoDigits ((padded 2 n).toList ++ rest) = some (n, rest) := by
  rw [Reading.twoDigits, Reading.trimStart_digits (fun c => isDigit_of_mem_padded)
    (padded_ne_nil 2 n)]
  exact digitsUpTo_padded (length_padded_le (by omega) hn) hrest

/-! ## Dates -/

/-- Behind a sign a year may have any number of digits. -/
theorem digitsUpTo_signed (n : Nat) (rest : List Char) :
    Reading.digitsUpTo ((padded 4 n).toList ++ '-' :: rest).length
      ((padded 4 n).toList ++ '-' :: rest) = some (n, '-' :: rest) :=
  digitsUpTo_padded (by simp) (noDigitAhead_hyphen rest)

/-- A written year is read as that year. -/
theorem year_renderYear (y : Int) (rest : List Char) :
    Reading.year ((renderYear y).toList ++ '-' :: rest) = some (y, '-' :: rest) := by
  unfold renderYear
  split
  -- A year of the common era below 10000 is written without a sign.
  · next hy =>
    simp only [Bool.and_eq_true, decide_eq_true_eq] at hy
    have hlength : (padded 4 y.toNat).toList.length ≤ 4 := length_padded_le (by omega) (by omega)
    have hread := digitsUpTo_padded hlength (noDigitAhead_hyphen rest)
    rw [Reading.year, Reading.trimStart_digits (fun c => isDigit_of_mem_padded)
      (padded_ne_nil 4 y.toNat)]
    -- The first digit is no sign, so the year is read as one of up to four digits.
    obtain ⟨d, ds, hcons⟩ := List.exists_cons_of_ne_nil (padded_ne_nil 4 y.toNat)
    have hd : d.isDigit = true := isDigit_of_mem_padded (by rw [hcons]; exact List.mem_cons_self)
    rw [hcons] at hread ⊢
    split
    · next heq => cases heq; cases hd
    · next heq => cases heq; cases hd
    · simp only [hread, Option.map_some, Int.toNat_of_nonneg hy.1]
  -- Any other is written with one, and the reader takes all the digits behind it.
  · split
    · next hy =>
      have hy : y < 0 := hy
      have hcs : ("-" ++ padded 4 (-y).toNat).toList ++ '-' :: rest =
          '-' :: ((padded 4 (-y).toNat).toList ++ '-' :: rest) := by simp
      have htrim (cs : List Char) : Text.trimStart ('-' :: cs) = '-' :: cs := rfl
      rw [hcs, Reading.year, htrim]
      simp only [digitsUpTo_signed, Option.map_some, Option.some.injEq, Prod.mk.injEq, and_true]
      omega
    · next hy =>
      have hy : 0 ≤ y := Int.not_lt.mp hy
      have hcs : ("+" ++ padded 4 y.toNat).toList ++ '-' :: rest =
          '+' :: ((padded 4 y.toNat).toList ++ '-' :: rest) := by simp
      have htrim (cs : List Char) : Text.trimStart ('+' :: cs) = '+' :: cs := rfl
      rw [hcs, Reading.year, htrim]
      simp only [digitsUpTo_signed, Option.map_some, Int.toNat_of_nonneg hy]

theorem separator_hyphen (rest : List Char) :
    Reading.separator '-' ('-' :: rest) = some rest := rfl

theorem ofParts?_eq_some (d : Date) : ofParts? d.year d.month d.day = some d := by
  rw [ofParts?, dif_pos ⟨d.year_mem, d.month_mem, d.day_mem⟩]

/-- The written form of a date is read as that date. -/
theorem read?_render (d : Date) : read? d.render = some d := by
  have hcs : d.render.toList = (renderYear d.year).toList ++
      '-' :: ((padded 2 d.month).toList ++ '-' :: ((padded 2 d.day).toList ++ [])) := by
    simp [render]
  have hmonth : d.month < 100 := Nat.lt_of_le_of_lt d.month_mem.2 (by omega)
  have hday : d.day < 100 :=
    Nat.lt_of_le_of_lt (Nat.le_trans d.day_mem.2 (daysInMonth_le d.year d.month)) (by omega)
  have hparts : Reading.dateParts d.render.toList = some ((d.year, d.month, d.day), []) := by
    rw [hcs, Reading.dateParts]
    simp only [Option.bind_eq_bind, Option.pure_def, year_renderYear, separator_hyphen,
      Option.bind_some, twoDigits_padded hmonth (noDigitAhead_hyphen _),
      twoDigits_padded hday noDigitAhead_nil]
  rw [read?, hparts]
  exact ofParts?_eq_some d

end Date

end Outlays

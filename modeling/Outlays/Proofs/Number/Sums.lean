import Mathlib.Algebra.Order.BigOperators.Group.List
import Mathlib.Algebra.Order.Ring.Int
import Outlays.Cents

/-!
# Sums of amounts

An amount that would pass an end of its range stops there, and what follows is added from there on.
So a sum need not be the exact one, and it can depend on the order of the amounts. It is exact as
long as the running sum stays within the range; and where no amount takes back what another one
gave, nothing that is cut off can be missed later, so that the sum is the exact one, cut off once.

## Main definitions

* `FitsInt64` — a number has 64 bits
* `Cents.total` — the exact sum
* `Cents.OneWay` — amounts of one sign

## Main results

* `clampToInt64_clampToInt64_add` — cutting off early makes no difference to what goes the same way
* `Cents.value_foldl_of_fits`, `Cents.value_foldl_of_oneWay` — running sums
* `Cents.sum_exact_or_clamped` — sums
-/

namespace Outlays

/-! ## Numbers of 64 bits -/

/-- The number has 64 bits, one of them for the sign. -/
def FitsInt64 (n : Int) : Prop := int64Bounds.1 ≤ n ∧ n ≤ int64Bounds.2

instance (n : Int) : Decidable (FitsInt64 n) := inferInstanceAs (Decidable (_ ∧ _))

theorem fitsInt64_clampToInt64 (n : Int) : FitsInt64 (clampToInt64 n) := by
  simp only [FitsInt64, clampToInt64, int64Bounds]
  omega

theorem clampToInt64_of_fits {n : Int} (h : FitsInt64 n) : clampToInt64 n = n := by
  simp only [FitsInt64, clampToInt64, int64Bounds] at h ⊢
  omega

/-- What would be cut off anyway may be cut off on the way there. -/
theorem clampToInt64_clampToInt64_add {m n : Int}
    (h : int64Bounds.1 ≤ m ∧ 0 ≤ n ∨ m ≤ int64Bounds.2 ∧ n ≤ 0) :
    clampToInt64 (clampToInt64 m + n) = clampToInt64 (m + n) := by
  simp only [clampToInt64, int64Bounds] at h ⊢
  omega

namespace Cents

variable {amounts others : List Cents} {start c : Cents}

/-! ## Running sums -/

/-- The exact sum of some amounts. -/
def total (amounts : List Cents) : Int := (amounts.map (·.value)).sum

@[simp] theorem total_nil : total [] = 0 := rfl

@[simp] theorem total_cons (c : Cents) (amounts : List Cents) :
    total (c :: amounts) = c.value + total amounts := List.sum_cons

theorem value_add (a b : Cents) : (a + b).value = clampToInt64 (a.value + b.value) := rfl

theorem fitsInt64_add (a b : Cents) : FitsInt64 (a + b).value := fitsInt64_clampToInt64 _

/-- A running sum that has 64 bits keeps to them. -/
theorem fitsInt64_foldl (h : FitsInt64 start.value) :
    FitsInt64 (amounts.foldl (· + ·) start).value := by
  induction amounts generalizing start with
  | nil => exact h
  | cons c amounts ih => exact ih (fitsInt64_add start c)

/-- A running sum is exact up to where the exact one leaves the range. -/
theorem value_foldl_of_fits
    (h : ∀ front, front <+: amounts → FitsInt64 (start.value + total front)) :
    (amounts.foldl (· + ·) start).value = start.value + total amounts := by
  -- By induction on the amounts from any start: each of them moves the start, and the prefixes of
  -- what is left are the prefixes of the whole that begin with it.
  induction amounts generalizing start with
  | nil => simp
  | cons c amounts ih =>
    have hfirst : (start + c).value = start.value + c.value := by
      have hfits := h [c] (List.prefix_cons_inj c |>.mpr List.nil_prefix)
      rw [total_cons, total_nil, Int.add_zero] at hfits
      rw [value_add, clampToInt64_of_fits hfits]
    have hrest : ∀ front, front <+: amounts → FitsInt64 ((start + c).value + total front) := by
      intro front hfront
      have hfits := h (c :: front) (List.prefix_cons_inj c |>.mpr hfront)
      rwa [total_cons, ← Int.add_assoc, ← hfirst] at hfits
    rw [List.foldl_cons, ih hrest, hfirst, total_cons, Int.add_assoc]

/-! ## Amounts of one sign -/

/-- No amount takes back what another one gives. -/
def OneWay (amounts : List Cents) : Prop :=
  (∀ c ∈ amounts, 0 ≤ c.value) ∨ ∀ c ∈ amounts, c.value ≤ 0

theorem OneWay.tail (h : OneWay (c :: amounts)) : OneWay amounts :=
  h.imp List.forall_mem_of_forall_mem_cons List.forall_mem_of_forall_mem_cons

theorem OneWay.of_perm (h : OneWay amounts) (perm : others.Perm amounts) : OneWay others :=
  h.imp (fun h _ hc => h _ (perm.mem_iff.mp hc)) fun h _ hc => h _ (perm.mem_iff.mp hc)

theorem total_nonneg (h : ∀ c ∈ amounts, 0 ≤ c.value) : 0 ≤ total amounts :=
  List.sum_nonneg (List.forall_mem_map.mpr h)

theorem total_nonpos (h : ∀ c ∈ amounts, c.value ≤ 0) : total amounts ≤ 0 := by
  have hle := List.sum_le_card_nsmul _ 0 (List.forall_mem_map.mpr h)
  rwa [nsmul_zero] at hle

/-- What follows the first amount goes its way. -/
theorem OneWay.total_tail (h : OneWay (c :: amounts)) :
    0 ≤ c.value ∧ 0 ≤ total amounts ∨ c.value ≤ 0 ∧ total amounts ≤ 0 := by
  simp only [OneWay, List.forall_mem_cons] at h
  exact h.imp (And.imp_right total_nonneg) (And.imp_right total_nonpos)

/-- A running sum of amounts of one sign is the exact one, cut off once. -/
theorem value_foldl_of_oneWay (hstart : FitsInt64 start.value) (h : OneWay amounts) :
    (amounts.foldl (· + ·) start).value = clampToInt64 (start.value + total amounts) := by
  induction amounts generalizing start with
  | nil => simp [clampToInt64_of_fits hstart]
  | cons c amounts ih =>
    -- The first amount may be cut off, which those behind it cannot make up for.
    have hway : int64Bounds.1 ≤ start.value + c.value ∧ 0 ≤ total amounts ∨
        start.value + c.value ≤ int64Bounds.2 ∧ total amounts ≤ 0 := by
      have htotal := h.total_tail
      have hlow := hstart.1
      have hhigh := hstart.2
      omega
    rw [List.foldl_cons, ih (fitsInt64_add start c) h.tail, value_add,
      clampToInt64_clampToInt64_add hway, total_cons, Int.add_assoc]

theorem total_eq_of_perm (perm : others.Perm amounts) : total others = total amounts :=
  (perm.map _).sum_eq

/-! ## Sums -/

/-- A sum has 64 bits. It is exact if that of every prefix has 64 bits; and for amounts of one sign
it is the exact one, cut off at the end of the range, whatever their order. -/
theorem sum_exact_or_clamped (amounts : List Cents) :
    FitsInt64 (sum amounts).value ∧
      ((∀ front, front <+: amounts → FitsInt64 (total front)) →
        (sum amounts).value = total amounts) ∧
      (OneWay amounts →
        (sum amounts).value = clampToInt64 (total amounts) ∧
          ∀ others, others.Perm amounts → sum others = sum amounts) := by
  have hzero : FitsInt64 zero.value := by decide
  have hclamped (amounts : List Cents) (h : OneWay amounts) :
      (sum amounts).value = clampToInt64 (total amounts) := by
    rw [sum, value_foldl_of_oneWay hzero h, zero, Int.zero_add]
  refine ⟨fitsInt64_foldl hzero, fun hfits => ?_, fun h => ⟨hclamped amounts h, ?_⟩⟩
  · rw [sum, value_foldl_of_fits, zero, Int.zero_add]
    intro front hfront
    rw [zero, Int.zero_add]
    exact hfits front hfront
  · intro others perm
    have hvalue : (sum others).value = (sum amounts).value := by
      rw [hclamped others (h.of_perm perm), hclamped amounts h, total_eq_of_perm perm]
    exact congrArg mk hvalue

/-- Where amounts of both signs meet at the end of the range, their order counts. -/
example : sum [⟨9223372036854775807⟩, ⟨1⟩, ⟨-1⟩] ≠ sum [⟨1⟩, ⟨-1⟩, ⟨9223372036854775807⟩] := by
  decide

end Cents

end Outlays

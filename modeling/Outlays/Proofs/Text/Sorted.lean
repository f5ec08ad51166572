import Mathlib.Data.List.Perm.Basic
import Outlays.Text.Sorted

/-!
# What sorting keeps

Sorting forgets the order of texts. A sorted set also forgets how often each of them stands there:
it is known by its members.

## Main results

* `Text.sorted_eq_iff` — lists that are sorted alike hold the same texts equally often
* `Text.mem_sortedSet`, `Text.sortedSet_pairwise`, `Text.sortedSet_eq_iff` — a sorted set increases
  strictly and is known by its members
-/

namespace Outlays.Text

variable {texts others : List String} {t : String}

theorem sorted_perm (texts : List String) : (sorted texts).Perm texts :=
  List.mergeSort_perm texts _

theorem sorted_pairwise (texts : List String) : (sorted texts).Pairwise (· ≤ ·) := by
  have htrans (a b c : String) (hab : decide (a ≤ b) = true) (hbc : decide (b ≤ c) = true) :
      decide (a ≤ c) = true :=
    decide_eq_true (String.le_trans (of_decide_eq_true hab) (of_decide_eq_true hbc))
  have htotal (a b : String) : (decide (a ≤ b) || decide (b ≤ a)) = true := by
    simpa using String.le_total a b
  exact (List.pairwise_mergeSort htrans htotal texts).imp of_decide_eq_true

/-- Sorting forgets the order of texts and nothing else. -/
theorem sorted_eq_iff : sorted texts = sorted others ↔ texts.Perm others := by
  constructor
  · intro h
    exact (sorted_perm texts).symm.trans (h ▸ sorted_perm others)
  · intro h
    have hperm := (sorted_perm texts).trans (h.trans (sorted_perm others).symm)
    exact hperm.eq_of_pairwise (fun a b _ _ => String.le_antisymm) (sorted_pairwise texts)
      (sorted_pairwise others)

/-! ## Sorted sets -/

/-- The tail loses elements before it is looked at, so the recursion goes by the length. -/
theorem nodup_eraseDups : (texts : List String) → texts.eraseDups.Nodup
  | [] => List.nodup_nil
  | t :: texts => by
    rw [List.eraseDups_cons, List.nodup_cons]
    refine ⟨?_, nodup_eraseDups _⟩
    rw [List.mem_eraseDups]
    simp
termination_by texts => texts.length
decreasing_by exact Nat.lt_succ_of_le (List.length_filter_le _ texts)

@[simp] theorem mem_sortedSet : t ∈ sortedSet texts ↔ t ∈ texts :=
  (sorted_perm _).mem_iff.trans List.mem_eraseDups

theorem nodup_sortedSet (texts : List String) : (sortedSet texts).Nodup :=
  (sorted_perm _).nodup_iff.mpr (nodup_eraseDups texts)

theorem sortedSet_pairwise (texts : List String) : (sortedSet texts).Pairwise (· < ·) := by
  refine ((sorted_pairwise _).and (nodup_sortedSet texts)).imp ?_
  rintro a b ⟨hle, hne⟩
  exact Std.lt_of_le_of_ne hle hne

/-- A sorted set is known by its members. -/
theorem sortedSet_eq_iff :
    sortedSet texts = sortedSet others ↔ ∀ t, t ∈ texts ↔ t ∈ others := by
  constructor
  · intro h t
    rw [← mem_sortedSet, h, mem_sortedSet]
  · intro h
    refine sorted_eq_iff.mpr ((List.perm_ext_iff_of_nodup (nodup_eraseDups _)
      (nodup_eraseDups _)).mpr fun t => ?_)
    rw [List.mem_eraseDups, List.mem_eraseDups, h]

end Outlays.Text

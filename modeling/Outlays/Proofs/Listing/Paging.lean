import Outlays.Page
import Mathlib.Data.List.Basic

/-!
# Pages as slices

The pages of a list cut it into slices of one length. Page numbers and limits that a client may
ask for are far too small for the offset of a page to be cut off at 64 bits, so the slice of a
page starts where it should, and the slices of the first pages join up to the beginning of the
list.

## Main results

* `PageRequest.make_eq_ok_iff` — which pages can be asked for
* `PageRequest.paginate_results` — a page is a slice of the list
* `PageRequest.flatMap_paginate` — the first pages, one after the other
-/

namespace Outlays

namespace PageRequest

variable {ρ τ : Type} {page limit : Option Nat} {r : PageRequest}

/-- A page can be asked for by a number from one on and a limit from 1 to 100, or by default. -/
theorem make_eq_ok_iff :
    make page limit = .ok r ↔
      r = ⟨page.getD 1, limit.getD defaultLimit⟩ ∧ 1 ≤ r.page ∧ 1 ≤ r.limit ∧
        r.limit ≤ maxLimit := by
  simp only [make, Bool.or_eq_true, decide_eq_true_eq]
  constructor
  · intro h
    split at h
    · cases h
    · split at h
      · cases h
      · obtain rfl := Except.ok.inj h
        refine ⟨rfl, ?_, ?_, ?_⟩ <;> dsimp only <;> omega
  · rintro ⟨rfl, hpage, hlimit, hmax⟩
    dsimp only at hpage hlimit hmax
    rw [if_neg (by omega), if_neg (by omega)]

/-- The offset of a page is not cut off at 64 bits. -/
theorem offset_eq (hpage : r.page ≤ uint32Max) (hlimit : r.limit ≤ maxLimit) :
    r.offset = (r.page - 1) * r.limit := by
  have bound : (r.page - 1) * r.limit ≤ uint32Max * maxLimit :=
    Nat.mul_le_mul (by omega) hlimit
  exact Nat.min_eq_right (Nat.le_trans bound (by decide))

/-- A page is a slice of the list. -/
theorem paginate_results (hpage : r.page ≤ uint32Max) (hlimit : r.limit ≤ maxLimit)
    (rows : List ρ) :
    (r.paginate rows).results = (rows.drop ((r.page - 1) * r.limit)).take r.limit := by
  rw [paginate, offset_eq hpage hlimit]

/-- A page carries the number of all rows. -/
theorem paginate_total (rows : List ρ) : (r.paginate rows).info.total = rows.length := rfl

/-- Rows may be shown before they are cut into pages or after. -/
theorem paginate_map (f : ρ → τ) (rows : List ρ) :
    r.paginate (rows.map f) =
      { info := (r.paginate rows).info, results := (r.paginate rows).results.map f } := by
  simp only [paginate, List.length_map, List.map_take, List.map_drop]

/-- Slices of one length, one after the other, are the beginning of the list. -/
theorem flatMap_slices (rows : List ρ) (limit count : Nat) :
    ((List.range count).flatMap fun i => (rows.drop (i * limit)).take limit) =
      rows.take (count * limit) := by
  induction count with
  | zero => simp
  | succ count ih =>
    rw [List.range_succ, List.flatMap_append, ih, Nat.succ_mul, List.take_add]
    simp

/-- The first pages, one after the other, are the beginning of the list. -/
theorem flatMap_paginate (rows : List ρ) {limit count : Nat} (hcount : count ≤ uint32Max)
    (hlimit : limit ≤ maxLimit) :
    ((List.range count).flatMap fun i => (paginate ⟨i + 1, limit⟩ rows).results) =
      rows.take (count * limit) := by
  rw [← flatMap_slices rows limit count]
  refine List.flatMap_congr fun i hi => ?_
  have : i < count := List.mem_range.mp hi
  exact paginate_results (by dsimp only; omega) hlimit rows

end PageRequest

end Outlays

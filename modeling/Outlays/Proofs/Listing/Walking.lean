import Mathlib.Order.MinMax
import Outlays.Proofs.Listing.Paging

/-!
# Walking through the pages

Whoever reads a list page by page starts on the first page and asks for the page that each names as
the next one, until one names none. A page names a next one exactly where rows are left, and its
number is the only thing that a walk carries along, so the walk is settled by the number of the
page that it has come to. It visits the pages in order and sees every row once.

All of this depends on the width of numbers: a page number has 32 bits, the offset of a page and the
number of rows up to its end have 64. No more rows than the last page number can reach keep all of
them exact.

## Main definitions

* `pageCount` — the number of pages that rows fill
* `PageWalk` — the pages of a walk from a page on
* `Page.Placed` — what a page says about its place is right

## Main results

* `lt_pageCount_iff` — rows are left behind a page
* `PageWalk.eq` — a walk is settled by where it starts
* `PageRequest.placed_paginate` — every page is placed, also one past the end
* `PageRequest.exists_walk` — a walk from the first page sees every row once
-/

namespace Outlays

/-- The number of pages that rows fill, which is one where there are no rows. -/
def pageCount (total limit : ℕ) : ℕ := max 1 ((total + limit - 1) / limit)

/-- Rows are left behind a page if and only if it is not the last one. -/
theorem lt_pageCount_iff {page total limit : ℕ} (hpage : 1 ≤ page) (hlimit : 1 ≤ limit) :
    page < pageCount total limit ↔ page * limit < total := by
  have hceil : page < (total + limit - 1) / limit ↔ page * limit < total := by
    rw [← Nat.succ_le_iff, Nat.le_div_iff_mul_le hlimit, Nat.succ_mul]
    omega
  rw [pageCount, lt_max_iff, hceil]
  constructor
  · rintro (h | h)
    · omega
    · exact h
  · exact .inr

theorem one_le_pageCount (total limit : ℕ) : 1 ≤ pageCount total limit := le_max_left _ _

/-- All rows are on the pages that they fill. -/
theorem le_pageCount_mul {total limit : ℕ} (hlimit : 1 ≤ limit) :
    total ≤ pageCount total limit * limit := by
  by_contra h
  rw [not_le, ← lt_pageCount_iff (one_le_pageCount total limit) hlimit] at h
  exact lt_irrefl _ h

/-- The last page has a number of 32 bits. -/
theorem pageCount_le {total limit : ℕ} (hlimit : 1 ≤ limit) (htotal : total ≤ uint32Max * limit) :
    pageCount total limit ≤ uint32Max := by
  by_contra h
  rw [not_le, lt_pageCount_iff (by decide) hlimit] at h
  exact absurd htotal (not_le.mpr h)

variable {ρ : Type} {rows : List ρ} {page limit : ℕ}

/-- The pages that are seen from a page on by whoever asks for the next one each time, up to a page
that names none. -/
inductive PageWalk (rows : List ρ) (limit : ℕ) : ℕ → List (Page ρ) → Prop where
  | last {page : ℕ} {r : PageRequest} (asked : PageRequest.make (some page) (some limit) = .ok r)
      (none_next : (r.paginate rows).info.next = none) :
      PageWalk rows limit page [r.paginate rows]
  | step {page next : ℕ} {r : PageRequest} {pages : List (Page ρ)}
      (asked : PageRequest.make (some page) (some limit) = .ok r)
      (some_next : (r.paginate rows).info.next = some next)
      (rest : PageWalk rows limit next pages) :
      PageWalk rows limit page (r.paginate rows :: pages)

/-- A walk is settled by where it starts. -/
theorem PageWalk.eq {pages others : List (Page ρ)} (h : PageWalk rows limit page pages)
    (h' : PageWalk rows limit page others) : pages = others := by
  induction h generalizing others with
  | last asked hnone =>
    cases h' with
    | last asked' _ => rw [Except.ok.inj (asked.symm.trans asked')]
    | step asked' hsome _ =>
      rw [Except.ok.inj (asked.symm.trans asked'), hsome] at hnone
      cases hnone
  | step asked hsome _ ih =>
    cases h' with
    | last asked' hnone =>
      rw [Except.ok.inj (asked.symm.trans asked'), hnone] at hsome
      cases hsome
    | step asked' hsome' rest' =>
      obtain rfl := Except.ok.inj (asked.symm.trans asked')
      obtain rfl := Option.some.inj (hsome.symm.trans hsome')
      rw [ih rest']

/-- The page says the right thing about its place among the rows, and no number that it takes is cut
off at its width. -/
structure Page.Placed (rows : List ρ) (r : PageRequest) (p : Page ρ) : Prop where
  total : p.info.total = rows.length
  results : p.results = (rows.drop ((r.page - 1) * r.limit)).take r.limit
  /-- A page past the end is empty. -/
  past_end : rows.length ≤ (r.page - 1) * r.limit → p.results = []
  /-- There is a next page exactly where it has a row. -/
  hasNext_iff : p.info.hasNext = true ↔
    (PageRequest.paginate ⟨r.page + 1, r.limit⟩ rows).results ≠ []
  next_eq : p.info.next = if p.info.hasNext then some (r.page + 1) else none
  hasPrevious_iff : p.info.hasPrevious = true ↔ 1 < r.page
  previous_eq : p.info.previous = if p.info.hasPrevious then some (r.page - 1) else none
  /-- The rows before the page fit into 64 bits, and so do those up to its end. -/
  before_fits : r.offset = (r.page - 1) * r.limit ∧ (r.page - 1) * r.limit ≤ uint64Max
  seen_fits : r.page * r.limit ≤ uint64Max
  /-- The number of a next page fits into 32 bits. -/
  next_fits : p.info.hasNext = true → r.page + 1 ≤ uint32Max

namespace PageRequest

/-- The rows up to the end of a page are not cut off at 64 bits. -/
theorem seen_le {r : PageRequest} (hpage : r.page ≤ uint32Max) (hlimit : r.limit ≤ maxLimit) :
    r.page * r.limit ≤ uint64Max :=
  calc r.page * r.limit ≤ uint32Max * maxLimit := Nat.mul_le_mul hpage hlimit
    _ ≤ uint64Max := by decide

/-- There is a next page where rows are left. -/
theorem hasNext_paginate {r : PageRequest} (hpage : r.page ≤ uint32Max)
    (hlimit : r.limit ≤ maxLimit) (rows : List ρ) :
    (r.paginate rows).info.hasNext = decide (r.page * r.limit < rows.length) := by
  simp only [paginate, PageInfo.make, Nat.min_eq_right (seen_le hpage hlimit)]

/-- Every page that can be asked for is placed among the rows, also one past the end. -/
theorem placed_paginate {r : PageRequest} (hmost : r.page ≤ uint32Max) (hlimit : 1 ≤ r.limit)
    (hmax : r.limit ≤ maxLimit) (hrows : rows.length ≤ uint32Max * r.limit) :
    (r.paginate rows).Placed rows r := by
  have hslice := paginate_results hmost hmax rows
  have hnext := hasNext_paginate hmost hmax rows
  have hseen := seen_le hmost hmax
  have hfits : (r.paginate rows).info.hasNext = true → r.page + 1 ≤ uint32Max := by
    intro h
    rw [hnext, decide_eq_true_iff] at h
    have hlt : r.page < uint32Max := Nat.lt_of_mul_lt_mul_right (h.trans_le hrows)
    exact hlt
  refine
    { total := rfl
      results := hslice
      past_end := ?_
      hasNext_iff := ?_
      next_eq := ?_
      hasPrevious_iff := decide_eq_true_iff
      previous_eq := rfl
      before_fits := ⟨offset_eq hmost hmax, ?_⟩
      seen_fits := hseen
      next_fits := hfits }
  · intro h
    rw [hslice, List.drop_eq_nil_of_le h, List.take_nil]
  · -- The next page may lie beyond 32 bits, and there it is empty all the same.
    have hoffset : offset ⟨r.page + 1, r.limit⟩ = r.page * r.limit := Nat.min_eq_right hseen
    rw [hnext, decide_eq_true_iff]
    simp only [paginate, hoffset, ne_eq, List.take_eq_nil_iff, List.drop_eq_nil_iff]
    omega
  · cases hmore : (r.paginate rows).info.hasNext with
    | false =>
      rw [hnext] at hmore
      simp only [paginate, PageInfo.make, Nat.min_eq_right hseen, hmore, Bool.false_eq_true,
        if_false]
    | true =>
      have hmin : min uint32Max (r.page + 1) = r.page + 1 := Nat.min_eq_right (hfits hmore)
      rw [hnext] at hmore
      simp only [paginate, PageInfo.make, Nat.min_eq_right hseen, hmore, hmin, if_true]
  · exact (Nat.mul_le_mul_right r.limit (Nat.sub_le r.page 1)).trans hseen

/-- From a page on, a walk visits the pages up to the last one. -/
theorem walk_from (hlimit : 1 ≤ limit) (hmax : limit ≤ maxLimit)
    (hrows : rows.length ≤ uint32Max * limit) (left : ℕ) (hpage : 1 ≤ page)
    (hlast : page + left = pageCount rows.length limit) :
    PageWalk rows limit page
      ((List.range' page (left + 1)).map fun i => paginate ⟨i, limit⟩ rows) := by
  -- By induction on the number of pages that are left behind this one.
  induction left generalizing page with
  | zero =>
    have hmost : page ≤ uint32Max := by
      have := pageCount_le hlimit hrows
      omega
    have hplaced := placed_paginate (r := ⟨page, limit⟩) hmost hlimit hmax hrows
    refine .last (make_eq_ok_iff.mpr ⟨rfl, hpage, hlimit, hmax⟩) ?_
    have hnone : ¬ page * limit < rows.length := by
      rw [← lt_pageCount_iff hpage hlimit]
      omega
    rw [hplaced.next_eq, hasNext_paginate hmost hmax, decide_eq_false hnone]
    rfl
  | succ left ih =>
    have hmost : page ≤ uint32Max := by
      have := pageCount_le hlimit hrows
      omega
    have hplaced := placed_paginate (r := ⟨page, limit⟩) hmost hlimit hmax hrows
    have hmore : page * limit < rows.length := by
      rw [← lt_pageCount_iff hpage hlimit]
      omega
    rw [List.range'_succ, List.map_cons]
    refine .step (make_eq_ok_iff.mpr ⟨rfl, hpage, hlimit, hmax⟩) ?_ (ih (by omega) (by omega))
    rw [hplaced.next_eq, hasNext_paginate hmost hmax, decide_eq_true hmore]
    rfl

/-- The pages that rows fill hold every row once. -/
theorem flatMap_pages (hlimit : 1 ≤ limit) (hmax : limit ≤ maxLimit)
    (hrows : rows.length ≤ uint32Max * limit) :
    ((List.range' 1 (pageCount rows.length limit)).map fun i =>
      paginate ⟨i, limit⟩ rows).flatMap (·.results) = rows := by
  have hshift : List.range' 1 (pageCount rows.length limit) =
      (List.range (pageCount rows.length limit)).map (· + 1) := by
    rw [List.range'_eq_map_range]
    exact List.map_congr_left fun i _ => Nat.add_comm 1 i
  rw [hshift, List.map_map, List.flatMap_map]
  exact (flatMap_paginate rows (pageCount_le hlimit hrows) hmax).trans
    (List.take_of_length_le (le_pageCount_mul hlimit))

/-- To go from page to page until none is named visits the pages that the rows fill, in order, and
sees every row once; there is no other walk. Every page, also one past the end, says the right thing
about its place, and nothing is cut off at the width of a number. -/
theorem exists_walk (rows : List ρ) (limit : ℕ) (hlimit : 1 ≤ limit) (hmax : limit ≤ maxLimit)
    (hrows : rows.length ≤ uint32Max * limit) :
    (∃ pages, (∀ others, PageWalk rows limit 1 others ↔ others = pages) ∧
      pages.map (·.info.page) = List.range' 1 (pageCount rows.length limit) ∧
      pages.flatMap (·.results) = rows) ∧
    ∀ page, 1 ≤ page → page ≤ uint32Max →
      (paginate ⟨page, limit⟩ rows).Placed rows ⟨page, limit⟩ := by
  constructor
  · obtain ⟨left, hleft⟩ := Nat.exists_eq_add_of_le (one_le_pageCount rows.length limit)
    have hwalk := walk_from hlimit hmax hrows left le_rfl hleft.symm
    rw [Nat.add_comm left 1, ← hleft] at hwalk
    refine ⟨_, fun others => ⟨fun h => h.eq hwalk, fun h => h ▸ hwalk⟩, ?_,
      flatMap_pages hlimit hmax hrows⟩
    rw [List.map_map]
    exact List.map_id _
  · intro page _ hmost
    exact placed_paginate hmost hlimit hmax hrows

/-- Five rows fill three pages of two. -/
theorem exists_walk_five :
    1 ≤ 2 ∧ 2 ≤ maxLimit ∧ [1, 2, 3, 4, 5].length ≤ uint32Max * 2 ∧
      (∃ pages, (∀ others, PageWalk [1, 2, 3, 4, 5] 2 1 others ↔ others = pages) ∧
        pages.map (·.info.page) = [1, 2, 3] ∧ pages.flatMap (·.results) = [1, 2, 3, 4, 5]) ∧
      ∀ page, 1 ≤ page → page ≤ uint32Max →
        (paginate ⟨page, 2⟩ [1, 2, 3, 4, 5]).Placed [1, 2, 3, 4, 5] ⟨page, 2⟩ := by
  have hrows : [1, 2, 3, 4, 5].length ≤ uint32Max * 2 := by decide
  exact ⟨by decide, by decide, hrows, exists_walk [1, 2, 3, 4, 5] 2 (by decide) (by decide) hrows⟩

end PageRequest

end Outlays

import Mathlib.Data.List.Dedup
import Outlays.Proofs.Listing.Sorting

/-!
# Ties, upwards and downwards

A listing that goes down is not the one that goes up read backwards: rows with one value keep their
order in both, and rows without a value stay at the end. What is turned round is the order of the
values. In either direction the rows of one value stand together, as they stood before, and these
groups follow each other, the smallest value first or the greatest.

There is only one such list. So a sorted form does not depend on how the rows came to be sorted.

## Main definitions

* `rowsWith` — the rows of one value
* `present` — the rows that have a value

## Main results

* `SortValue.instTransCmpCompareIn`, `SortValue.instLawfulEqCmpCompareIn` — rows stand in a total
  preorder in both directions, and only those with equal values tie
* `StablySorted.eq` — a sorted form is determined by the rows
* `StablySorted.present_eq` — a sorted form is made up of the groups of tied rows
* `sortRows_both_ways` — what sorting does, and how its two directions differ
-/

namespace Outlays

/-! ## The order of rows as a comparison -/

/-- Doubles have one place in the order of doubles only where they have the same bits: the two zeros
are kept apart, and what is not a number has a place like any other. -/
theorem Double.ordinal_eq_iff {x y : Float} : ordinal x = ordinal y ↔ x.toBits = y.toBits := by
  have hx : x.toBits.toNat < 2 ^ 64 := x.toBits.toNat_lt
  have hy : y.toBits.toNat < 2 ^ 64 := y.toBits.toNat_lt
  rw [← UInt64.toNat_inj]
  unfold ordinal signUnit
  generalize x.toBits.toNat = m at hx
  generalize y.toBits.toNat = n at hy
  dsimp only
  split <;> split <;> omega

namespace SortValue

variable {order : SortOrder} {u v : SortValue}

/-- Values of which neither is missing are compared in the direction of the listing. -/
theorem compareIn_of_ne (hu : u ≠ .missing) (hv : v ≠ .missing) :
    compareIn order u v = order.apply (u.compare v) := by
  cases u <;> cases v <;> first | rfl | contradiction

theorem compareIn_swap (order : SortOrder) (u v : SortValue) :
    (compareIn order v u).swap = compareIn order u v := by
  by_cases hu : u = .missing
  · subst hu
    cases v <;> rfl
  · by_cases hv : v = .missing
    · subst hv
      cases u <;> rfl
    · rw [compareIn_of_ne hu hv, compareIn_of_ne hv hu, ← compare_swap v u]
      cases order <;> simp only [SortOrder.apply, Ordering.swap_swap]

/-- Rows stand in a total preorder, in both directions. -/
instance instTransCmpCompareIn (order : SortOrder) : Std.TransCmp (compareIn order) where
  eq_swap := (compareIn_swap order _ _).symm
  isLE_trans := compareIn_trans

/-- Only rows with equal values tie. -/
instance instLawfulEqCmpCompareIn (order : SortOrder) : Std.LawfulEqCmp (compareIn order) where
  eq_of_compare {u v} h := by
    by_cases hu : u = .missing
    · subst hu
      cases v <;> first | rfl | cases h
    · by_cases hv : v = .missing
      · subst hv
        cases u <;> first | rfl | cases h
      · rw [compareIn_of_ne hu hv] at h
        cases order with
        | ascending =>
          have heq : u.compare v = .eq := h
          exact Std.LawfulEqCmp.eq_of_compare heq
        | descending =>
          have heq : u.compare v = .eq := Ordering.swap_eq_eq.mp h
          exact Std.LawfulEqCmp.eq_of_compare heq

end SortValue

/-! ## Groups of tied rows -/

section Groups

variable {ρ κ : Type} [DecidableEq κ]

/-- The rows of one value, in the order in which they stand. -/
def rowsWith (value : ρ → κ) (rows : List ρ) (v : κ) : List ρ := rows.filter fun r => value r = v

variable {value : ρ → κ} {rows : List ρ} {v : κ}

theorem mem_rowsWith {r : ρ} : r ∈ rowsWith value rows v ↔ r ∈ rows ∧ value r = v := by
  rw [rowsWith, List.mem_filter, decide_eq_true_iff]

/-- Lists in the same order, in which tied rows stand in the same order, are the same list. -/
theorem eq_of_pairwise_of_rowsWith (le : κ → κ → Prop) (antisymm : ∀ u v, le u v → le v u → u = v)
    {l l' : List ρ} (h : l.Pairwise fun r r' => le (value r) (value r'))
    (h' : l'.Pairwise fun r r' => le (value r) (value r'))
    (hties : ∀ v, rowsWith value l v = rowsWith value l' v) : l = l' := by
  have mem_iff (r : ρ) : r ∈ l ↔ r ∈ l' := by
    have hiff := congrArg (r ∈ ·) (hties (value r))
    simpa only [mem_rowsWith, and_true, eq_iff_iff] using hiff
  induction l generalizing l' with
  | nil =>
    refine (List.eq_nil_iff_forall_not_mem.mpr fun r hr => ?_).symm
    exact absurd ((mem_iff r).mpr hr) List.not_mem_nil
  | cons a l ih =>
    cases l' with
    | nil => exact absurd ((mem_iff a).mp List.mem_cons_self) List.not_mem_nil
    | cons b l' =>
      obtain ⟨ha, hl⟩ := List.pairwise_cons.mp h
      obtain ⟨hb, hl'⟩ := List.pairwise_cons.mp h'
      -- Each of the first rows occurs in the other list, so neither has the greater value.
      have hvalue : value a = value b := by
        rcases List.mem_cons.mp ((mem_iff a).mp List.mem_cons_self) with rfl | hmem
        · rfl
        · rcases List.mem_cons.mp ((mem_iff b).mpr List.mem_cons_self) with rfl | hmem'
          · rfl
          · exact antisymm _ _ (ha b hmem') (hb a hmem)
      have hfirst := hties (value a)
      simp only [rowsWith, hvalue, List.filter_cons, decide_true, if_true, List.cons.injEq]
        at hfirst
      obtain ⟨rfl, -⟩ := hfirst
      have hrest (v : κ) : rowsWith value l v = rowsWith value l' v := by
        have := hties v
        simp only [rowsWith, List.filter_cons] at this
        split at this
        · exact (List.cons.inj this).2
        · exact this
      rw [ih hl hl' hrest ?_]
      intro r
      have hiff := congrArg (r ∈ ·) (hrest (value r))
      simpa only [mem_rowsWith, and_true, eq_iff_iff] using hiff

/-- Groups of different values, one after the other: the rows of a value are those of its group. -/
theorem rowsWith_flatMap {vs : List κ} (h : vs.Nodup) (w : κ) :
    rowsWith value (vs.flatMap (rowsWith value rows)) w =
      if w ∈ vs then rowsWith value rows w else [] := by
  induction vs with
  | nil => rfl
  | cons v vs ih =>
    obtain ⟨hv, hvs⟩ := List.nodup_cons.mp h
    have hcons : rowsWith value ((v :: vs).flatMap (rowsWith value rows)) w =
        rowsWith value (rowsWith value rows v) w ++
          rowsWith value (vs.flatMap (rowsWith value rows)) w := by
      rw [List.flatMap_cons]
      exact List.filter_append _ _
    rw [hcons, ih hvs]
    by_cases hw : w = v
    · subst hw
      rw [if_neg hv, if_pos List.mem_cons_self, List.append_nil]
      exact List.filter_eq_self.mpr fun r hr => by simpa using (mem_rowsWith.mp hr).2
    · have hnone : rowsWith value (rowsWith value rows v) w = [] :=
        List.filter_eq_nil_iff.mpr fun r hr => by
          rw [(mem_rowsWith.mp hr).2]
          simpa using Ne.symm hw
      rw [hnone, List.nil_append]
      simp only [List.mem_cons, hw, false_or]

/-- Groups of values that stand in order are a list in order. -/
theorem pairwise_flatMap_rowsWith {le : κ → κ → Prop} (refl : ∀ v, le v v) {vs : List κ}
    (h : vs.Pairwise le) :
    (vs.flatMap (rowsWith value rows)).Pairwise fun r r' => le (value r) (value r') := by
  refine List.pairwise_flatMap.mpr ⟨fun v _ => ?_, h.imp fun {u v} hle r hr r' hr' => ?_⟩
  · refine List.pairwise_of_forall_mem_list fun r hr r' hr' => ?_
    rw [(mem_rowsWith.mp hr).2, (mem_rowsWith.mp hr').2]
    exact refl v
  · rw [(mem_rowsWith.mp hr).2, (mem_rowsWith.mp hr').2]
    exact hle

end Groups

/-! ## The two directions -/

section Directions

variable {ρ : Type} {value : ρ → SortValue} {rows out out' : List ρ} {order : SortOrder}

/-- The rows that have a value. -/
def present (value : ρ → SortValue) (rows : List ρ) : List ρ :=
  rows.filter fun r => value r ≠ .missing

theorem rowsWith_present (v : SortValue) :
    rowsWith value (present value rows) v = if v = .missing then [] else rowsWith value rows v := by
  rw [rowsWith, present, List.filter_filter]
  split
  · next hv =>
    refine List.filter_eq_nil_iff.mpr fun r _ => ?_
    simp [hv]
  · next hv =>
    refine List.filter_congr fun r _ => ?_
    by_cases hr : value r = v <;> simp [hr, hv]

namespace StablySorted

/-- The rows with a value are determined by their order and by their ties. -/
theorem present_eq_of (h : StablySorted order value rows out) {l : List ρ}
    (hl : l.Pairwise fun r r' => order.Puts (value r) (value r'))
    (hties : ∀ v, rowsWith value l v = if v = .missing then [] else rowsWith value rows v) :
    present value out = l := by
  refine eq_of_pairwise_of_rowsWith order.Puts (fun u v => SortOrder.Puts.antisymm) h.ordered hl
    fun v => ?_
  rw [hties, rowsWith_present]
  exact congrArg (ite _ _) (h.ties v)

/-- Rows have one sorted form. -/
theorem eq (h : StablySorted order value rows out) (h' : StablySorted order value rows out') :
    out = out' := by
  have hties (v : SortValue) : rowsWith value (present value out') v =
      if v = .missing then [] else rowsWith value rows v := by
    rw [rowsWith_present]
    exact congrArg (ite _ _) (h'.ties v)
  rw [h.missing_last, h'.missing_last]
  exact congrArg (· ++ _) (h.present_eq_of h'.ordered hties)

/-- The rows with a value are the groups of all values that occur, one after the other. -/
theorem present_eq (h : StablySorted order value rows out) {vs : List SortValue}
    (hvs : vs.Pairwise order.Puts) (hnodup : vs.Nodup)
    (hmem : ∀ v, v ∈ vs ↔ v ≠ .missing ∧ ∃ r ∈ rows, value r = v) :
    present value out = vs.flatMap (rowsWith value rows) := by
  refine h.present_eq_of
    (pairwise_flatMap_rowsWith (fun v => (order.puts_total v v).elim id id) hvs) fun v => ?_
  rw [rowsWith_flatMap hnodup]
  by_cases hmissing : v = .missing
  · rw [if_pos hmissing, if_neg fun hv => ((hmem v).mp hv).1 hmissing]
  · rw [if_neg hmissing]
    split
    · rfl
    · next hv =>
      -- A value that does not occur has no rows.
      refine (List.filter_eq_nil_iff.mpr fun r hr heq => hv ?_).symm
      exact (hmem v).mpr ⟨hmissing, r, hr, of_decide_eq_true heq⟩

end StablySorted

/-- The values that occur in rows, in order. -/
theorem exists_values (value : ρ → SortValue) (rows : List ρ) :
    ∃ vs : List SortValue, (vs.Pairwise fun u v => u.compare v = .lt) ∧
      ∀ v, v ∈ vs ↔ v ≠ .missing ∧ ∃ r ∈ rows, value r = v := by
  have h : StablySorted .ascending value rows _ := sortRows_stablySorted .ascending value rows
  refine ⟨((present value (sortRows .ascending value rows)).map value).dedup, ?_, fun v => ?_⟩
  · have hordered := (List.pairwise_map.mpr h.ordered).sublist (List.dedup_sublist _)
    refine hordered.imp₂ (fun u v hputs hne => ?_) (List.nodup_dedup _)
    have hle : (u.compare v).isLE := hputs
    cases hcompare : u.compare v with
    | lt => rfl
    | eq => exact absurd (Std.LawfulEqCmp.eq_of_compare hcompare) hne
    | gt => rw [hcompare] at hle; cases hle
  · simp only [List.mem_dedup, List.mem_map, present, List.mem_filter, decide_eq_true_eq,
      h.perm.mem_iff]
    constructor
    · rintro ⟨r, ⟨hr, hvalue⟩, rfl⟩
      exact ⟨hvalue, r, hr, rfl⟩
    · rintro ⟨hv, r, hr, rfl⟩
      exact ⟨r, ⟨hr, hv⟩, rfl⟩

/-- Rows are sorted by a total preorder in which only equal values tie, doubles only with the same
bits. The result is the one list that holds the rows in order, those without a value last, with
tied rows as they stood. Its rows with a value are the groups of tied rows, by growing values; in
the other direction they are the same groups, by falling values. -/
theorem sortRows_both_ways (value : ρ → SortValue) (rows : List ρ) :
    (∀ order : SortOrder,
      Std.TransCmp (SortValue.compareIn order) ∧ Std.LawfulEqCmp (SortValue.compareIn order) ∧
      (∀ x y : Float, (SortValue.ofDouble x).compareIn order (.ofDouble y) = .eq ↔
        x.toBits = y.toBits) ∧
      ((sortRows order value rows).Pairwise fun r r' =>
        ((value r).compareIn order (value r')).isLE) ∧
      StablySorted order value rows (sortRows order value rows) ∧
      ∀ out, StablySorted order value rows out → out = sortRows order value rows) ∧
    ∃ vs : List SortValue,
      (vs.Pairwise fun u v => u.compare v = .lt) ∧
      (∀ v, v ∈ vs ↔ v ≠ .missing ∧ ∃ r ∈ rows, value r = v) ∧
      present value (sortRows .ascending value rows) = vs.flatMap (rowsWith value rows) ∧
      present value (sortRows .descending value rows) =
        vs.reverse.flatMap (rowsWith value rows) := by
  constructor
  · intro order
    have hsorted := sortRows_stablySorted order value rows
    refine ⟨inferInstance, inferInstance, fun x y => ?_, sortRows_pairwise order value rows,
      hsorted, fun out hout => hout.eq hsorted⟩
    rw [Std.LawfulEqCmp.compare_eq_iff_eq, ← Double.ordinal_eq_iff, SortValue.ofDouble,
      SortValue.ofDouble, SortValue.number.injEq]
  · obtain ⟨vs, hvs, hmem⟩ := exists_values value rows
    have hgrowing : vs.Pairwise (SortOrder.Puts .ascending) := hvs.imp fun {u v} hlt => by
      rw [SortOrder.Puts, hlt]
      rfl
    have hnodup : vs.Nodup := hvs.imp fun {u v} hlt heq => by
      have hself : v.compare v = .eq := Std.ReflCmp.compare_self
      rw [heq, hself] at hlt
      cases hlt
    refine ⟨vs, hvs, hmem, (sortRows_stablySorted _ _ _).present_eq hgrowing hnodup hmem, ?_⟩
    exact (sortRows_stablySorted _ _ _).present_eq (List.pairwise_reverse.mpr hgrowing)
      (List.nodup_reverse.mpr hnodup) fun v => List.mem_reverse.trans (hmem v)

end Directions

end Outlays

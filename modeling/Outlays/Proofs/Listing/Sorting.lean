import Outlays.Listing.Order
import Mathlib.Data.List.Basic

/-!
# Sorted rows

Sort values stand in one linear order, in which only equal values tie: their kind decides first,
and within a kind the value. Turning that order round for the downward direction and putting
missing values at the end in both directions leaves a total preorder of rows. So rows have a
sorted form in which tied rows keep their order, and that is the form in which a listing shows
them.

## Main definitions

* `SortOrder.Puts` — a value may stand before another one in this direction
* `StablySorted` — a list is the sorted form of rows, with tied rows in their old order

## Main results

* `SortValue.instTransCmp`, `SortValue.instLawfulEqCmp` — the linear order of sort values
* `SortValue.isLE_compareIn_iff` — the order of rows, in terms of the order of values
* `sortRows_stablySorted` — sorting rows gives their sorted form
* `map_sortRows` — rows may be shown before they are sorted or after
-/

namespace Outlays

/-- Instants with the same code are the same instant. -/
theorem Instant.eq_of_code_eq {t t' : Instant} (h : t.code = t'.code) : t = t' := by
  obtain ⟨d, s, n, hs, hn⟩ := t
  obtain ⟨d', s', n', hs', hn'⟩ := t'
  simp only [Instant.code, nanosPerSecond] at h hn hn'
  obtain rfl : d = d' := Date.eq_of_code_eq (by omega)
  obtain rfl : s = s' := by omega
  obtain rfl : n = n' := by omega
  rfl

namespace SortValue

variable {u v w : SortValue}

/-! ## The linear order of sort values -/

/-- The whole number that orders the values of a kind. -/
def ordinal : SortValue → Int
  | .number k => k
  | .integer n => n
  | .instant t => t.code
  | .flag b => b.toNat
  | .missing | .text _ => 0

/-- The text that orders the values of a kind. -/
def words : SortValue → String
  | .text s => s
  | _ => ""

/-- The kind of a value decides first, then its number, then its text. -/
def lexicographic : SortValue → SortValue → Ordering :=
  compareLex (compareOn rank) (compareLex (compareOn ordinal) (compareOn words))

theorem compare_eq_lexicographic (u v : SortValue) : u.compare v = lexicographic u v := by
  -- Within a kind one of the two last comparisons is between equal constants.
  have then_eq (o : Ordering) : o = o.then .eq := by cases o <;> rfl
  cases u with
  | missing => cases v <;> rfl
  | number k =>
    cases v with
    | number l => exact then_eq (Ord.compare k l)
    | _ => rfl
  | integer m =>
    cases v with
    | integer n => exact then_eq (Ord.compare m n)
    | _ => rfl
  | text s => cases v <;> rfl
  | instant t =>
    cases v with
    | instant t' => exact then_eq (Ord.compare t.code t'.code)
    | _ => rfl
  | flag b =>
    cases v with
    | flag c => cases b <;> cases c <;> rfl
    | _ => rfl

instance instTransCmp : Std.TransCmp compare := by
  rw [funext₂ compare_eq_lexicographic]
  exact inferInstanceAs (Std.TransCmp (compareLex _ (compareLex _ _)))

/-- Only equal values tie. -/
instance instLawfulEqCmp : Std.LawfulEqCmp compare where
  eq_of_compare {u v} h := by
    rw [compare_eq_lexicographic] at h
    simp only [lexicographic, compareLex, compareOn, Ordering.then_eq_eq,
      Std.LawfulEqCmp.compare_eq_iff_eq] at h
    obtain ⟨hrank, hordinal, hwords⟩ := h
    cases u with
    | missing => cases v with
      | missing => rfl
      | _ => cases hrank
    | number k => cases v with
      | number l => exact congrArg _ hordinal
      | _ => cases hrank
    | integer m => cases v with
      | integer n => exact congrArg _ hordinal
      | _ => cases hrank
    | text s => cases v with
      | text t => exact congrArg _ hwords
      | _ => cases hrank
    | instant t => cases v with
      | instant t' => exact congrArg _ (Instant.eq_of_code_eq hordinal)
      | _ => cases hrank
    | flag b => cases v with
      | flag c => cases b <;> cases c <;> first | rfl | cases hordinal
      | _ => cases hrank

theorem compare_swap (u v : SortValue) : (v.compare u).swap = u.compare v :=
  Std.OrientedCmp.eq_swap.symm

end SortValue

/-! ## The order of rows -/

/-- In this direction the first value may stand before the second one. -/
def SortOrder.Puts : SortOrder → SortValue → SortValue → Prop
  | .ascending, u, v => (u.compare v).isLE
  | .descending, u, v => (v.compare u).isLE

namespace SortOrder

variable {order : SortOrder} {u v w : SortValue}

theorem isLE_apply_compare_iff : (order.apply (u.compare v)).isLE ↔ order.Puts u v := by
  cases order with
  | ascending => rfl
  | descending =>
    rw [apply, Puts, SortValue.compare_swap]

theorem Puts.trans (huv : order.Puts u v) (hvw : order.Puts v w) : order.Puts u w := by
  cases order with
  | ascending => exact Std.TransCmp.isLE_trans huv hvw
  | descending => exact Std.TransCmp.isLE_trans hvw huv

theorem Puts.antisymm (huv : order.Puts u v) (hvu : order.Puts v u) : u = v := by
  cases order with
  | ascending => exact Std.LawfulEqCmp.eq_of_compare (Std.OrientedCmp.isLE_antisymm huv hvu)
  | descending => exact Std.LawfulEqCmp.eq_of_compare (Std.OrientedCmp.isLE_antisymm hvu huv)

theorem puts_total (order : SortOrder) (u v : SortValue) : order.Puts u v ∨ order.Puts v u := by
  have total (u v : SortValue) : (u.compare v).isLE ∨ (v.compare u).isLE := by
    rw [← SortValue.compare_swap v u]
    cases u.compare v <;> simp
  cases order with
  | ascending => exact total u v
  | descending => exact total v u

end SortOrder

namespace SortValue

variable {order : SortOrder} {u v w : SortValue}

/-- Every row may stand before one without a value, and none of those before another row. -/
theorem isLE_compareIn_iff :
    (compareIn order u v).isLE ↔ v = .missing ∨ u ≠ .missing ∧ order.Puts u v := by
  by_cases hu : u = .missing
  · subst hu
    cases v <;> simp [compareIn]
  · by_cases hv : v = .missing
    · subst hv
      cases u <;> simp [compareIn]
    · have both : compareIn order u v = order.apply (u.compare v) := by
        cases u <;> cases v <;> first | rfl | contradiction
      rw [both, SortOrder.isLE_apply_compare_iff]
      simp [hu, hv]

theorem compareIn_trans (huv : (compareIn order u v).isLE) (hvw : (compareIn order v w).isLE) :
    (compareIn order u w).isLE := by
  rw [isLE_compareIn_iff] at *
  rcases hvw with rfl | ⟨hv, hvw⟩
  · exact .inl rfl
  · rcases huv with rfl | ⟨hu, huv⟩
    · exact absurd rfl hv
    · exact .inr ⟨hu, huv.trans hvw⟩

theorem compareIn_total (order : SortOrder) (u v : SortValue) :
    (compareIn order u v).isLE || (compareIn order v u).isLE := by
  rw [Bool.or_eq_true, isLE_compareIn_iff, isLE_compareIn_iff]
  by_cases hu : u = .missing
  · exact .inr (.inl hu)
  · by_cases hv : v = .missing
    · exact .inl (.inl hv)
    · exact (order.puts_total u v).imp (fun h => .inr ⟨hu, h⟩) fun h => .inr ⟨hv, h⟩

end SortValue

/-! ## Sorted forms -/

variable {ρ τ : Type}

/-- The list `out` is the sorted form of `rows`: the rows that have a value come first, in order,
then those without one. Rows with the same value keep the order they had. -/
structure StablySorted (order : SortOrder) (value : ρ → SortValue) (rows out : List ρ) :
    Prop where
  perm : out.Perm rows
  ordered : (out.filter fun r => value r ≠ .missing).Pairwise fun r r' =>
    order.Puts (value r) (value r')
  missing_last : out =
    out.filter (fun r => value r ≠ .missing) ++ rows.filter fun r => value r = .missing
  ties : ∀ v, (out.filter fun r => value r = v) = rows.filter fun r => value r = v

/-- A list in which nothing outside `p` stands before something in `p` is its part in `p`
followed by the rest. -/
theorem filter_append_filter_of_pairwise {p : ρ → Bool} {l : List ρ}
    (h : l.Pairwise fun a b => p b → p a) : l.filter p ++ l.filter (fun a => !p a) = l := by
  induction l with
  | nil => rfl
  | cons a l ih =>
    obtain ⟨ha, hl⟩ := List.pairwise_cons.mp h
    cases hp : p a with
    | true => simpa [hp] using ih hl
    | false =>
      have none_in : ∀ b ∈ l, p b = false := by
        intro b hb
        cases hb' : p b with
        | false => rfl
        | true => simp [ha b hb hb'] at hp
      have hin : l.filter p = [] := List.filter_eq_nil_iff.mpr (by simpa using none_in)
      have hout : l.filter (fun b => !p b) = l := List.filter_eq_self.mpr (by simpa using none_in)
      simp [hp, hin, hout]

section Sorting

variable (order : SortOrder) (value : ρ → SortValue) (rows : List ρ)

/-- The row `r` may stand before the row `r'`. -/
def rowLE (r r' : ρ) : Bool := ((value r).compareIn order (value r')).isLE

theorem rowLE_trans (r r' r'' : ρ) (h : rowLE order value r r') (h' : rowLE order value r' r'') :
    rowLE order value r r'' :=
  SortValue.compareIn_trans h h'

theorem rowLE_total (r r' : ρ) : rowLE order value r r' || rowLE order value r' r :=
  SortValue.compareIn_total order (value r) (value r')

theorem sortRows_perm : (sortRows order value rows).Perm rows := List.mergeSort_perm _ _

theorem sortRows_pairwise :
    (sortRows order value rows).Pairwise fun r r' => rowLE order value r r' :=
  List.pairwise_mergeSort (rowLE_trans order value) (rowLE_total order value) rows

/-- Rows with one value are a sorted part of the rows already, and sorting keeps such a part. -/
theorem filter_sortRows_eq (v : SortValue) :
    ((sortRows order value rows).filter fun r => value r = v) =
      rows.filter fun r => value r = v := by
  have sorted : (rows.filter fun r => value r = v).Pairwise fun r r' =>
      rowLE order value r r' := by
    refine List.pairwise_of_forall_mem_list ?_
    intro r hr r' hr'
    simp only [List.mem_filter, decide_eq_true_eq] at hr hr'
    rw [rowLE, hr.2, hr'.2]
    simpa using SortValue.compareIn_total order v v
  have part := (List.sublist_mergeSort (rowLE_trans order value) (rowLE_total order value) sorted
    List.filter_sublist).filter fun r => value r = v
  rw [List.filter_filter] at part
  simp only [Bool.and_self] at part
  exact (part.eq_of_length ((sortRows_perm order value rows).filter _).length_eq.symm).symm

/-- Sorting rows gives their sorted form. -/
theorem sortRows_stablySorted : StablySorted order value rows (sortRows order value rows) where
  perm := sortRows_perm order value rows
  ordered := by
    refine ((sortRows_pairwise order value rows).filter _).imp_of_mem ?_
    intro r r' _ hr' h
    rw [rowLE, SortValue.isLE_compareIn_iff] at h
    exact (h.resolve_left (by simpa using (List.mem_filter.mp hr').2)).2
  missing_last := by
    have split := filter_append_filter_of_pairwise (p := fun r => value r ≠ .missing)
      ((sortRows_pairwise order value rows).imp fun {r r'} h => by
        rw [rowLE, SortValue.isLE_compareIn_iff] at h
        simpa using fun hr' => (h.resolve_left hr').1)
    rw [← filter_sortRows_eq order value rows]
    simpa using split.symm
  ties := filter_sortRows_eq order value rows

/-- Rows may be shown before they are sorted or after. -/
theorem map_sortRows (f : ρ → τ) (value : τ → SortValue) :
    (sortRows order (fun r => value (f r)) rows).map f = sortRows order value (rows.map f) :=
  List.map_mergeSort fun _ _ _ _ => rfl

end Sorting

end Outlays

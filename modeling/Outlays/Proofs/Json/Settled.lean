import Mathlib.Data.List.Basic
import Outlays.Json.Basic

/-!
# Values as they are kept

A value that is kept has the names of each object in increasing order, each once, and every part of
it denotes something. Settling a value brings it into this form and is done with it: what is settled
stays as it is.

## Main definitions

* `Json.Kept` — values as they are kept

## Main results

* `Json.settled_settled` — settling changes nothing the second time
* `Json.kept_settled` — a value is kept once it is settled
-/

namespace Outlays.Json

/-- A value as it is kept: every part of it denotes something, and names of fields increase. -/
structure Kept (j : Json) : Prop where
  readable : j.isReadable = true
  settled : j.settled = j

/-- The names of the fields increase, so that each stands once. -/
def Increasing (fields : List (String × Json)) : Prop := fields.Pairwise fun f g => f.1 < g.1

variable {name : String} {value : Json} {fields done : List (String × Json)}

/-! ## Putting fields in their places -/

theorem mem_of_mem_putField {f : String × Json} (h : f ∈ putField name value fields) :
    f = (name, value) ∨ f ∈ fields := by
  induction fields with
  | nil => exact .inl (List.mem_singleton.mp h)
  | cons g fields ih =>
    rw [putField] at h
    split_ifs at h
    · exact (List.mem_cons.mp h).imp_right (List.mem_cons_of_mem _)
    · exact List.mem_cons.mp h
    · obtain rfl | h := List.mem_cons.mp h
      · exact .inr List.mem_cons_self
      · exact (ih h).imp_right (List.mem_cons_of_mem _)

theorem Increasing.putField (h : Increasing fields) : Increasing (putField name value fields) := by
  induction fields with
  | nil => exact List.pairwise_singleton _ _
  | cons g fields ih =>
    obtain ⟨hfirst, hrest⟩ := List.pairwise_cons.mp h
    rw [Json.putField]
    split_ifs with heq hlt
    · obtain rfl : g.1 = name := beq_iff_eq.mp heq
      exact List.pairwise_cons.mpr ⟨hfirst, hrest⟩
    · refine List.pairwise_cons.mpr ⟨fun f hf => ?_, h⟩
      obtain rfl | hf := List.mem_cons.mp hf
      · exact hlt
      · exact String.lt_trans hlt (hfirst f hf)
    · -- The name is neither the first one nor before it, so it comes later.
      have hgt : g.1 < name := by
        have hne : g.1 ≠ name := fun h => heq (beq_iff_eq.mpr h)
        exact Std.lt_of_le_of_ne (String.not_lt.mp hlt) hne
      refine List.pairwise_cons.mpr ⟨fun f hf => ?_, ih hrest⟩
      obtain rfl | hf := mem_of_mem_putField hf
      · exact hgt
      · exact hfirst f hf

/-- A name beyond all others is put at the end. -/
theorem putField_eq_append (h : ∀ f ∈ done, f.1 < name) :
    putField name value done = done ++ [(name, value)] := by
  induction done with
  | nil => rfl
  | cons g done ih =>
    obtain ⟨hg, hdone⟩ := List.forall_mem_cons.mp h
    have hne : (g.1 == name) = false :=
      beq_eq_false_iff_ne.mpr fun heq => String.lt_irrefl name (heq ▸ hg)
    rw [putField, hne, if_neg Bool.false_ne_true, if_neg (String.lt_asymm hg), ih hdone]
    rfl

/-! ## Settling -/

theorem increasing_settledFields (h : Increasing done) : Increasing (settledFields done fields) := by
  induction fields generalizing done with
  | nil => exact h
  | cons f fields ih => exact ih h.putField

/-- What holds of the values that are there and of those that are put holds of all. -/
theorem forall_mem_settledFields {P : Json → Prop} (hdone : ∀ f ∈ done, P f.2)
    (h : ∀ f ∈ fields, P f.2.settled) : ∀ f ∈ settledFields done fields, P f.2 := by
  induction fields generalizing done with
  | nil => exact hdone
  | cons g fields ih =>
    obtain ⟨hg, hfields⟩ := List.forall_mem_cons.mp h
    refine ih (fun f hf => ?_) hfields
    obtain rfl | hf := mem_of_mem_putField hf
    · exact hg
    · exact hdone f hf

/-- Fields whose names increase and whose values are settled stay as they are, behind others of
smaller names. -/
theorem settledFields_eq_append (hnames : Increasing (done ++ fields))
    (hvalues : ∀ f ∈ fields, f.2.settled = f.2) : settledFields done fields = done ++ fields := by
  induction fields generalizing done with
  | nil => rw [settledFields, List.append_nil]
  | cons f fields ih =>
    obtain ⟨hf, hfields⟩ := List.forall_mem_cons.mp hvalues
    have hlast : ∀ g ∈ done, g.1 < f.1 := fun g hg =>
      (List.pairwise_append.mp hnames).2.2 g hg f List.mem_cons_self
    rw [List.append_cons] at hnames
    rw [settledFields, hf, putField_eq_append hlast, ih hnames hfields, ← List.append_cons]

mutual

/-- Settling changes nothing the second time. -/
theorem settled_settled : ∀ j : Json, j.settled.settled = j.settled
  | .null | .bool _ | .num _ | .str _ | .unreadable => rfl
  | .arr items => congrArg arr (settledItems_settledItems items)
  | .obj fields =>
    congrArg obj (settledFields_eq_append (increasing_settledFields List.Pairwise.nil)
      (forall_mem_settledFields (P := fun j => j.settled = j) nofun
        (settled_settled_of_mem fields)))

theorem settledItems_settledItems : ∀ items : List Json,
    settledItems (settledItems items) = settledItems items
  | [] => rfl
  | j :: items => congrArg₂ List.cons (settled_settled j) (settledItems_settledItems items)

theorem settled_settled_of_mem : ∀ (fields : List (String × Json)),
    ∀ f ∈ fields, f.2.settled.settled = f.2.settled
  | [] => nofun
  | (_, j) :: fields =>
    List.forall_mem_cons.mpr ⟨settled_settled j, settled_settled_of_mem fields⟩

end

theorem fieldsReadable_iff : fieldsReadable fields = true ↔ ∀ f ∈ fields, f.2.isReadable = true := by
  induction fields with
  | nil => simp [fieldsReadable]
  | cons f fields ih => rw [fieldsReadable, Bool.and_eq_true, ih, List.forall_mem_cons]

mutual

/-- Of a value that denotes something, what stays does. -/
theorem isReadable_settled : ∀ j : Json, j.isReadable = true → j.settled.isReadable = true
  | .null, h | .bool _, h | .num _, h | .str _, h | .unreadable, h => h
  | .arr items, h => areReadable_settledItems items h
  | .obj fields, h =>
    fieldsReadable_iff.mpr
      (forall_mem_settledFields (P := fun j => j.isReadable = true) nofun
        (isReadable_settled_of_mem fields h))

theorem areReadable_settledItems : ∀ items : List Json,
    areReadable items = true → areReadable (settledItems items) = true
  | [], h => h
  | j :: items, h => by
    rw [areReadable, Bool.and_eq_true] at h
    rw [settledItems, areReadable, isReadable_settled j h.1, areReadable_settledItems items h.2,
      Bool.and_self]

theorem isReadable_settled_of_mem : ∀ (fields : List (String × Json)),
    fieldsReadable fields = true → ∀ f ∈ fields, f.2.settled.isReadable = true
  | [], _ => nofun
  | (_, j) :: fields, h => by
    rw [fieldsReadable, Bool.and_eq_true] at h
    exact List.forall_mem_cons.mpr
      ⟨isReadable_settled j h.1, isReadable_settled_of_mem fields h.2⟩

end

/-- A value that denotes something is kept once it is settled. -/
theorem kept_settled {j : Json} (h : j.isReadable = true) : j.settled.Kept :=
  ⟨isReadable_settled j h, settled_settled j⟩

end Outlays.Json

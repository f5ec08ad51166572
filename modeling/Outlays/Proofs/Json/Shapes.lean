import Outlays.Proofs.Json.Records

/-!
# Records by their shape

Which values are records of a shape, and what they have for each declared field. An object has a
field under one of its names, once; unknown names say nothing, in any order. An array has the fields
in the order in which they are declared. A field that is nowhere has to be one that may be missing,
and in an array one that has a default. The reader of records accepts these values and no others, so
that whoever reads a record need not know how it is read.

## Main definitions

* `Json.Fills`, `Json.FillsInOrder`, `Json.HasShape` — the values that a record has for its fields
* `Json.given`, `Json.Mixed` — fields in any order, with others that say nothing

## Main results

* `Json.Record.bind_read_eq_ok_iff` — reading a record, and then its fields
* `Json.Mixed.hasShape` — a record is read from fields in any order
* `Json.Reader.any_eq_ok_iff`, `Json.Reader.list_eq_ok_iff`, `Json.Reader.variant_eq_ok_iff` —
  reading a value, a list and a name
-/

namespace Outlays.Json

/-! ## What a record has for its fields -/

/-- The fields of an object have this value for a slot: one field has a name of the slot, or none
has and the slot may be missing. -/
inductive Fills (fields : List (String × Json)) (slot : Slot) : Option Json → Prop where
  | given {v : Json} (once : (fields.filter fun f => slot.accepts f.1).map (·.2) = [v]) :
      Fills fields slot (some v)
  | missing (nowhere : ∀ f ∈ fields, slot.accepts f.1 = false) (may : slot.absence ≠ .refused) :
      Fills fields slot none

/-- The items of an array have these values for slots, one after the other. -/
inductive FillsInOrder : Shape → List Json → List (Option Json) → Prop where
  | nil : FillsInOrder [] [] []
  | given {slot : Slot} {shape : Shape} {v : Json} {items : List Json} {vs : List (Option Json)}
      (others : FillsInOrder shape items vs) :
      FillsInOrder (slot :: shape) (v :: items) (some v :: vs)
  | missing {slot : Slot} {shape : Shape} {vs : List (Option Json)}
      (filled : slot.absence = .filled) (others : FillsInOrder shape [] vs) :
      FillsInOrder (slot :: shape) [] (none :: vs)

/-- The value is a record of the shape, with these values for its slots. -/
inductive HasShape (shape : Shape) : Json → List (Option Json) → Prop where
  | object {fields : List (String × Json)} {vs : List (Option Json)}
      (fills : List.Forall₂ (Fills fields) shape vs) : HasShape shape (.obj fields) vs
  | array {items : List Json} {vs : List (Option Json)} (fills : FillsInOrder shape items vs) :
      HasShape shape (.arr items) vs

/-- The value for a slot under its usual name, if there is one. -/
def entry (slot : Slot) (v : Option Json) : List (String × Json) := (v.map (slot.name, ·)).toList

namespace Record

variable {shape : Shape} {fields : List (String × Json)} {slot : Slot} {r : Record} {j : Json}

/-! ## Reading records -/

theorem fromFields_eq_ok_iff {part : List (String × Json)} :
    fromFields fields slot = .ok part ↔ ∃ v, Fills fields slot v ∧ entry slot v = part := by
  have hnil : valuesFor fields slot = [] ↔ ∀ f ∈ fields, slot.accepts f.1 = false := by
    simp [valuesFor]
  rw [fromFields]
  split
  · next v hvalues =>
    constructor
    · rintro ⟨⟩
      exact ⟨some v, .given hvalues, rfl⟩
    · rintro ⟨_, ⟨once⟩ | ⟨nowhere, -⟩, rfl⟩
      · obtain rfl : _ = v := by simpa using once.symm.trans hvalues
        rfl
      · rw [hnil.mpr nowhere] at hvalues
        cases hvalues
  · next hvalues =>
    have hnone {v : Json} : (fields.filter fun f => slot.accepts f.1).map (·.2) ≠ [v] := by
      rw [show (fields.filter fun f => slot.accepts f.1).map (·.2) = [] from hvalues]
      exact (List.cons_ne_nil v []).symm
    split
    · next hrefused =>
      refine iff_of_false (by rintro ⟨⟩) ?_
      rintro ⟨_, ⟨once⟩ | ⟨-, may⟩, -⟩
      · exact hnone once
      · exact may hrefused
    · next may =>
      constructor
      · rintro ⟨⟩
        exact ⟨none, .missing (hnil.mp hvalues) may, rfl⟩
      · rintro ⟨_, ⟨once⟩ | ⟨-, -⟩, rfl⟩
        · exact absurd once hnone
        · rfl
  · next hone hnone =>
    refine iff_of_false (by rintro ⟨⟩) ?_
    rintro ⟨_, ⟨once⟩ | ⟨nowhere, -⟩, -⟩
    · exact hone _ once
    · exact hnone (hnil.mpr nowhere)

theorem fromItems_eq_ok_iff {items : List Json} {given : List (String × Json)} :
    fromItems shape items = .ok given ↔
      ∃ vs, FillsInOrder shape items vs ∧ (List.zipWith entry shape vs).flatten = given := by
  constructor
  · intro h
    induction shape generalizing items given with
    | nil =>
      cases items with
      | nil =>
        cases h
        exact ⟨[], .nil, rfl⟩
      | cons v items => cases h
    | cons slot shape ih =>
      cases items with
      | nil =>
        rw [fromItems] at h
        split at h
        · next hfilled =>
          obtain ⟨vs, hvs, rfl⟩ := ih h
          exact ⟨none :: vs, .missing hfilled hvs, rfl⟩
        · cases h
      | cons v items =>
        rw [fromItems] at h
        obtain ⟨rest, hrest, rfl⟩ := exists_of_map_eq_ok h
        obtain ⟨vs, hvs, rfl⟩ := ih hrest
        exact ⟨some v :: vs, .given hvs, rfl⟩
  · rintro ⟨vs, hvs, rfl⟩
    induction hvs with
    | nil => rfl
    | given _ ih =>
      rw [fromItems, ih]
      rfl
    | missing filled _ ih =>
      rw [fromItems, if_pos filled, ih]
      rfl

theorem fromFields_all_eq_ok_iff {parts : List (List (String × Json))} :
    shape.mapM (fromFields fields) = .ok parts ↔
      ∃ vs, List.Forall₂ (Fills fields) shape vs ∧ List.zipWith entry shape vs = parts := by
  rw [mapM_eq_ok_iff]
  constructor
  · intro h
    induction h with
    | nil => exact ⟨[], .nil, rfl⟩
    | cons hpart _ ih =>
      obtain ⟨v, hv, rfl⟩ := fromFields_eq_ok_iff.mp hpart
      obtain ⟨vs, hvs, rfl⟩ := ih
      exact ⟨v :: vs, .cons hv hvs, rfl⟩
  · rintro ⟨vs, hvs, rfl⟩
    induction hvs with
    | nil => exact .nil
    | cons hv _ ih => exact .cons (fromFields_eq_ok_iff.mpr ⟨_, hv, rfl⟩) ih

/-- The reader of records accepts the values of the shape, and keeps what they have. -/
theorem read_eq_ok_iff : read shape j = .ok r ↔
    ∃ vs, HasShape shape j vs ∧ (List.zipWith entry shape vs).flatten = r.given := by
  cases j with
  | obj fields =>
    rw [read]
    constructor
    · intro h
      obtain ⟨parts, hparts, rfl⟩ := exists_of_map_eq_ok h
      obtain ⟨vs, hvs, rfl⟩ := fromFields_all_eq_ok_iff.mp hparts
      exact ⟨vs, .object hvs, rfl⟩
    · rintro ⟨vs, ⟨fills⟩, hgiven⟩
      rw [fromFields_all_eq_ok_iff.mpr ⟨vs, fills, rfl⟩]
      exact congrArg (fun given => Except.ok (mk given)) hgiven
  | arr items =>
    rw [read]
    constructor
    · intro h
      obtain ⟨given, hgiven, rfl⟩ := exists_of_map_eq_ok h
      obtain ⟨vs, hvs, rfl⟩ := fromItems_eq_ok_iff.mp hgiven
      exact ⟨vs, .array hvs, rfl⟩
    · rintro ⟨vs, ⟨⟩ | ⟨fills⟩, hgiven⟩
      rw [fromItems_eq_ok_iff.mpr ⟨vs, fills, rfl⟩]
      exact congrArg (fun given => Except.ok (mk given)) hgiven
  | _ =>
    refine iff_of_false nofun ?_
    rintro ⟨vs, ⟨⟩, -⟩

/-! ## The fields of a record -/

theorem filter_entry_of_ne {name : String} (h : slot.name ≠ name) (v : Option Json) :
    (entry slot v).filter (fun e => e.1 == name) = [] := by
  cases v <;> simp [entry, h]

theorem filter_entry (slot : Slot) (v : Option Json) :
    ((entry slot v).filter fun e => e.1 == slot.name).map (·.2) = v.toList := by
  cases v <;> simp [entry]

/-- Under a name that no slot has there is nothing. -/
theorem filter_entries_eq_nil {name : String} (h : ∀ slot ∈ shape, slot.name ≠ name)
    (vs : List (Option Json)) :
    (List.zipWith entry shape vs).flatten.filter (fun e => e.1 == name) = [] := by
  induction shape generalizing vs with
  | nil => rfl
  | cons slot shape ih =>
    obtain ⟨hslot, hshape⟩ := List.forall_mem_cons.mp h
    cases vs with
    | nil => rfl
    | cons v vs =>
      rw [List.zipWith_cons_cons, List.flatten_cons, List.filter_append, filter_entry_of_ne hslot,
        ih hshape, List.append_nil]

theorem length_eq_of_hasShape {vs : List (Option Json)} (h : HasShape shape j vs) :
    shape.length = vs.length := by
  cases h with
  | object fills => exact fills.length_eq
  | array fills =>
    induction fills with
    | nil => rfl
    | given _ ih => rw [List.length_cons, List.length_cons, ih]
    | missing _ _ ih => rw [List.length_cons, List.length_cons, ih]

/-- Where no two slots share a name, there is nothing but its own value under the name of each. -/
theorem forall₂_filter_entries (hnames : shape.Pairwise fun s t => s.name ≠ t.name)
    {vs : List (Option Json)} (hlength : shape.length = vs.length) :
    List.Forall₂ (fun slot v =>
      ((List.zipWith entry shape vs).flatten.filter fun e => e.1 == slot.name).map (·.2) = v.toList)
      shape vs := by
  -- By induction on the shape, with entries of other names before it.
  suffices h : ∀ front : List (String × Json),
      (∀ slot ∈ shape, front.filter (fun e => e.1 == slot.name) = []) →
        List.Forall₂ (fun slot v =>
          ((front ++ (List.zipWith entry shape vs).flatten).filter fun e => e.1 == slot.name).map
            (·.2) = v.toList) shape vs from
    h [] fun _ _ => rfl
  induction shape generalizing vs with
  | nil =>
    intro _ _
    obtain rfl : vs = [] := List.eq_nil_of_length_eq_zero hlength.symm
    exact .nil
  | cons slot shape ih =>
    intro front hfront
    obtain ⟨v, vs, rfl⟩ := List.exists_cons_of_length_eq_add_one hlength.symm
    obtain ⟨hslot, hnames⟩ := List.pairwise_cons.mp hnames
    obtain ⟨hhere, hfront⟩ := List.forall_mem_cons.mp hfront
    rw [List.zipWith_cons_cons, List.flatten_cons, ← List.append_assoc]
    refine .cons ?_ (ih hnames (Nat.succ.inj hlength) _ fun other hother => ?_)
    · have hnil := filter_entries_eq_nil (fun other hother => (hslot other hother).symm) vs
      rw [List.filter_append, List.filter_append, hhere, hnil, List.nil_append, List.append_nil,
        filter_entry]
    · rw [List.filter_append, hfront other hother, filter_entry_of_ne (hslot other hother),
        List.append_nil]

/-- So each slot has its own value. -/
theorem forall₂_value? (hnames : shape.Pairwise fun s t => s.name ≠ t.name)
    {vs : List (Option Json)} (hlength : shape.length = vs.length) :
    List.Forall₂ (fun slot v => (mk (List.zipWith entry shape vs).flatten).value? slot.name = v)
      shape vs := by
  refine (forall₂_filter_entries hnames hlength).imp fun slot v h => ?_
  rw [value?, ← List.head?_filter, ← List.head?_map, h, Option.head?_toList]

/-- To read a record and then its fields is to read the values that it has for them. -/
theorem bind_read_eq_ok_iff {α : Type} {f : Record → Except String α} {a : α}
    {P : List (Option Json) → Prop} (hnames : shape.Pairwise fun s t => s.name ≠ t.name)
    (hf : ∀ r vs, List.Forall₂ (fun slot v => r.value? slot.name = v) shape vs →
      (f r = .ok a ↔ P vs)) :
    (read shape j >>= f) = .ok a ↔ ∃ vs, HasShape shape j vs ∧ P vs := by
  rw [bind_eq_ok_iff]
  constructor
  · rintro ⟨r, hread, hr⟩
    obtain ⟨vs, hvs, hgiven⟩ := read_eq_ok_iff.mp hread
    have hvalues := forall₂_value? hnames (length_eq_of_hasShape hvs)
    rw [hgiven] at hvalues
    exact ⟨vs, hvs, (hf r vs hvalues).mp hr⟩
  · rintro ⟨vs, hvs, hP⟩
    exact ⟨_, read_eq_ok_iff.mpr ⟨vs, hvs, rfl⟩,
      (hf _ vs (forall₂_value? hnames (length_eq_of_hasShape hvs))).mpr hP⟩

variable {name : String} {α : Type} {item : Reader α}

theorem need_eq_ok_iff {a : α} :
    r.need name item = .ok a ↔ ∃ v, r.value? name = some v ∧ item v = .ok a := by
  rw [need]
  cases r.value? name <;> simp

theorem orElse_eq_ok_iff {default a : α} : r.orElse name default item = .ok a ↔
    (r.value? name = none ∧ default = a) ∨ ∃ v, r.value? name = some v ∧ item v = .ok a := by
  rw [orElse]
  cases r.value? name <;> simp

theorem may_eq_ok_iff {a : Option α} : r.may name item = .ok a ↔
    (r.value? name = none ∧ a = none) ∨
      ∃ v, r.value? name = some v ∧ Reader.nullable item v = .ok a := by
  rw [may]
  cases r.value? name <;> simp [eq_comm]

end Record

/-! ## Reading values -/

namespace Reader

variable {α : Type} {read : Reader α} {j : Json}

theorem text_eq_ok_iff {s : String} : text j = .ok s ↔ j = .str s := by
  cases j <;> simp [text]

/-- Any value is read that denotes something and is not too deep. -/
theorem any_eq_ok_iff {bound : Nat} {d : Json} :
    any bound j = .ok d ↔ (j.isReadable = true ∧ j.depth < bound) ∧ j.settled = d := by
  rw [any]
  by_cases h : j.isReadable = true ∧ j.depth < bound
  · simp [h]
  · have hnot : (j.isReadable && decide (j.depth < bound)) = false := by simpa using h
    simp only [hnot, h, Bool.false_eq_true, if_false, false_and, reduceCtorEq]

/-- A list is read item by item. -/
theorem list_eq_ok_iff {as : List α} : list read j = .ok as ↔
    ∃ items, j = .arr items ∧ List.Forall₂ (fun item a => read item = .ok a) items as := by
  cases j with
  | arr items =>
    rw [list, mapM_eq_ok_iff]
    simp
  | _ => simp [list]

theorem nullable_eq_ok_iff {a : Option α} : nullable read j = .ok a ↔
    (j = .null ∧ a = none) ∨ ∃ b, j ≠ .null ∧ read j = .ok b ∧ a = some b := by
  have hsome (hj : j ≠ .null) (h : nullable read j = (read j).map some) :
      nullable read j = .ok a ↔
        (j = .null ∧ a = none) ∨ ∃ b, j ≠ .null ∧ read j = .ok b ∧ a = some b := by
    rw [h]
    constructor
    · intro h
      obtain ⟨b, hb, rfl⟩ := exists_of_map_eq_ok h
      exact .inr ⟨b, hj, hb, rfl⟩
    · rintro (⟨hnull, -⟩ | ⟨b, -, hb, rfl⟩)
      · exact absurd hnull hj
      · rw [hb]
        rfl
  cases j with
  | null => simp [nullable, eq_comm]
  | _ => exact hsome nofun rfl

end Reader

/-- The value is a name: as a text, or as the only field of an object, with null as its value. -/
def IsName (j : Json) (name : String) : Prop := j = .str name ∨ j = .obj [(name, .null)]

/-- Where each of several values has one name, a name is read as the value that has it. -/
theorem Reader.variant_eq_ok_iff {α : Type} {cases : List (String × α)} {nameOf : α → String}
    (hnames : ∀ c ∈ cases, c.1 = nameOf c.2)
    (hfind : ∀ a, cases.find? (·.1 == nameOf a) = some (nameOf a, a)) {j : Json} {a : α} :
    variant cases j = .ok a ↔ IsName j (nameOf a) := by
  have hname {name : String} {c : String × α} (hc : cases.find? (·.1 == name) = some c) :
      name = nameOf c.2 := by
    have hfound := List.find?_some hc
    rw [← hnames c (List.mem_of_find?_eq_some hc), beq_iff_eq.mp hfound]
  constructor
  · intro h
    unfold variant at h
    split at h
    · dsimp only at h
      split at h
      · next hc =>
        obtain rfl := Except.ok.inj h
        exact .inl (congrArg Json.str (hname hc))
      · cases h
    · dsimp only at h
      split at h
      · next hc =>
        obtain rfl := Except.ok.inj h
        exact .inr (by rw [hname hc])
      · cases h
    · cases h
  · rintro (rfl | rfl)
    · simp [variant, hfind]
    · simp [variant, hfind]

/-! ## Fields in any order -/

/-- The fields that are given, under their names. -/
def given (fields : List (String × Option Json)) : List (String × Json) :=
  fields.flatMap fun f => (f.2.map (f.1, ·)).toList

/-- The fields of an object are these, in any order, with others that have none of the names. -/
def Mixed (names : List String) (own fields : List (String × Json)) : Prop :=
  ∃ others, fields.Perm (own ++ others) ∧ ∀ f ∈ others, f.1 ∉ names

theorem mixed_refl (names : List String) (own : List (String × Json)) : Mixed names own own :=
  ⟨[], by rw [List.append_nil], nofun⟩

/-- What stands under a name in any order stands there in one. -/
theorem Mixed.filter_perm {names : List String} {own fields : List (String × Json)}
    (h : Mixed names own fields) {name : String} (hname : name ∈ names) :
    (fields.filter fun f => f.1 == name).Perm (own.filter fun f => f.1 == name) := by
  obtain ⟨others, hperm, hothers⟩ := h
  have hnone : others.filter (fun f => f.1 == name) = [] := by
    rw [List.filter_eq_nil_iff]
    rintro f hf heq
    exact hothers f hf (beq_iff_eq.mp heq ▸ hname)
  have hkept := hperm.filter fun f => f.1 == name
  rwa [List.filter_append, hnone, List.append_nil] at hkept

/-- A slot with one name is filled with the one value under it, or may go without. -/
theorem Mixed.fills {names : List String} {own fields : List (String × Json)}
    (h : Mixed names own fields) {slot : Slot} (hslot : slot.name ∈ names)
    (hothers : slot.others = []) {v : Option Json}
    (hown : (own.filter fun f => f.1 == slot.name).map (·.2) = v.toList)
    (hmissing : v = none → slot.absence ≠ .refused) : Fills fields slot v := by
  have haccepts : (fun f : String × Json => slot.accepts f.1) = fun f => f.1 == slot.name := by
    funext f
    rw [Slot.accepts, hothers, List.contains_nil, Bool.or_false, Bool.beq_comm]
  have hperm := (h.filter_perm hslot).map (·.2)
  rw [hown, ← haccepts] at hperm
  cases v with
  | some v => exact .given (List.perm_singleton.mp hperm)
  | none =>
    have hnil := List.perm_nil.mp hperm
    rw [List.map_eq_nil_iff, List.filter_eq_nil_iff] at hnil
    exact .missing (fun f hf => by simpa using hnil f hf) (hmissing rfl)

/-- Slots with one name each are filled with the values under it, in whatever order they stand. -/
theorem Mixed.hasShape {shape : Shape} {vs : List (Option Json)} {fields : List (String × Json)}
    (h : Mixed (shape.map (·.name)) (List.zipWith entry shape vs).flatten fields)
    (hnames : shape.Pairwise fun s t => s.name ≠ t.name)
    (hothers : ∀ slot ∈ shape, slot.others = [])
    (hmissing : List.Forall₂ (fun slot v => v = none → slot.absence ≠ .refused) shape vs) :
    HasShape shape (.obj fields) vs := by
  -- In the usual order each name stands where it should; other orders are permutations of it.
  have hown := Record.forall₂_filter_entries hnames hmissing.length_eq
  refine .object (List.forall₂_iff_get.mpr ⟨hmissing.length_eq, fun i hi hi' => ?_⟩)
  have hmem := List.get_mem shape ⟨i, hi⟩
  exact h.fills (List.mem_map_of_mem hmem) (hothers _ hmem) (hown.get hi hi')
    (hmissing.get hi hi')

end Outlays.Json

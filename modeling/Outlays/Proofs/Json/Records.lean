import Outlays.Json.Reader
import Outlays.Proofs.Results

/-!
# Values and records as data

Two values are the same if they are written alike, which can be decided.

A record that has been read has, under the name of each field, the value that the object gives
under that name: a name that is known stands once, or there is no record. So whoever knows the
fields of an object knows what any reader makes of them, unless the reader refuses it.

## Main results

* `Json.same_iff` — equality of values is decidable
* `Json.Record.value?_of_read` — the value of a field in a record that has been read
* `Json.Record.need_of_read`, `Json.Record.may_of_read`, `Json.Record.orElse_of_read` — and what
  is made of it
-/

namespace Outlays

/-! ## Equality of values -/

deriving instance DecidableEq for Json.Number

namespace Json

mutual

/-- The values are the same, part by part. -/
def same : Json → Json → Bool
  | .null, .null => true
  | .bool a, .bool b => a == b
  | .num m, .num n => decide (m = n)
  | .str s, .str t => s == t
  | .arr items, .arr others => sameItems items others
  | .obj fields, .obj others => sameFields fields others
  | .unreadable, .unreadable => true
  | _, _ => false

/-- The items are the same, one by one. -/
def sameItems : List Json → List Json → Bool
  | [], [] => true
  | j :: items, k :: others => same j k && sameItems items others
  | _, _ => false

/-- The fields have the same names and values, one by one. -/
def sameFields : List (String × Json) → List (String × Json) → Bool
  | [], [] => true
  | f :: fields, g :: others => f.1 == g.1 && same f.2 g.2 && sameFields fields others
  | _, _ => false

end

mutual

theorem same_iff : ∀ j k : Json, same j k = true ↔ j = k
  | .null, k => by cases k <;> simp [same]
  | .bool a, k => by cases k <;> simp [same]
  | .num m, k => by cases k <;> simp [same]
  | .str s, k => by cases k <;> simp [same]
  | .arr items, k => by cases k <;> simp [same, sameItems_iff items]
  | .obj fields, k => by cases k <;> simp [same, sameFields_iff fields]
  | .unreadable, k => by cases k <;> simp [same]

theorem sameItems_iff : ∀ items others : List Json, sameItems items others = true ↔ items = others
  | [], others => by cases others <;> simp [sameItems]
  | j :: items, others => by
    cases others with
    | nil => simp [sameItems]
    | cons k others => simp [sameItems, same_iff j, sameItems_iff items]

theorem sameFields_iff : ∀ fields others : List (String × Json),
    sameFields fields others = true ↔ fields = others
  | [], others => by cases others <;> simp [sameFields]
  | (name, j) :: fields, others => by
    cases others with
    | nil => simp [sameFields]
    | cons g others =>
      obtain ⟨name', k⟩ := g
      simp [sameFields, same_iff j, sameFields_iff fields, and_assoc]

end

instance : DecidableEq Json := fun j k => decidable_of_iff _ (same_iff j k)

end Json

/-! ## Records -/

namespace Json.Record

variable {shape : Shape} {fields : List (String × Json)} {slot : Slot} {j v : Json} {r : Record}

/-- A slot is filled under its own name. -/
theorem fst_eq_of_fromFields {part : List (String × Json)} (h : fromFields fields slot = .ok part) :
    ∀ e ∈ part, e.1 = slot.name := by
  rw [fromFields] at h
  split at h
  · cases h
    simp
  · split at h
    · cases h
    · cases h
      simp
  · cases h

/-- A slot with one name is filled with the value under that name. -/
theorem fromFields_eq_of_field? (hothers : slot.others = [])
    (hfield : (Json.obj fields).field? slot.name = some v) {part : List (String × Json)}
    (h : fromFields fields slot = .ok part) : part = [(slot.name, v)] := by
  have haccepts : (fun f : String × Json => slot.accepts f.1) = fun f => f.1 == slot.name := by
    funext f
    rw [Slot.accepts, hothers]
    simp [Bool.beq_comm]
  have hlast : (fields.filter fun f => f.1 == slot.name).getLast?.map (·.2) = some v := by
    rw [← hfield, Json.field?, ← List.head?_filter, List.filter_reverse, List.head?_reverse]
  rw [fromFields, valuesFor, haccepts] at h
  generalize (fields.filter fun f => f.1 == slot.name) = given at h hlast
  -- A name that stands more than once is refused.
  match given with
  | [] => simp at hlast
  | [f] =>
    obtain rfl : f.2 = v := by simpa using hlast
    exact (Except.ok.inj h).symm
  | _ :: _ :: _ => cases h

/-- Of all that the slots of a shape are filled with, the first under the name of a slot is the
value under that name. -/
theorem find?_flatten_of_mapM_fromFields (hnames : shape.Pairwise fun s t => s.name ≠ t.name)
    (hslot : slot ∈ shape) (hothers : slot.others = [])
    (hfield : (Json.obj fields).field? slot.name = some v) {parts : List (List (String × Json))}
    (hparts : shape.mapM (fromFields fields) = .ok parts) :
    parts.flatten.find? (fun e => e.1 == slot.name) = some (slot.name, v) := by
  induction shape generalizing parts with
  | nil => cases hslot
  | cons first shape ih =>
    obtain ⟨part, rest, hpart, hrest, rfl⟩ := exists_of_mapM_cons_eq_ok hparts
    obtain ⟨hfirst, hnames⟩ := List.pairwise_cons.mp hnames
    rw [List.flatten_cons, List.find?_append]
    obtain rfl | hslot := List.mem_cons.mp hslot
    · rw [fromFields_eq_of_field? hothers hfield hpart]
      simp
    · -- The first slot has another name, so nothing of it is found.
      have hnone : part.find? (fun e => e.1 == slot.name) = none := by
        rw [List.find?_eq_none]
        intro e he
        rw [fst_eq_of_fromFields hpart e he, beq_iff_eq]
        exact hfirst slot hslot
      rw [hnone, Option.none_or]
      exact ih hnames hslot hrest

/-- A record that has been read has the value that stands under the name of a field. -/
theorem value?_of_read (hnames : shape.Pairwise fun s t => s.name ≠ t.name)
    (hread : Record.read shape j = .ok r) (hslot : slot ∈ shape) (hothers : slot.others = [])
    (hfield : j.field? slot.name = some v) : r.value? slot.name = some v := by
  cases j with
  | obj fields =>
    obtain ⟨parts, hparts, rfl⟩ := exists_of_map_eq_ok hread
    rw [value?, find?_flatten_of_mapM_fromFields hnames hslot hothers hfield hparts]
    rfl
  -- Only an object has fields.
  | _ => cases hfield

variable {α : Type} {read : Reader α} {a : α}

/-- What a reader makes of a field that must be given. -/
theorem need_of_read {name : String} (hvalue : r.value? name = some v)
    (h : r.need name read = .ok a) : read v = .ok a := by
  rwa [need, hvalue] at h

/-- What a reader makes of a field that may be null and is not. -/
theorem may_of_read {name : String} {given : Option α} (hvalue : r.value? name = some v)
    (hnull : v ≠ .null) (h : r.may name read = .ok given) :
    ∃ a, read v = .ok a ∧ given = some a := by
  rw [may, hvalue] at h
  cases v with
  | null => exact absurd rfl hnull
  | _ =>
    obtain ⟨a, ha, rfl⟩ := exists_of_map_eq_ok h
    exact ⟨a, ha, rfl⟩

/-- What a reader makes of a field that has a default, and is given. -/
theorem orElse_of_read {name : String} {default : α} (hvalue : r.value? name = some v)
    (h : r.orElse name default read = .ok a) : read v = .ok a := by
  rwa [orElse, hvalue] at h

end Json.Record

end Outlays

import Outlays.Json.Printer
import Outlays.Proofs.Json.Grammar
import Outlays.Proofs.Text.Encoding

/-!
# Written values are read back

What is written as JSON is a text of the grammar, and so it is read back as the value that it was.
Numbers are left out here: they go through decimals, and all the rest of a value is texts, brackets
and words. A value with numbers is read back if they are, since no part of a value is written in
another way for what stands around it.

## Main definitions

* `Json.numberless` — the value has no numbers in it
* `Json.Legible` — what is written for the value is a text of it

## Main results

* `Json.quoted_textChars` — a text is written as a string literal
* `Json.legible_arr`, `Json.legible_obj` — legible parts make up a legible value
* `Json.legible_of_numberless` — a value without numbers is legible
* `Json.Legible.parseBytes_renderBytes` — a legible value is read back from its bytes
-/

namespace Outlays.Json

mutual

/-- The value has no numbers in it, and every part of it denotes something. -/
def numberless : Json → Bool
  | .num _ | .unreadable => false
  | .arr items => allNumberless items
  | .obj fields => fieldsNumberless fields
  | _ => true

/-- No item has numbers in it. -/
def allNumberless : List Json → Bool
  | [] => true
  | j :: rest => numberless j && allNumberless rest

/-- No field value has numbers in it. -/
def fieldsNumberless : List (String × Json) → Bool
  | [] => true
  | f :: rest => numberless f.2 && fieldsNumberless rest

end

/-! ## Texts -/

/-- The two digits of a control are its number. -/
theorem hexWritten_digitChar : ∀ n < 0x20,
    HexWritten n ['0', '0', Nat.digitChar (n / 16), Nat.digitChar (n % 16)] := by
  unfold HexWritten
  decide

/-- A character is written as one mark that stands for it. -/
theorem exists_written_escapeChar (c : Char) :
    ∃ m : Mark, m.Written ((escapeChar c).map some) ∧
      ∀ ms cs, Stands ms cs → Stands (m :: ms) (c :: cs) := by
  have hself {c : Char} (s : Symbols) (h : (Mark.char c).Written s) :
      ∃ m : Mark, m.Written s ∧ ∀ ms cs, Stands ms cs → Stands (m :: ms) (c :: cs) :=
    ⟨.char c, h, fun _ _ => .char⟩
  unfold escapeChar
  split
  -- All but the last way to write a character are short escapes.
  case h_8 hquote hbackslash _ _ _ _ _ =>
    split
    · next hcontrol =>
      refine ⟨.unit c.toNat, .unit (hexWritten_digitChar _ hcontrol), fun ms cs hms => ?_⟩
      have hunit := Stands.unit (n := c.toNat) (.inl (by omega)) hms
      rwa [Char.ofNat_toNat] at hunit
    · next hplain => exact hself _ (.plain (by omega) hquote hbackslash)
  all_goals exact hself _ (.short (by decide))

/-- A text is written as a string literal. -/
theorem quoted_textChars (s : String) : Quoted (some s) ((textChars s).map some) := by
  suffices h : ∀ cs : List Char, ∃ ms,
      MarksWritten ms ((cs.flatMap escapeChar).map some) ∧ Stands ms cs by
    obtain ⟨ms, hwritten, hstands⟩ := h s.toList
    have hquoted := Quoted.text hwritten hstands
    rw [String.ofList_toList] at hquoted
    simpa [textChars] using hquoted
  intro cs
  induction cs with
  | nil => exact ⟨[], .nil, .nil⟩
  | cons c cs ih =>
    obtain ⟨ms, hwritten, hstands⟩ := ih
    obtain ⟨m, hm, hc⟩ := exists_written_escapeChar c
    refine ⟨m :: ms, ?_, hc ms cs hstands⟩
    rw [List.flatMap_cons, List.map_append]
    exact .cons hm hwritten

/-! ## Values -/

/-- What is written for the value is a text of it. -/
def Legible (j : Json) : Prop := IsText ((chars j).map some) j

theorem blanks_nil : Blanks [] := nofun

theorem legible_of_spells {j : Json} (h : Spells (.one j) ((chars j).map some)) : Legible j :=
  ⟨[], _, [], (List.append_nil _).symm, blanks_nil, blanks_nil, h⟩

/-- Legible items are written by the grammar, with commas between them. -/
theorem spells_itemsChars (items : List Json) (hne : items ≠ []) (h : ∀ j ∈ items, Legible j) :
    Spells (.many items) ((itemsChars items).map some) := by
  match items with
  | [] => exact absurd rfl hne
  | [j] =>
    obtain ⟨before, t, after, heq, hbefore, hafter, ht⟩ := h j List.mem_cons_self
    rw [itemsChars, heq]
    exact .lastItem hbefore hafter ht
  | j :: next :: items =>
    obtain ⟨hj, hitems⟩ := List.forall_mem_cons.mp h
    obtain ⟨before, t, after, heq, hbefore, hafter, ht⟩ := hj
    have hothers := spells_itemsChars (next :: items) (List.cons_ne_nil _ _) hitems
    simpa [itemsChars, heq] using Spells.item hbefore hafter ht hothers

/-- So are fields with legible values. -/
theorem spells_fieldsChars (fields : List (String × Json)) (hne : fields ≠ [])
    (h : ∀ f ∈ fields, Legible f.2) :
    Spells (.named (fields.map fun f => (some f.1, f.2))) ((fieldsChars fields).map some) := by
  match fields with
  | [] => exact absurd rfl hne
  | [(name, j)] =>
    obtain ⟨before, t, after, heq, hbefore, hafter, ht⟩ := h (name, j) List.mem_cons_self
    simpa [fieldsChars, heq] using
      Spells.lastMember ⟨blanks_nil, blanks_nil, hbefore, hafter⟩ (quoted_textChars name) ht
  | (name, j) :: next :: fields =>
    obtain ⟨hj, hfields⟩ := List.forall_mem_cons.mp h
    obtain ⟨before, t, after, heq, hbefore, hafter, ht⟩ := hj
    have hothers := spells_fieldsChars (next :: fields) (List.cons_ne_nil _ _) hfields
    simpa [fieldsChars, heq] using
      Spells.member ⟨blanks_nil, blanks_nil, hbefore, hafter⟩ (quoted_textChars name) ht hothers

theorem legible_str (s : String) : Legible (.str s) := legible_of_spells (.text (quoted_textChars s))

/-- An array of legible items is legible. -/
theorem legible_arr {items : List Json} (h : ∀ j ∈ items, Legible j) : Legible (.arr items) := by
  refine legible_of_spells ?_
  cases items with
  | nil => exact .noItems blanks_nil
  | cons j items =>
    simpa [chars] using Spells.arr (spells_itemsChars (j :: items) (List.cons_ne_nil _ _) h)

/-- So is an object of fields with legible values. -/
theorem legible_obj {fields : List (String × Json)} (h : ∀ f ∈ fields, Legible f.2) :
    Legible (.obj fields) := by
  refine legible_of_spells ?_
  cases fields with
  | nil => exact .noMembers blanks_nil
  | cons f fields =>
    simpa [chars] using Spells.obj (spells_fieldsChars (f :: fields) (List.cons_ne_nil _ _) h)

mutual

/-- A value without numbers is legible. -/
theorem legible_of_numberless : ∀ j : Json, numberless j = true → Legible j
  | .null, _ => legible_of_spells .nullWord
  | .bool true, _ => legible_of_spells .trueWord
  | .bool false, _ => legible_of_spells .falseWord
  | .str s, _ => legible_str s
  | .arr items, h => legible_arr (forall_legible_of_allNumberless items h)
  | .obj fields, h => legible_obj (forall_legible_of_fieldsNumberless fields h)

theorem forall_legible_of_allNumberless : ∀ items : List Json,
    allNumberless items = true → ∀ j ∈ items, Legible j
  | [], _ => nofun
  | j :: items, h => by
    rw [allNumberless, Bool.and_eq_true] at h
    exact List.forall_mem_cons.mpr
      ⟨legible_of_numberless j h.1, forall_legible_of_allNumberless items h.2⟩

theorem forall_legible_of_fieldsNumberless : ∀ fields : List (String × Json),
    fieldsNumberless fields = true → ∀ f ∈ fields, Legible f.2
  | [], _ => nofun
  | (_, j) :: fields, h => by
    rw [fieldsNumberless, Bool.and_eq_true] at h
    exact List.forall_mem_cons.mpr
      ⟨legible_of_numberless j h.1, forall_legible_of_fieldsNumberless fields h.2⟩

end

/-! ## Whole texts -/

/-- What is written for a legible value is read back as that value. -/
theorem Legible.parse_chars {j : Json} (h : Legible j) : parse ((chars j).map some) = some j :=
  parse_eq_some_iff.mpr h

/-- The same from the bytes. -/
theorem Legible.parseBytes_renderBytes {j : Json} (h : Legible j) :
    parseBytes j.renderBytes = some j := by
  rw [parseBytes, renderBytes, symbols_encodeChars, h.parse_chars]

/-- And from the text. -/
theorem Legible.parseText_render {j : Json} (h : Legible j) : parseText j.render = some j := by
  rw [parseText, render, String.toList_ofList, h.parse_chars]

end Outlays.Json

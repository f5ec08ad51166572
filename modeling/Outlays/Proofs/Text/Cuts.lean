import Mathlib.Data.List.Basic

/-!
# Lists with separators

Parts that are joined with separators between them can be found again as long as no part holds the
separator that ends it. Fingerprints, addresses and quoted texts are all written like this.

## Main results

* `mem_and_ne_of_mem_splitOn`, `eq_or_exists_mem_of_mem_intercalate` — what stands in the pieces
* `eq_of_append_eq_append`, `append_cons_eq_append_cons_iff` — a list is cut in one way before its
  first separator
-/

namespace Outlays

/-- The pieces of a list hold its elements, and no separator. -/
theorem mem_and_ne_of_mem_splitOn {α : Type} [BEq α] [LawfulBEq α] {c a : α} {xs piece : List α}
    (hpiece : piece ∈ xs.splitOn c) (ha : a ∈ piece) : a ∈ xs ∧ a ≠ c := by
  induction xs generalizing piece with
  | nil =>
    rw [List.splitOn_nil, List.mem_singleton] at hpiece
    subst hpiece
    cases ha
  | cons x xs ih =>
    rw [List.splitOn_cons_eq_if_modifyHead] at hpiece
    by_cases hx : x = c
    · -- A separator closes an empty piece.
      simp only [hx, beq_self_eq_true, if_true, List.mem_cons] at hpiece
      obtain rfl | hpiece := hpiece
      · cases ha
      · obtain ⟨hmem, hne⟩ := ih hpiece ha
        exact ⟨List.mem_cons_of_mem x hmem, hne⟩
    · -- Anything else goes to the front of the first piece.
      simp only [beq_eq_false_iff_ne.mpr hx, Bool.false_eq_true, if_false] at hpiece
      cases hpieces : xs.splitOn c with
      | nil =>
        rw [hpieces] at hpiece
        cases hpiece
      | cons first rest =>
        rw [hpieces] at hpiece ih
        rw [List.modifyHead_cons, List.mem_cons] at hpiece
        obtain rfl | hpiece := hpiece
        · obtain rfl | ha := List.mem_cons.mp ha
          · exact ⟨List.mem_cons_self, hx⟩
          · obtain ⟨hmem, hne⟩ := ih List.mem_cons_self ha
            exact ⟨List.mem_cons_of_mem x hmem, hne⟩
        · obtain ⟨hmem, hne⟩ := ih (List.mem_cons_of_mem first hpiece) ha
          exact ⟨List.mem_cons_of_mem x hmem, hne⟩

/-- What stands in joined pieces is a separator, or stands in one of them. -/
theorem eq_or_exists_mem_of_mem_intercalate {α : Type} {c a : α} {pieces : List (List α)}
    (ha : a ∈ [c].intercalate pieces) : a = c ∨ ∃ piece ∈ pieces, a ∈ piece := by
  induction pieces with
  | nil => cases ha
  | cons first rest ih =>
    by_cases hrest : rest = []
    · subst hrest
      exact .inr ⟨first, List.mem_cons_self, by simpa [List.intercalate] using ha⟩
    · rw [List.intercalate_cons_of_ne_nil hrest, List.mem_append, List.mem_append,
        List.mem_singleton] at ha
      obtain (ha | ha) | ha := ha
      · exact .inr ⟨first, List.mem_cons_self, ha⟩
      · exact .inl ha
      · obtain h | ⟨piece, hpiece, h⟩ := ih ha
        · exact .inl h
        · exact .inr ⟨piece, List.mem_cons_of_mem first hpiece, h⟩

/-- A list is cut in one way before the first element at which to stop. -/
theorem eq_of_append_eq_append {α : Type} {stop : α → Bool} {front front' back back' : List α}
    (hfront : ∀ a ∈ front, stop a = false) (hfront' : ∀ a ∈ front', stop a = false)
    (hback : ∀ a ∈ back.head?, stop a = true) (hback' : ∀ a ∈ back'.head?, stop a = true)
    (heq : front ++ back = front' ++ back') : front = front' ∧ back = back' := by
  have htake {front back : List α} (hfront : ∀ a ∈ front, stop a = false)
      (hback : ∀ a ∈ back.head?, stop a = true) : (front ++ back).takeWhile (!stop ·) = front := by
    rw [List.takeWhile_append_of_pos fun a ha => by rw [hfront a ha, Bool.not_false]]
    cases back with
    | nil => rw [List.takeWhile_nil, List.append_nil]
    | cons a back =>
      rw [List.takeWhile_cons_of_neg (by simp [hback a rfl]), List.append_nil]
  obtain rfl : front = front' := by rw [← htake hfront hback, heq, htake hfront' hback']
  exact ⟨rfl, List.append_cancel_left heq⟩

/-- A list is cut in one way at the first occurrence of an element. -/
theorem append_cons_eq_append_cons_iff {α : Type} [BEq α] [LawfulBEq α] {a : α}
    {front front' back back' : List α} (h : a ∉ front) (h' : a ∉ front') :
    front ++ a :: back = front' ++ a :: back' ↔ front = front' ∧ back = back' := by
  have hother {front : List α} (h : a ∉ front) : ∀ b ∈ front, (b == a) = false := by
    intro b hb
    rw [beq_eq_false_iff_ne]
    rintro rfl
    exact h hb
  constructor
  · intro heq
    obtain ⟨hfront, hback⟩ := eq_of_append_eq_append (hother h) (hother h') (by simp) (by simp) heq
    exact ⟨hfront, (List.cons.inj hback).2⟩
  · rintro ⟨rfl, rfl⟩
    rfl

end Outlays

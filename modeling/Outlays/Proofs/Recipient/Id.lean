import Mathlib.Tactic.ByContra
import Outlays.Recipient.Id

/-!
# Recipient ids, written and read

An identifier has many spellings and one written form, and reading the written form gives the
identifier back. So does a recipient id, which is cut at its last hyphen: the letter of a level
holds none. Two recipients are therefore never written alike.

## Main results

* `splitAtLast?_eq_some_iff` — a text is cut at the last occurrence of a character
* `Uuid.read?_render`, `RecipientId.parse_render` — what is written is read back
* `RecipientId.render_injective` — different recipients are written differently
-/

namespace Outlays

/-! ## Cutting at the last occurrence -/

/-- A text with a `c` that is followed by no other is cut there. -/
theorem splitAtLast?_append {c : Char} {back : List Char} (h : c ∉ back) (front : List Char) :
    splitAtLast? c (front ++ c :: back) = some (front, back) := by
  have hback : ∀ d ∈ back.reverse, (d != c) = true := by
    intro d hd
    rw [bne_iff_ne]
    rintro rfl
    exact h (List.mem_reverse.mp hd)
  have hreverse : (front ++ c :: back).reverse = back.reverse ++ c :: front.reverse := by simp
  -- Seen from behind, the text up to the first `c` is what follows the cut.
  simp only [splitAtLast?, hreverse, List.takeWhile_append_of_pos hback,
    List.dropWhile_append_of_pos hback]
  simp

/-- A text is cut at the last `c`: another follows nowhere behind the cut. -/
theorem splitAtLast?_eq_some_iff {c : Char} {cs front back : List Char} :
    splitAtLast? c cs = some (front, back) ↔ cs = front ++ c :: back ∧ c ∉ back := by
  constructor
  · intro h
    have hmem : c ∈ cs := by
      by_contra hnot
      simp [splitAtLast?, hnot] at h
    obtain ⟨after, before, hcs, hafter⟩ :=
      List.eq_append_cons_of_mem (List.mem_reverse.mpr hmem)
    have hcut : cs = before.reverse ++ c :: after.reverse := by
      rw [← List.reverse_reverse cs, hcs]
      simp
    rw [hcut, splitAtLast?_append (mt List.mem_reverse.mp hafter)] at h
    cases h
    exact ⟨hcut, mt List.mem_reverse.mp hafter⟩
  · rintro ⟨rfl, hback⟩
    exact splitAtLast?_append hback front

namespace Uuid

/-! ## Identifiers -/

theorem hexDigit?_hexChar (d : Fin 16) : hexDigit? (hexChar d) = some d := by
  revert d
  decide

/-- The digits of an identifier, written and read. -/
theorem plain?_map_hexChar (u : Uuid) : plain? (u.digits.map hexChar) = some u := by
  have hread : (u.digits.map hexChar).mapM hexDigit? = some u.digits := by
    induction u.digits with
    | nil => rfl
    | cons d ds ih => simp [hexDigit?_hexChar, ih]
  simp [plain?, hread, ofDigits?, u.length_digits]

/-- Five groups are read as the digits that they hold together. -/
theorem grouped?_of_length {a b c d e : List Char} (ha : a.length = 8) (hb : b.length = 4)
    (hc : c.length = 4) (hd : d.length = 4) (he : e.length = 12) :
    grouped? (a ++ '-' :: b ++ '-' :: c ++ '-' :: d ++ '-' :: e) =
      plain? (a ++ b ++ c ++ d ++ e) := by
  simp [grouped?, ha, hb, hc, hd, he, List.drop_append, List.drop_eq_nil_of_le]

/-- The written form of an identifier is read as that identifier. -/
theorem read?_render (u : Uuid) : read? u.render = some u := by
  have hlength : (u.digits.map hexChar).length = 32 := by simp [u.length_digits]
  have hread := plain?_map_hexChar u
  rw [render]
  generalize u.digits.map hexChar = cs at hlength hread
  have hjoin : cs.take 8 ++ (cs.drop 8).take 4 ++ (cs.drop 12).take 4 ++ (cs.drop 16).take 4
      ++ cs.drop 20 = cs := by
    simp only [← List.take_add, List.take_append_drop]
  have hgroups := grouped?_of_length (a := cs.take 8) (b := (cs.drop 8).take 4)
    (c := (cs.drop 12).take 4) (d := (cs.drop 16).take 4) (e := cs.drop 20) (by simp [hlength])
    (by simp [hlength]) (by simp [hlength]) (by simp [hlength]) (by simp [hlength])
  rw [hjoin, hread] at hgroups
  rw [← hgroups]
  simp [read?, hlength]

end Uuid

namespace RecipientId

theorem ofCode?_code (l : Level) : Level.ofCode? l.code = some l := by
  cases l <;> rfl

theorem hyphen_not_mem_code (l : Level) : '-' ∉ l.code.toList := by
  cases l <;> decide

/-- The written form of a recipient id is read as that id. -/
theorem parse_render (id : RecipientId) : parse id.render = .ok id := by
  have hcut : splitAtLast? '-' id.render.toList =
      some (id.hash.render.toList, id.level.code.toList) := by
    rw [splitAtLast?_eq_some_iff]
    exact ⟨by simp [render], hyphen_not_mem_code id.level⟩
  simp [parse, hcut, ofCode?_code, Uuid.read?_render]

/-- Different recipients are written differently. -/
theorem render_injective : Function.Injective render := by
  intro first second h
  have hread := congrArg parse h
  rw [parse_render, parse_render] at hread
  exact Except.ok.inj hread

end RecipientId

end Outlays

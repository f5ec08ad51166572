import Mathlib.Data.List.Basic
import Outlays.Proofs.Search.Keywords

/-!
# Keywords read back

The text of a keyword in a query is the keyword with backslashes put in. Whoever reads the text from
its first character on, and drops each backslash that speaks for the character behind it, has the
keyword again. Backslashes of the keyword itself do not get in the way: each of them has one before
it, and so the reader is never in the middle of a pair where the text of a character ends.

## Main definitions

* `QueryText.unescaped` — a text without the backslashes that speak for other characters
* `QueryText.IsExact` — those characters are spoken for that have a meaning, and no others

## Main results

* `QueryText.flatMap_marked_read` — reading a text leaves nothing of it out
* `Query.escapeWords_eq_iff_isExact` — which texts are those of keywords
* `Query.escaping_loses_nothing` — a keyword and its text determine each other, piece by piece
-/

namespace Outlays

/-! ## Texts without escapes -/

namespace QueryText

/-- The text without each backslash that says of the character behind it that it is taken for
itself. -/
def unescaped (text : List Char) : List Char := (read text).map Prod.snd

/-- Exactly the characters with a meaning are taken for themselves. -/
def IsExact (text : List Char) : Prop := ∀ p ∈ read text, p.1 = true ↔ p.2 ∈ reserved

/-- The characters of a text that stand for one that was read. -/
def marked (p : Bool × Char) : List Char := if p.1 then ['\\', p.2] else [p.2]

/-- What is read is the text, with a backslash before each character that is taken for itself: those
backslashes are all that reading drops. -/
theorem flatMap_marked_read (text : List Char) : (read text).flatMap marked = text := by
  fun_induction read text with
  | case1 c rest ih => rw [List.flatMap_cons, ih, marked, if_pos rfl]; rfl
  | case2 c rest _ ih => rw [List.flatMap_cons, ih, marked, if_neg Bool.false_ne_true]; rfl
  | case3 => rfl

end QueryText

namespace Query

open QueryText

/-! ## Keywords -/

/-- A keyword is read back from its text, and what follows is read as if it stood alone. -/
theorem unescaped_escapeWords_append (cs rest : List Char) :
    unescaped (escapeWords cs ++ rest) = cs ++ unescaped rest := by
  rw [unescaped, read_escapeWords_append, List.map_append, List.map_map, unescaped]
  congr 1
  exact List.map_id _

theorem unescaped_escapeWords (cs : List Char) : unescaped (escapeWords cs) = cs := by
  simpa [unescaped, QueryText.read] using unescaped_escapeWords_append cs []

theorem escapeWords_append (front back : List Char) :
    escapeWords (front ++ back) = escapeWords front ++ escapeWords back :=
  List.flatMap_append

/-- A text is that of a keyword if exactly its characters with a meaning are taken for themselves,
and the keyword is what the text says without the backslashes before them. -/
theorem escapeWords_eq_iff_isExact {cs text : List Char} :
    escapeWords cs = text ↔ unescaped text = cs ∧ IsExact text := by
  constructor
  · rintro rfl
    refine ⟨unescaped_escapeWords cs, fun p hp => ?_⟩
    rw [read_escapeWords] at hp
    obtain ⟨c, -, rfl⟩ := List.mem_map.mp hp
    exact decide_eq_true_iff
  · rintro ⟨rfl, hexact⟩
    -- Escaping what was read puts a backslash where reading dropped one, and nowhere else.
    have hmarked : ∀ p ∈ read text,
        (if operators.contains p.2 then ['\\', p.2] else [p.2]) = marked p := by
      intro p hp
      have hmeaning : operators.contains p.2 = p.1 := by
        rw [Bool.eq_iff_iff, List.contains_iff_mem, mem_operators_iff, hexact p hp]
      rw [hmeaning, marked]
    rw [escapeWords, unescaped, List.flatMap_map, List.flatMap_congr hmarked, flatMap_marked_read]

/-- Without the backslashes that speak for other characters, the text of a keyword is the keyword,
whatever follows it; so no two keywords have the same text. The texts of two keywords one after the
other are the text of both, and a text is that of a keyword exactly if those of its characters are
spoken for that have a meaning. -/
theorem escaping_loses_nothing :
    (∀ cs, unescaped (escapeWords cs) = cs) ∧
      (∀ cs rest, unescaped (escapeWords cs ++ rest) = cs ++ unescaped rest) ∧
      Function.Injective escapeWords ∧
      (∀ front back, escapeWords (front ++ back) = escapeWords front ++ escapeWords back) ∧
      ∀ cs text, escapeWords cs = text ↔ unescaped text = cs ∧ IsExact text :=
  ⟨unescaped_escapeWords, unescaped_escapeWords_append,
    Function.LeftInverse.injective unescaped_escapeWords, escapeWords_append,
    fun _ _ => escapeWords_eq_iff_isExact⟩

/-- A backslash that speaks for no other stays, also the last one of a text. -/
example : unescaped ['a', '\\', '\\', '\\', '+', '\\'] = ['a', '\\', '+', '\\'] := by decide

end Query

end Outlays

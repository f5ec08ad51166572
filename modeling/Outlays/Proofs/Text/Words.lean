import Mathlib.Data.List.Chain
import Mathlib.Data.List.TakeWhile
import Outlays.Text.Blank

/-!
# Words and the blanks between them

The words of a text are what is left of it when it is split at its blanks. Put one behind the other
with a space between any two, they make up the text again if it was like that before: with no blanks
but single spaces, and none at either end.

## Main definitions

* `Text.IsWord` — a text without blanks
* `Text.IsCollapsed` — a text with single spaces between its words, and no other blanks

## Main results

* `Text.words_eq_splitOnP` — words as pieces between blanks
* `Text.isCollapsed_intercalate` — words with spaces between them are such a text
* `Text.IsCollapsed.intercalate_words` — and such a text is its words with spaces between them
-/

namespace Outlays.Text

variable {cs w rest : List Char} {ws : List (List Char)}

/-! ## Words -/

/-- A text that is not empty and has no blanks. -/
structure IsWord (w : List Char) : Prop where
  ne_nil : w ≠ []
  plain : ∀ c ∈ w, isBlank c = false

theorem isWord_wordStep (c : Char) {state : Bool × List (List Char)}
    (h : ∀ w ∈ state.2, IsWord w) : ∀ w ∈ (wordStep c state).2, IsWord w := by
  obtain ⟨open?, words⟩ := state
  unfold wordStep
  cases hblank : isBlank c with
  | true => exact h
  | false =>
    have halone : IsWord [c] := ⟨List.cons_ne_nil _ _, by simpa using hblank⟩
    rcases open? with _ | _ <;> rcases words with _ | ⟨word, words⟩
    case true.cons =>
      have hlonger : IsWord (c :: word) :=
        ⟨List.cons_ne_nil _ _,
          List.forall_mem_cons.mpr ⟨hblank, (h word List.mem_cons_self).plain⟩⟩
      exact List.forall_mem_cons.mpr ⟨hlonger, List.forall_mem_of_forall_mem_cons h⟩
    all_goals exact List.forall_mem_cons.mpr ⟨halone, h⟩

theorem isWord_of_mem_words : ∀ w ∈ words cs, IsWord w := by
  rw [words]
  induction cs with
  | nil => simp
  | cons c cs ih => exact isWord_wordStep c ih

/-- One more character in front makes the first piece longer, or begins another. -/
theorem wordStep_pieces (c : Char) (first : List Char) (pieces : List (List Char)) :
    wordStep c (!first.isEmpty, (first :: pieces).filter (!·.isEmpty)) =
      if isBlank c then (false, (first :: pieces).filter (!·.isEmpty))
      else (true, (c :: first) :: pieces.filter (!·.isEmpty)) := by
  unfold wordStep
  cases isBlank c with
  | true => simp
  | false => cases first <;> simp

/-- The words of a text are the pieces between its blanks that are not empty. -/
theorem words_eq_splitOnP (cs : List Char) :
    words cs = (cs.splitOnP isBlank).filter (!·.isEmpty) := by
  -- By induction on the text, with whether its first piece is a word that is still open.
  have hfold : ∃ first pieces, cs.splitOnP isBlank = first :: pieces ∧
      cs.foldr wordStep (false, []) =
        (!first.isEmpty, (first :: pieces).filter (!·.isEmpty)) := by
    induction cs with
    | nil => exact ⟨[], [], List.splitOnP_nil, by simp⟩
    | cons c cs ih =>
      obtain ⟨first, pieces, hsplit, hstate⟩ := ih
      rw [List.splitOnP_cons_eq_if_modifyHead, List.foldr_cons, hsplit, hstate, wordStep_pieces]
      cases isBlank c with
      | true => exact ⟨[], first :: pieces, by simp⟩
      | false => exact ⟨c :: first, pieces, by simp⟩
  obtain ⟨first, pieces, hsplit, hstate⟩ := hfold
  rw [words, hsplit, hstate]

theorem words_of_isWord (h : IsWord w) : words w = [w] := by
  rw [words_eq_splitOnP, List.splitOnP_eq_singleton h.plain]
  simp [h.ne_nil]

/-- The words on either side of a blank. -/
theorem words_append_cons {c : Char} (h : isBlank c = true) (front back : List Char) :
    words (front ++ c :: back) = words front ++ words back := by
  simp only [words_eq_splitOnP, List.splitOnP_append_cons _ _ h, List.filter_append]

/-! ## Collapsed texts -/

/-- A text with no blanks but spaces, none of them at an end or next to another. -/
structure IsCollapsed (cs : List Char) : Prop where
  head : ∀ c ∈ cs.head?, isBlank c = false
  last : ∀ c ∈ cs.getLast?, isBlank c = false
  space : ∀ c ∈ cs, isBlank c = true → c = ' '
  single : cs.IsChain fun a b => isBlank a = false ∨ isBlank b = false

theorem isCollapsed_nil : IsCollapsed [] := ⟨by simp, by simp, by simp, .nil⟩

theorem IsWord.isCollapsed (h : IsWord w) : IsCollapsed w where
  head c hc := h.plain c (List.mem_of_mem_head? hc)
  last c hc := h.plain c (List.mem_of_mem_getLast? hc)
  space c hc hblank := absurd hblank (by simp [h.plain c hc])
  single :=
    (List.pairwise_of_forall_mem_list fun a ha _ _ => .inl (h.plain a ha)).isChain

/-- Behind a word and a space such a text goes on with another. -/
theorem isCollapsed_append_cons_iff (h : IsWord w) :
    IsCollapsed (w ++ ' ' :: rest) ↔ rest ≠ [] ∧ IsCollapsed rest := by
  have hspace : isBlank ' ' = true := by decide
  constructor
  · -- The space may be neither the last character nor next to another blank.
    rintro ⟨-, hlast, honly, hsingle⟩
    have hchain := (List.isChain_append.mp hsingle).2.1
    have hne : rest ≠ [] := by
      rintro rfl
      simp [hspace] at hlast
    refine ⟨hne, fun c hc => ?_, fun c hc => hlast c ?_, fun c hc => honly c ?_, hchain.tail⟩
    · have hpair := (List.isChain_cons.mp hchain).1 c hc
      simpa [hspace] using hpair
    · rw [Option.mem_def] at hc ⊢
      rw [List.getLast?_append, List.getLast?_cons, hc]
      rfl
    · exact List.mem_append_right _ (List.mem_cons_of_mem _ hc)
  · rintro ⟨hne, hrest⟩
    refine ⟨fun c hc => ?_, fun c hc => ?_, fun c hc hblank => ?_, ?_⟩
    · rw [List.head?_append_of_ne_nil _ h.ne_nil] at hc
      exact h.isCollapsed.head c hc
    · rw [List.getLast?_append_of_ne_nil _ (List.cons_ne_nil _ _),
        List.getLast?_cons_of_ne_nil hne] at hc
      exact hrest.last c hc
    · rcases List.mem_append.mp hc with hc | hc
      · exact h.isCollapsed.space c hc hblank
      · exact (List.mem_cons.mp hc).elim (·) fun hc => hrest.space c hc hblank
    · refine h.isCollapsed.single.append
        (List.isChain_cons.mpr ⟨fun c hc => .inr (hrest.head c hc), hrest.single⟩)
        fun c hc _ _ => .inl (h.isCollapsed.last c hc)

/-- Words with spaces between them. -/
theorem isCollapsed_intercalate (h : ∀ w ∈ ws, IsWord w) :
    IsCollapsed (List.intercalate [' '] ws) := by
  induction ws with
  | nil => exact isCollapsed_nil
  | cons w ws ih =>
    obtain ⟨hw, hws⟩ := List.forall_mem_cons.mp h
    cases ws with
    | nil =>
      rw [List.intercalate_singleton]
      exact hw.isCollapsed
    | cons v ws =>
      have hne : List.intercalate [' '] (v :: ws) ≠ [] := by
        have hv := (hws v List.mem_cons_self).ne_nil
        cases ws <;> simp [hv]
      rw [List.intercalate_cons_cons, List.append_assoc, List.singleton_append,
        isCollapsed_append_cons_iff hw]
      exact ⟨hne, ih hws⟩

/-- A text that does not start with a blank is a word, or goes on behind its first word with a
blank. -/
theorem isWord_or_exists_append (hne : cs ≠ []) (head : ∀ c ∈ cs.head?, isBlank c = false) :
    IsWord cs ∨ ∃ w b rest, cs = w ++ b :: rest ∧ IsWord w ∧ isBlank b = true := by
  have hsplit := (List.takeWhile_append_dropWhile (p := (!isBlank ·)) (l := cs)).symm
  have hword : IsWord (cs.takeWhile (!isBlank ·)) := by
    obtain ⟨c, rest, rfl⟩ := List.exists_cons_of_ne_nil hne
    have hfirst : isBlank c = false := head c rfl
    refine ⟨by simp [hfirst], fun d hd => ?_⟩
    simpa using List.mem_takeWhile_imp hd
  cases hrest : cs.dropWhile (!isBlank ·) with
  | nil =>
    rw [hrest, List.append_nil] at hsplit
    exact .inl (hsplit ▸ hword)
  | cons b rest =>
    have hblank := List.head?_dropWhile_not (!isBlank ·) cs
    rw [hrest] at hblank
    rw [hrest] at hsplit
    exact .inr ⟨_, b, rest, hsplit, hword, by simpa using hblank⟩

/-- Such a text is its words with spaces between them. -/
theorem IsCollapsed.intercalate_words {cs : List Char} (h : IsCollapsed cs) :
    List.intercalate [' '] (words cs) = cs := by
  -- By recursion on the length: behind the first word and its space stands a shorter such text.
  by_cases hne : cs = []
  · rw [hne]
    rfl
  obtain hword | ⟨w, b, rest, hcs, hword, hblank⟩ := isWord_or_exists_append hne h.head
  · rw [words_of_isWord hword, List.intercalate_singleton]
  · have hshorter : rest.length < cs.length := by
      rw [hcs, List.length_append, List.length_cons]
      omega
    obtain rfl : b = ' ' := h.space b (by simp [hcs]) hblank
    rw [hcs] at h ⊢
    obtain ⟨hrest, hcollapsed⟩ := (isCollapsed_append_cons_iff hword).mp h
    have ih := hcollapsed.intercalate_words
    have hwords : words rest ≠ [] := by
      intro hnil
      rw [hnil, List.intercalate_nil] at ih
      exact hrest ih.symm
    rw [words_append_cons hblank, words_of_isWord hword, List.singleton_append,
      List.intercalate_cons_of_ne_nil hwords, ih, List.append_assoc, List.singleton_append]
termination_by cs.length

end Outlays.Text

import Outlays.Proofs.Text.Encoding
import Outlays.Proofs.Text.Words
import Outlays.Search.Exchange

/-!
# The beginning of an answer

A message about an answer that is not a success shows the beginning of its body on one line: the
words of the body with single spaces between them, cut off behind a number of characters, with an
ellipsis for what is missing. Cut off or not, what is shown is such a line again, so that showing it
once more changes nothing: if it was cut off, it is cut off at the same character.

## Main results

* `Exchange.isCollapsed_preview` — what is shown is words with single spaces between them
* `Exchange.preview_encodeChars_preview` — it is shown as it is
* `Exchange.preview_bounded_faithful` — what is shown of an answer
-/

namespace Outlays.Exchange

open Text

variable {cs : List Char} {body : List UInt8}

/-! ## The words of an answer -/

theorem isCollapsed_collapsed (body : List UInt8) : IsCollapsed (collapsed body) :=
  isCollapsed_intercalate isWord_of_mem_words

/-- A text of that form is not changed. -/
theorem collapsed_encodeChars (h : IsCollapsed cs) : collapsed (encodeChars cs) = cs := by
  rw [collapsed, decodeLossy_encodeChars, h.intercalate_words]

/-! ## Where it is cut off -/

theorem isWord_ellipsis : IsWord ['.', '.', '.'] := ⟨List.cons_ne_nil _ _, by simp [isBlank]⟩

/-- Cut off anywhere, the text keeps its form: the ellipsis takes the place of the next word, or of
the rest of one. -/
theorem isCollapsed_take_append (h : IsCollapsed cs) (n : Nat) :
    IsCollapsed (cs.take n ++ ['.', '.', '.']) := by
  have hdots := isWord_ellipsis.isCollapsed
  refine ⟨fun c hc => ?_, fun c hc => ?_, fun c hc hblank => ?_, ?_⟩
  · rcases n with _ | n
    · exact hdots.head c hc
    rcases cs with _ | ⟨d, cs⟩
    · exact hdots.head c hc
    · exact h.head c hc
  · rw [List.getLast?_append_of_ne_nil _ isWord_ellipsis.ne_nil] at hc
    exact hdots.last c hc
  · rcases List.mem_append.mp hc with hc | hc
    · exact h.space c (List.mem_of_mem_take hc) hblank
    · exact hdots.space c hc hblank
  · exact (h.single.take n).append hdots.single fun c _ d hd => .inr (hdots.head d hd)

theorem preview_of_length_le (h : (collapsed body).length ≤ previewLimit) :
    preview body = collapsed body :=
  if_neg (Nat.not_lt.mpr h)

theorem preview_of_lt_length (h : previewLimit < (collapsed body).length) :
    preview body = (collapsed body).take previewLimit ++ ['.', '.', '.'] :=
  if_pos h

theorem length_preview_of_lt_length (h : previewLimit < (collapsed body).length) :
    (preview body).length = previewLimit + 3 := by
  rw [preview_of_lt_length h, List.length_append, List.length_take_of_le (Nat.le_of_lt h)]
  rfl

theorem isCollapsed_preview (body : List UInt8) : IsCollapsed (preview body) := by
  by_cases h : previewLimit < (collapsed body).length
  · rw [preview_of_lt_length h]
    exact isCollapsed_take_append (isCollapsed_collapsed body) _
  · rw [preview_of_length_le (Nat.not_lt.mp h)]
    exact isCollapsed_collapsed body

/-- What is shown is shown as it is. -/
theorem preview_encodeChars_preview (body : List UInt8) :
    preview (encodeChars (preview body)) = preview body := by
  have hsame := collapsed_encodeChars (isCollapsed_preview body)
  by_cases h : previewLimit < (collapsed body).length
  · -- With the ellipsis it is longer than the limit again, and so it is cut off where it was before.
    have hfront : ((collapsed body).take previewLimit).length = previewLimit :=
      List.length_take_of_le (Nat.le_of_lt h)
    have hlong : previewLimit < (preview body).length := by
      rw [length_preview_of_lt_length h]
      omega
    rw [preview_of_lt_length (hsame.symm ▸ hlong), hsame, preview_of_lt_length h,
      List.take_left' hfront]
  · have hshort : (preview body).length ≤ previewLimit := by
      rw [preview_of_length_le (Nat.not_lt.mp h)]
      exact Nat.not_lt.mp h
    rw [preview_of_length_le (hsame.symm ▸ hshort), hsame]

/-- Of an answer are shown its words with single spaces between them, and no other blanks. Of that
line more than 160 characters are never shown; where it has more, the first 160 are shown with an
ellipsis behind them, and else it is shown as it is. What is shown is shown as it is in turn. -/
theorem preview_bounded_faithful (body : List UInt8) :
    collapsed body =
        List.intercalate [' '] (((decodeLossy body).splitOnP isBlank).filter (!·.isEmpty)) ∧
      IsCollapsed (preview body) ∧
      (preview body).length ≤ 160 + 3 ∧
      (160 < (collapsed body).length ↔ ∃ front, front.length = 160 ∧ front <+: collapsed body ∧
        preview body = front ++ ['.', '.', '.']) ∧
      ((collapsed body).length ≤ 160 → preview body = collapsed body) ∧
      preview (encodeChars (preview body)) = preview body := by
  refine ⟨?_, isCollapsed_preview body, ?_, ⟨fun h => ?_, ?_⟩, preview_of_length_le,
    preview_encodeChars_preview body⟩
  · rw [collapsed, words_eq_splitOnP]
  · by_cases h : previewLimit < (collapsed body).length
    · exact Nat.le_of_eq (length_preview_of_lt_length h)
    · rw [preview_of_length_le (Nat.not_lt.mp h)]
      exact Nat.le_add_right_of_le (Nat.not_lt.mp h)
  · exact ⟨(collapsed body).take 160, List.length_take_of_le (Nat.le_of_lt h),
      List.take_prefix _ _, preview_of_lt_length h⟩
  · rintro ⟨front, hlength, -, hshown⟩
    -- A line of at most 160 characters would be shown as it is, and with no more than those.
    by_contra h
    have hwhole := preview_of_length_le (Nat.not_lt.mp h)
    rw [hshown] at hwhole
    have hlong := congrArg List.length hwhole
    simp only [List.length_append, hlength, List.length_cons, List.length_nil] at hlong
    omega

end Outlays.Exchange

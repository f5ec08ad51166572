import Mathlib.Data.List.Forall2
import Outlays.Proofs.Text.Cuts
import Outlays.Text.Quoted

/-!
# What a quoted text says

Between quotes a character stands for itself, behind a backslash as one letter, or by its code
point. In ASCII there is never a choice: what can be printed stands for itself, except a quote and
a backslash, and what cannot be printed is escaped. Beyond ASCII it is a matter of taste what can be
seen, so both forms are allowed here. Either way the text can be read back, and so can each text of
a list.

## Main definitions

* `Text.Stands` — how a character may stand between quotes
* `Text.IsLiteral` — how a text may be written between quotes

## Main results

* `Text.isLiteral_quoted` — quoting writes a text between quotes
* `Text.IsLiteral.eq_of_printable` — a text that needs no escape is written as it is
* `Text.eq_of_intercalate_eq` — the texts of a list of literals are read in one way
-/

namespace Outlays.Text

/-- The escapes of one letter: what a character is written as behind a backslash. -/
def letterEscapes : List (Char × Char) :=
  [('\x00', '0'), ('\t', 't'), ('\n', 'n'), ('\r', 'r'), ('"', '"'), ('\\', '\\')]

/-- How a character may stand between quotes. -/
inductive Stands (c : Char) : List Char → Prop where
  | plain (visible : 0x20 ≤ c.toNat ∧ c.toNat ≤ 0x7E ∨ 0xA0 ≤ c.toNat) (noQuote : c ≠ '"')
      (noSlash : c ≠ '\\') : Stands c [c]
  | letter {e : Char} (h : (c, e) ∈ letterEscapes) : Stands c ['\\', e]
  | codePoint (hidden : c.toNat < 0x20 ∨ 0x7E < c.toNat) (noLetter : ∀ e, (c, e) ∉ letterEscapes) :
      Stands c ('\\' :: 'u' :: '\x7b' :: (Nat.toDigits 16 c.toNat ++ ['\x7d']))

/-- The literal is the text between quotes, each character as it may stand there. -/
def IsLiteral (t literal : String) : Prop :=
  ∃ pieces, List.Forall₂ Stands t.toList pieces ∧
    literal.toList = '"' :: (pieces.flatten ++ ['"'])

/-! ## Quoting -/

/-- Only the ranges that begin early enough are of interest. -/
theorem inRanges_eq_filter (ranges : List (Nat × Nat)) {n bound : Nat} (h : n < bound) :
    inRanges ranges n = inRanges (ranges.filter (·.1 < bound)) n := by
  rw [inRanges, inRanges, List.any_filter]
  congr 1
  funext r
  by_cases hr : r.1 ≤ n
  · simp [hr, Nat.lt_of_le_of_lt hr h]
  · simp [hr]

/-- What is printed in ASCII has a form of its own, and no control has. -/
theorem isShown_eq_of_lt {c : Char} (h : c.toNat < 0xA0) :
    isShown c = decide (0x20 ≤ c.toNat ∧ c.toNat ≤ 0x7E) := by
  have hextend : extendRanges.filter (·.1 < 0xA0) = [] := by decide +kernel
  have hhidden : hiddenRanges.filter (·.1 < 0xA0) = [(0x00, 0x1F), (0x7F, 0xA0)] := by
    decide +kernel
  have hfiller : fillerRanges.filter (·.1 < 0xA0) = [] := by decide
  rw [isShown, inRanges_eq_filter extendRanges h, hextend, inRanges_eq_filter hiddenRanges h,
    hhidden, inRanges_eq_filter fillerRanges h, hfiller, Bool.eq_iff_iff]
  simp [inRanges]
  omega

theorem quoteChar_eq_of_not_letter {c : Char} (h : ∀ e, (c, e) ∉ letterEscapes) :
    quoteChar c = if isShown c then [c] else codePointEscape c := by
  simp only [letterEscapes, List.mem_cons, Prod.mk.injEq, List.not_mem_nil, or_false, not_or,
    forall_and, not_and, forall_eq_apply_imp_iff] at h
  unfold quoteChar
  split
  case h_7 => rfl
  all_goals simp at h

theorem stands_quoteChar (c : Char) : Stands c (quoteChar c) := by
  by_cases hletter : ∃ e, (c, e) ∈ letterEscapes
  · obtain ⟨e, he⟩ := hletter
    have hquote : quoteChar c = ['\\', e] := by
      simp only [letterEscapes, List.mem_cons, Prod.mk.injEq, List.not_mem_nil, or_false] at he
      obtain ⟨rfl, rfl⟩ | ⟨rfl, rfl⟩ | ⟨rfl, rfl⟩ | ⟨rfl, rfl⟩ | ⟨rfl, rfl⟩ | ⟨rfl, rfl⟩ := he <;>
        rfl
    exact hquote ▸ .letter he
  -- The quote and the backslash are among the letters, so neither stands for itself.
  rw [not_exists] at hletter
  have hquote : c ≠ '"' := by
    rintro rfl
    exact hletter '"' (by decide)
  have hslash : c ≠ '\\' := by
    rintro rfl
    exact hletter '\\' (by decide)
  rw [quoteChar_eq_of_not_letter hletter]
  split
  next hshown =>
    refine .plain ?_ hquote hslash
    by_cases hlow : c.toNat < 0xA0
    · rw [isShown_eq_of_lt hlow, decide_eq_true_eq] at hshown
      exact .inl hshown
    · exact .inr (Nat.le_of_not_lt hlow)
  next hhidden =>
    refine .codePoint ?_ hletter
    by_cases hlow : c.toNat < 0xA0
    · rw [isShown_eq_of_lt hlow, decide_eq_true_eq] at hhidden
      omega
    · omega

/-- Quoting writes a text between quotes. -/
theorem isLiteral_quoted (t : String) : IsLiteral t (quoted t) := by
  refine ⟨t.toList.map quoteChar, ?_, by rw [quoted, String.toList_ofList, List.flatMap_def]⟩
  rw [List.forall₂_map_right_iff, List.forall₂_same]
  exact fun c _ => stands_quoteChar c

theorem quotedList_eq (texts : List String) :
    ∃ literals, List.Forall₂ IsLiteral texts literals ∧
      quotedList texts = "[" ++ String.intercalate ", " literals ++ "]" := by
  refine ⟨texts.map quoted, ?_, rfl⟩
  rw [List.forall₂_map_right_iff, List.forall₂_same]
  exact fun t _ => isLiteral_quoted t

/-! ## Reading -/

variable {c c' : Char} {piece piece' rest rest' : List Char}

theorem Stands.eq_of_printable (h : Stands c piece) (hprint : 0x20 ≤ c.toNat ∧ c.toNat ≤ 0x7E)
    (hquote : c ≠ '"') (hslash : c ≠ '\\') : piece = [c] := by
  cases h with
  | plain => rfl
  | letter he =>
    simp only [letterEscapes, List.mem_cons, Prod.mk.injEq, List.not_mem_nil, or_false] at he
    obtain ⟨rfl, -⟩ | ⟨rfl, -⟩ | ⟨rfl, -⟩ | ⟨rfl, -⟩ | ⟨rfl, -⟩ | ⟨rfl, -⟩ := he <;>
      first
      | exact absurd rfl hquote
      | exact absurd rfl hslash
      | exact absurd hprint (by decide)
  | codePoint hhidden => omega

theorem flatten_eq_of_printable {text : List Char} {pieces : List (List Char)}
    (h : List.Forall₂ Stands text pieces)
    (hprint : ∀ c ∈ text, (0x20 ≤ c.toNat ∧ c.toNat ≤ 0x7E) ∧ c ≠ '"' ∧ c ≠ '\\') :
    pieces.flatten = text := by
  induction h with
  | nil => rfl
  | cons hstands _ ih =>
    obtain ⟨⟨hfirst, hquote, hslash⟩, hlater⟩ := List.forall_mem_cons.mp hprint
    rw [List.flatten_cons, hstands.eq_of_printable hfirst hquote hslash, ih hlater]
    rfl

/-- A text that needs no escape is written as it is. -/
theorem IsLiteral.eq_of_printable {t literal : String} (h : IsLiteral t literal)
    (hprint : ∀ c ∈ t.toList, (0x20 ≤ c.toNat ∧ c.toNat ≤ 0x7E) ∧ c ≠ '"' ∧ c ≠ '\\') :
    literal = "\"" ++ t ++ "\"" := by
  obtain ⟨pieces, hpieces, hliteral⟩ := h
  apply String.toList_inj.mp
  rw [hliteral, flatten_eq_of_printable hpieces hprint]
  simp

/-! ## Code points -/

theorem exists_digitChar_of_mem_toDigits {n : Nat} (h : c ∈ Nat.toDigits 16 n) :
    ∃ d < 16, c = Nat.digitChar d := by
  induction n using Nat.strongRecOn with
  | ind n ih =>
    rw [Nat.toDigits_eq_if (by omega)] at h
    split at h
    next hlow => exact ⟨n, hlow, List.mem_singleton.mp h⟩
    next hhigh =>
      rcases List.mem_append.mp h with h | h
      · exact ih (n / 16) (Nat.div_lt_self (by omega) (by omega)) h
      · exact ⟨n % 16, Nat.mod_lt n (by omega), List.mem_singleton.mp h⟩

/-- No digit is a brace, so the brace behind a code point ends it. -/
theorem brace_notMem_toDigits (n : Nat) : '\x7d' ∉ Nat.toDigits 16 n := by
  intro h
  obtain ⟨d, hd, heq⟩ := exists_digitChar_of_mem_toDigits h
  have hdigits : ∀ d < 16, '\x7d' ≠ Nat.digitChar d := by decide
  exact hdigits d hd heq

theorem eq_of_toDigits_eq {n m : Nat} (h : Nat.toDigits 16 n = Nat.toDigits 16 m) : n = m := by
  have hdigit : ∀ d < 16, ∀ e < 16, Nat.digitChar d = Nat.digitChar e → d = e := by decide
  -- A number of one digit is not written like one of several.
  have hlast {front : List Char} {a b : Char} (hfront : front ≠ []) : [a] ≠ front ++ [b] := by
    cases front with
    | nil => exact absurd rfl hfront
    | cons x front => simp
  induction n using Nat.strongRecOn generalizing m with
  | ind n ih =>
    rw [Nat.toDigits_eq_if (n := n) (by omega), Nat.toDigits_eq_if (n := m) (by omega)] at h
    by_cases hn : n < 16 <;> by_cases hm : m < 16
    · rw [if_pos hn, if_pos hm] at h
      exact hdigit n hn m hm (List.singleton_inj.mp h)
    · rw [if_pos hn, if_neg hm] at h
      exact absurd h (hlast Nat.toDigits_ne_nil)
    · rw [if_neg hn, if_pos hm] at h
      exact absurd h.symm (hlast Nat.toDigits_ne_nil)
    · rw [if_neg hn, if_neg hm, List.append_singleton_inj] at h
      have hfront : n / 16 = m / 16 := ih (n / 16) (Nat.div_lt_self (by omega) (by omega)) h.1
      have hend : n % 16 = m % 16 :=
        hdigit _ (Nat.mod_lt n (by omega)) _ (Nat.mod_lt m (by omega)) h.2
      omega

/-! ## Literals read back -/

/-- What stands for a character is no quote. -/
theorem Stands.append_ne (h : Stands c piece) : piece ++ rest ≠ '"' :: rest' := by
  cases h with
  | plain _ hquote => simp [hquote]
  | letter he => simp
  | codePoint => simp

/-- What stands for a character tells which one it is, whatever follows. -/
theorem Stands.unique (h : Stands c piece) (h' : Stands c' piece')
    (heq : piece ++ rest = piece' ++ rest') : c = c' ∧ rest = rest' := by
  -- The letter behind a backslash tells its character, and it is not the one of code points.
  have hletter : ∀ a ∈ letterEscapes, ∀ b ∈ letterEscapes, a.2 = b.2 → a.1 = b.1 := by decide
  have hcode : ∀ a ∈ letterEscapes, a.2 ≠ 'u' := by decide
  cases h with
  | plain _ _ hslash =>
    cases h' with
    | plain => simpa using heq
    | letter => exact absurd (List.cons.inj heq).1 hslash
    | codePoint => exact absurd (List.cons.inj heq).1 hslash
  | letter he =>
    cases h' with
    | plain _ _ hslash => exact absurd (List.cons.inj heq).1.symm hslash
    | letter he' =>
      obtain ⟨hsame, hrest⟩ : _ ∧ _ := by simpa using heq
      exact ⟨hletter _ he _ he' hsame, hrest⟩
    | codePoint =>
      exact absurd (List.cons.inj (List.cons.inj heq).2).1 (hcode _ he)
  | codePoint =>
    cases h' with
    | plain _ _ hslash => exact absurd (List.cons.inj heq).1.symm hslash
    | letter he' => exact absurd (List.cons.inj (List.cons.inj heq).2).1.symm (hcode _ he')
    | codePoint =>
      simp only [List.cons_append, List.append_assoc, List.nil_append, List.cons.injEq,
        true_and] at heq
      rw [append_cons_eq_append_cons_iff (brace_notMem_toDigits _) (brace_notMem_toDigits _)] at heq
      exact ⟨Char.toNat_inj.mp (eq_of_toDigits_eq heq.1), heq.2⟩

theorem eq_of_flatten_append_eq {text text' : List Char} {pieces pieces' : List (List Char)}
    (h : List.Forall₂ Stands text pieces) (h' : List.Forall₂ Stands text' pieces')
    (heq : pieces.flatten ++ '"' :: rest = pieces'.flatten ++ '"' :: rest') :
    text = text' ∧ rest = rest' := by
  induction h generalizing text' pieces' with
  | nil =>
    cases h' with
    | nil => exact ⟨rfl, (List.cons.inj heq).2⟩
    | cons hfirst' =>
      rw [List.flatten_cons, List.append_assoc] at heq
      exact absurd heq.symm hfirst'.append_ne
  | cons hfirst hlater ih =>
    cases h' with
    | nil =>
      rw [List.flatten_cons, List.append_assoc] at heq
      exact absurd heq hfirst.append_ne
    | cons hfirst' hlater' =>
      rw [List.flatten_cons, List.append_assoc, List.flatten_cons, List.append_assoc] at heq
      obtain ⟨rfl, heq⟩ := hfirst.unique hfirst' heq
      obtain ⟨rfl, hrest⟩ := ih hlater' heq
      exact ⟨rfl, hrest⟩

/-- A literal tells its text, whatever follows. -/
theorem IsLiteral.unique {t t' literal literal' : String} (h : IsLiteral t literal)
    (h' : IsLiteral t' literal') (heq : literal.toList ++ rest = literal'.toList ++ rest') :
    t = t' ∧ rest = rest' := by
  obtain ⟨pieces, hpieces, hliteral⟩ := h
  obtain ⟨pieces', hpieces', hliteral'⟩ := h'
  rw [hliteral, hliteral'] at heq
  simp only [List.cons_append, List.append_assoc, List.nil_append, List.cons.injEq,
    true_and] at heq
  obtain ⟨htext, hrest⟩ := eq_of_flatten_append_eq hpieces hpieces' heq
  exact ⟨String.toList_inj.mp htext, hrest⟩

theorem IsLiteral.exists_toList_eq {t literal : String} (h : IsLiteral t literal) :
    ∃ inner, literal.toList = '"' :: inner := by
  obtain ⟨pieces, -, hliteral⟩ := h
  exact ⟨_, hliteral⟩

/-! ## Lists of literals -/

/-- What follows a literal of a list: the later ones, each behind a comma, and the bracket. -/
def behindLiteral : List String → List Char
  | [] => [']']
  | literal :: later => ',' :: ' ' :: (literal.toList ++ behindLiteral later)

theorem intercalate_append_eq (literal : String) (later : List String) :
    [',', ' '].intercalate ((literal :: later).map String.toList) ++ [']'] =
      literal.toList ++ behindLiteral later := by
  induction later generalizing literal with
  | nil => rw [List.map_singleton, List.intercalate_singleton, behindLiteral]
  | cons next later ih =>
    rw [List.map_cons, List.map_cons, List.intercalate_cons_cons, List.append_assoc,
      List.append_assoc, ← List.map_cons, ih, behindLiteral]
    rfl

variable {texts texts' literals literals' : List String}

/-- Each later literal tells its text. The bracket ends them, since a comma would stand there
otherwise. -/
theorem eq_of_behindLiteral_eq (h : List.Forall₂ IsLiteral texts literals)
    (h' : List.Forall₂ IsLiteral texts' literals')
    (heq : behindLiteral literals = behindLiteral literals') : texts = texts' := by
  induction h generalizing texts' literals' with
  | nil =>
    cases h' with
    | nil => rfl
    | cons => cases (List.cons.inj heq).1
  | cons hfirst hlater ih =>
    cases h' with
    | nil => cases (List.cons.inj heq).1
    | cons hfirst' hlater' =>
      obtain ⟨rfl, hrest⟩ := hfirst.unique hfirst' (List.cons.inj (List.cons.inj heq).2).2
      rw [ih hlater' hrest]

/-- The texts of a list of literals are read in one way. -/
theorem eq_of_intercalate_eq (h : List.Forall₂ IsLiteral texts literals)
    (h' : List.Forall₂ IsLiteral texts' literals')
    (heq : "[" ++ String.intercalate ", " literals ++ "]" =
      "[" ++ String.intercalate ", " literals' ++ "]") : texts = texts' := by
  have hinside : [',', ' '].intercalate (literals.map String.toList) ++ [']'] =
      [',', ' '].intercalate (literals'.map String.toList) ++ [']'] := by
    simpa [String.toList_intercalate] using congrArg String.toList heq
  -- A list of no texts has its bracket where another one has a quote.
  have hquote {t literal : String} {later : List String} (hfirst : IsLiteral t literal) :
      [']'] ≠ literal.toList ++ behindLiteral later := by
    obtain ⟨inner, hinner⟩ := hfirst.exists_toList_eq
    simp [hinner]
  cases h with
  | nil =>
    cases h' with
    | nil => rfl
    | cons hfirst' =>
      rw [intercalate_append_eq] at hinside
      exact absurd hinside (hquote hfirst')
  | cons hfirst hlater =>
    rw [intercalate_append_eq] at hinside
    cases h' with
    | nil => exact absurd hinside.symm (hquote hfirst)
    | cons hfirst' hlater' =>
      rw [intercalate_append_eq] at hinside
      obtain ⟨rfl, hrest⟩ := hfirst.unique hfirst' hinside
      rw [eq_of_behindLiteral_eq hlater hlater' hrest]

end Outlays.Text

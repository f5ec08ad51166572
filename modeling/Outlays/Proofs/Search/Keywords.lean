import Outlays.Search.Query

/-!
# What is left of a keyword's operators

A text of the query language has operators of two kinds: characters, each of which a backslash
before it takes away, and the words that connect conditions. A keyword is meant to be searched for
as it stands, so its text in a query ought to have neither. Here the text is read the way the
language reads it, a backslash with the character behind it, and without a look at how it was made.

The characters are all taken for themselves. The words are not: none of their letters is escaped, so
a keyword with `AND` in it is two keywords to the index.

## Main definitions

* `QueryText.reserved`, `QueryText.connectives` — the operators of the query language
* `QueryText.read` — the characters of a text, with what is taken for itself
* `QueryText.HasOperator` — an operator stands in the text

## Main results

* `Query.read_escapeWords` — the text of a keyword is read as the keyword
* `Query.words_escapeWords` — it has the words of the keyword
* `Query.operators_of_keyword` — the operators that a keyword leaves in its text
-/

namespace Outlays

/-! ## Texts of the query language -/

namespace QueryText

/-- The characters with a meaning in the query language. -/
def reserved : List Char :=
  ['\\', '+', '-', '!', '(', ')', ':', '^', '[', ']', '"', '\x7b', '\x7d', '~', '*', '?', '|', '&',
    '/', '<', '>', '=']

/-- The words that connect conditions. -/
def connectives : List (List Char) := [['A', 'N', 'D'], ['O', 'R'], ['N', 'O', 'T']]

/-- The characters of a text, and whether each is taken for itself. A backslash says so of the
character behind it, whatever that is, and does not count as one. -/
def read : List Char → List (Bool × Char)
  | '\\' :: c :: rest => (true, c) :: read rest
  | c :: rest => (false, c) :: read rest
  | [] => []

/-- An operator stands in the text: a reserved character that is not taken for itself, or a
connective between blanks. -/
def HasOperator (text : List Char) : Prop :=
  (∃ c ∈ reserved, (false, c) ∈ read text) ∨ ∃ word ∈ connectives, word ∈ Text.words text

theorem read_backslash (c : Char) (rest : List Char) :
    read ('\\' :: c :: rest) = (true, c) :: read rest := by
  rw [read]

theorem read_cons {c : Char} (h : c ≠ '\\') (rest : List Char) :
    read (c :: rest) = (false, c) :: read rest := by
  rw [read]
  intro _ _ hc
  exact absurd hc h

theorem not_isBlank_of_mem_reserved : ∀ c ∈ reserved, Text.isBlank c = false := by
  simp [reserved, Text.isBlank]

theorem not_mem_reserved_of_mem_connectives :
    ∀ word ∈ connectives, ∀ c ∈ word, c ∉ reserved := by
  simp [connectives, reserved]

end QueryText

namespace Query

open QueryText

/-! ## Characters -/

/-- What is escaped are the characters with a meaning. -/
theorem mem_operators_iff {c : Char} : c ∈ operators ↔ c ∈ reserved := by
  have hperm : operators.Perm reserved := by decide
  exact hperm.mem_iff

theorem escapeWords_cons_of_mem {c : Char} (h : c ∈ reserved) (cs : List Char) :
    escapeWords (c :: cs) = '\\' :: c :: escapeWords cs := by
  simp [escapeWords, mem_operators_iff, h]

theorem escapeWords_cons_of_not_mem {c : Char} (h : c ∉ reserved) (cs : List Char) :
    escapeWords (c :: cs) = c :: escapeWords cs := by
  simp [escapeWords, mem_operators_iff, h]

/-- The text of a keyword is read as the keyword, whatever follows it: all its characters and no
others, and those with a meaning are taken for themselves. -/
theorem read_escapeWords_append (cs rest : List Char) :
    read (escapeWords cs ++ rest) = (cs.map fun c => (decide (c ∈ reserved), c)) ++ read rest := by
  induction cs with
  | nil => rfl
  | cons c cs ih =>
    by_cases h : c ∈ reserved
    · rw [escapeWords_cons_of_mem h, List.cons_append, List.cons_append, read_backslash, ih,
        List.map_cons, List.cons_append, decide_eq_true h]
    · have hbackslash : c ≠ '\\' := by
        rintro rfl
        exact h (by decide)
      rw [escapeWords_cons_of_not_mem h, List.cons_append, read_cons hbackslash, ih, List.map_cons,
        List.cons_append, decide_eq_false h]

theorem read_escapeWords (cs : List Char) :
    read (escapeWords cs) = cs.map fun c => (decide (c ∈ reserved), c) := by
  have hread := read_escapeWords_append cs []
  rwa [List.append_nil, QueryText.read, List.append_nil] at hread

/-- A text without reserved characters is the text of itself, and of no other keyword. -/
theorem escapeWords_eq_iff {cs word : List Char} (h : ∀ c ∈ word, c ∉ reserved) :
    escapeWords cs = word ↔ cs = word := by
  have hself : escapeWords word = word := by
    induction word with
    | nil => rfl
    | cons c word ih =>
      rw [escapeWords_cons_of_not_mem (h c List.mem_cons_self),
        ih fun c hc => h c (List.mem_cons_of_mem _ hc)]
  constructor
  · intro heq
    -- Read back, both texts give the keyword that they were made of.
    have hread := congrArg (fun text => (read text).map Prod.snd) (heq.trans hself.symm)
    simpa [read_escapeWords, Function.comp_def] using hread
  · rintro rfl
    exact hself

/-! ## Words -/

/-- The words read so far, each of them escaped. -/
def escapeAll (state : Bool × List (List Char)) : Bool × List (List Char) :=
  (state.1, state.2.map escapeWords)

/-- One more character makes no difference to where words begin and end. -/
theorem wordStep_escapeAll {c : Char} (h : c ∉ reserved) (state : Bool × List (List Char)) :
    Text.wordStep c (escapeAll state) = escapeAll (Text.wordStep c state) := by
  have hcons (cs : List Char) := escapeWords_cons_of_not_mem h cs
  have hnil : escapeWords [] = [] := rfl
  obtain ⟨open?, words⟩ := state
  unfold Text.wordStep escapeAll
  cases Text.isBlank c with
  | true => rfl
  | false =>
    rcases open? with _ | _ <;> rcases words with _ | ⟨word, words⟩ <;>
      simp only [Bool.false_eq_true, if_false, List.map_nil, List.map_cons, hcons, hnil]

/-- Nor does a reserved one with the backslash before it. -/
theorem wordStep_escapeAll_of_mem {c : Char} (h : c ∈ reserved)
    (state : Bool × List (List Char)) :
    Text.wordStep '\\' (Text.wordStep c (escapeAll state)) =
      escapeAll (Text.wordStep c state) := by
  have hblank : Text.isBlank c = false := not_isBlank_of_mem_reserved c h
  have hbackslash : Text.isBlank '\\' = false := by decide
  have hcons (cs : List Char) := escapeWords_cons_of_mem h cs
  have hnil : escapeWords [] = [] := rfl
  obtain ⟨open?, words⟩ := state
  unfold Text.wordStep escapeAll
  rcases open? with _ | _ <;> rcases words with _ | ⟨word, words⟩ <;>
    simp only [hblank, hbackslash, Bool.false_eq_true, if_false, List.map_nil, List.map_cons,
      hcons, hnil]

/-- The text of a keyword has its words, each escaped by itself: no reserved character is a blank,
and a backslash is none either. -/
theorem words_escapeWords (cs : List Char) :
    Text.words (escapeWords cs) = (Text.words cs).map escapeWords := by
  -- By induction on the keyword, with whether its first word is still open.
  have hfold : (escapeWords cs).foldr Text.wordStep (false, []) =
      escapeAll (cs.foldr Text.wordStep (false, [])) := by
    induction cs with
    | nil => rfl
    | cons c cs ih =>
      by_cases h : c ∈ reserved
      · rw [escapeWords_cons_of_mem h, List.foldr_cons, List.foldr_cons, ih,
          wordStep_escapeAll_of_mem h, List.foldr_cons]
      · rw [escapeWords_cons_of_not_mem h, List.foldr_cons, ih, wordStep_escapeAll h,
          List.foldr_cons]
  rw [Text.words, hfold]
  rfl

theorem mem_words_escapeWords_iff {cs word : List Char} (h : word ∈ connectives) :
    word ∈ Text.words (escapeWords cs) ↔ word ∈ Text.words cs := by
  rw [words_escapeWords, List.mem_map]
  constructor
  · rintro ⟨t, ht, heq⟩
    rwa [(escapeWords_eq_iff (not_mem_reserved_of_mem_connectives word h)).mp heq] at ht
  · intro hmem
    exact ⟨word, hmem,
      (escapeWords_eq_iff (not_mem_reserved_of_mem_connectives word h)).mpr rfl⟩

/-! ## Keywords -/

theorem not_mem_read_escapeWords {c : Char} (h : c ∈ reserved) (cs : List Char) :
    (false, c) ∉ read (escapeWords cs) := by
  rw [read_escapeWords, List.mem_map]
  rintro ⟨d, -, hd⟩
  obtain ⟨hplain, rfl⟩ := Prod.mk.inj hd
  exact of_decide_eq_false hplain h

/-- The text of a keyword is read as the keyword, with every reserved character taken for itself.
The operators that are left in it are the connectives that stand between blanks in the keyword, and
there are no others. -/
theorem operators_of_keyword (keyword : String) :
    read (escapeWords keyword.toList) =
        keyword.toList.map (fun c => (decide (c ∈ reserved), c)) ∧
      (∀ c ∈ reserved, (false, c) ∉ read (escapeWords keyword.toList)) ∧
      (∀ word ∈ connectives, word ∈ Text.words (escapeWords keyword.toList) ↔
        word ∈ Text.words keyword.toList) ∧
      (HasOperator (escapeWords keyword.toList) ↔
        ∃ word ∈ connectives, word ∈ Text.words keyword.toList) := by
  refine ⟨read_escapeWords _, fun c hc => not_mem_read_escapeWords hc _,
    fun word hword => mem_words_escapeWords_iff hword, ?_⟩
  constructor
  · rintro (⟨c, hc, hread⟩ | ⟨word, hword, hmem⟩)
    · exact absurd hread (not_mem_read_escapeWords hc _)
    · exact ⟨word, hword, (mem_words_escapeWords_iff hword).mp hmem⟩
  · rintro ⟨word, hword, hmem⟩
    exact .inr ⟨word, hword, (mem_words_escapeWords_iff hword).mpr hmem⟩

/-- A keyword can leave an operator in its text. -/
theorem not_literal_saltAndPepper :
    ¬ ∀ keyword : String, ¬ HasOperator (escapeWords keyword.toList) := by
  intro h
  refine h "salt AND pepper" (.inr ⟨['A', 'N', 'D'], by decide, ?_⟩)
  decide

end Query

end Outlays

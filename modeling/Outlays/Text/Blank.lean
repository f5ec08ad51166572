/-!
# Blank characters

Texts that clients send are trimmed, split and tested for being blank by the Unicode property
`White_Space`, which holds of 25 characters: more than the ASCII blanks and fewer than the
characters that print nothing. Everything here works on the list of a text's characters.
-/

namespace Outlays.Text

/-- The character has the Unicode property `White_Space`. -/
def isBlank (c : Char) : Bool :=
  let n := c.toNat
  (9 ≤ n && n ≤ 13) || n == 0x20 || n == 0x85 || n == 0xA0 || n == 0x1680
    || (0x2000 ≤ n && n ≤ 0x200A) || n == 0x2028 || n == 0x2029 || n == 0x202F
    || n == 0x205F || n == 0x3000

/-- Every character that core calls white space is blank. -/
theorem isBlank_of_isWhitespace {c : Char} (h : c.isWhitespace = true) : isBlank c = true := by
  simp only [Char.isWhitespace, Bool.or_eq_true, decide_eq_true_eq] at h
  rcases h with ((rfl | rfl) | rfl) | rfl <;> decide

/-- The text without its leading blanks. -/
def trimStart (cs : List Char) : List Char := cs.dropWhile isBlank

/-- The text without its trailing blanks. -/
def trimEnd (cs : List Char) : List Char := (cs.reverse.dropWhile isBlank).reverse

/-- The text without its leading and trailing blanks. -/
def trim (cs : List Char) : List Char := trimEnd (trimStart cs)

/-- A text with nothing in it but blanks; the empty text is one. -/
def isBlankText (s : String) : Bool := s.toList.all isBlank

/-- Adds one character in front of the words read so far; `open?` tells whether the first of
them is still being read. -/
def wordStep (c : Char) : Bool × List (List Char) → Bool × List (List Char)
  | (open?, words) =>
    if isBlank c then (false, words)
    else match open?, words with
      | true, word :: rest => (true, (c :: word) :: rest)
      | _, _ => (true, [c] :: words)

/-- The longest runs of characters that are not blank, in order. -/
def words (cs : List Char) : List (List Char) := (cs.foldr wordStep (false, [])).2

end Outlays.Text

import Outlays.Text.CombiningTables

/-!
# Composed texts

A letter with marks can be written in several ways: as one character, or as a letter and its marks,
and marks that do not touch each other in any order. The composed form is the same for all of them:
every character is taken apart, the marks are sorted by where they are set, and what one character
stands for is put together again.

## Main definitions

* `Text.combiningClass`
* `Text.joined?`, `Text.split?` — one character for two, and two for one
* `Text.composed` — the composed form of a text
-/

namespace Outlays.Text

/-- Where a character is set at the one before it; 0 if it does not combine. -/
def combiningClass (c : Char) : Nat :=
  match combiningClasses.find? fun (_, ranges) => inRanges ranges c.toNat with
  | some (place, _) => place
  | none => 0

/-- The syllable of Hangul for a consonant and a vowel, or for a syllable without an end and the
consonant that ends it. -/
def syllable? (a b : Nat) : Option Nat :=
  if 0x1100 ≤ a && a ≤ 0x1112 && 0x1161 ≤ b && b ≤ 0x1175 then
    some (0xAC00 + ((a - 0x1100) * 21 + (b - 0x1161)) * 28)
  else if 0xAC00 ≤ a && a ≤ 0xD7A3 && (a - 0xAC00) % 28 == 0 && 0x11A8 ≤ b && b ≤ 0x11C2 then
    some (a + (b - 0x11A7))
  else none

/-- The two characters that a syllable of Hangul stands for. -/
def syllableParts? (n : Nat) : Option (Nat × Nat) :=
  if 0xAC00 ≤ n && n ≤ 0xD7A3 then
    let i := n - 0xAC00
    if i % 28 == 0 then some (0x1100 + i / 588, 0x1161 + i % 588 / 28)
    else some (n - i % 28, 0x11A7 + i % 28)
  else none

/-- A syllable is made of the two characters that it was put together from. -/
theorem syllableParts?_of_syllable? {a b n : Nat} (h : syllable? a b = some n) :
    syllableParts? n = some (a, b) := by
  simp only [syllable?, Bool.and_eq_true, decide_eq_true_eq, beq_iff_eq] at h
  split at h
  · obtain rfl := Option.some.inj h
    have whole : (0xAC00 + ((a - 0x1100) * 21 + (b - 0x1161)) * 28 - 0xAC00) % 28 = 0 := by omega
    rw [syllableParts?, if_pos (by simp only [Bool.and_eq_true, decide_eq_true_eq]; omega)]
    simp only [beq_iff_eq, whole, if_pos, Option.some.injEq, Prod.mk.injEq]
    omega
  · split at h
    · obtain rfl := Option.some.inj h
      have rest : (a + (b - 0x11A7) - 0xAC00) % 28 = b - 0x11A7 := by omega
      have ended : ¬ b - 0x11A7 = 0 := by omega
      rw [syllableParts?, if_pos (by simp only [Bool.and_eq_true, decide_eq_true_eq]; omega)]
      simp only [beq_iff_eq, rest, if_neg ended, Option.some.injEq, Prod.mk.injEq]
      omega
    · simp at h

/-- The character that stands for two. -/
def joined? (a b : Char) : Option Char :=
  let whole := (syllable? a.toNat b.toNat).or do
    let (_, pairs) ← compositions.find? (·.1 == b.toNat)
    let (_, n) ← pairs.find? (·.1 == a.toNat)
    return n
  whole.map Char.ofNat

/-- The two characters that one stands for. -/
def split? (c : Char) : Option (Char × Char) :=
  let parts := (syllableParts? c.toNat).or (compositions.findSome? fun (b, pairs) =>
    (pairs.find? (·.2 == c.toNat)).map fun (a, _) => (a, b))
  parts.map fun (a, b) => (Char.ofNat a, Char.ofNat b)

/-- The most parts that a character has. -/
def mostParts : Nat := 4

/-- Takes a character apart, at most so many times. -/
def parts : Nat → Char → List Char
  | 0, c => [c]
  | n + 1, c =>
    match split? c with
    | some (a, b) => parts n a ++ [b]
    | none => [c]

/-- Puts a character in front of sorted ones, behind the marks that come before it. -/
def place (c : Char) : List Char → List Char
  | [] => [c]
  | d :: rest =>
    if combiningClass d != 0 && combiningClass d < combiningClass c then d :: place c rest
    else c :: d :: rest

/-- The marks after each character sorted by their classes; those of one class keep their order. -/
def sortMarks (cs : List Char) : List Char := cs.foldr place []

/-- Puts together what one character stands for. The first character collects what follows it; a
mark of the same or a higher class in between keeps the two apart. -/
def collect (first : Char) (marks : List Char) : List Char → List Char
  | [] => first :: marks
  | c :: rest =>
    let kept := marks.getLast?.any fun m => combiningClass c ≤ combiningClass m
    match if kept then none else joined? first c with
    | some whole => collect whole marks rest
    | none =>
      if combiningClass c = 0 then first :: marks ++ collect c [] rest
      else collect first (marks ++ [c]) rest

/-- The composed form of a text. Characters that no composed text holds must have been replaced by
what they stand for. -/
def composed (cs : List Char) : List Char :=
  let sorted := sortMarks (cs.flatMap (parts mostParts))
  let isLoose (c : Char) : Bool := combiningClass c != 0
  match sorted.dropWhile isLoose with
  | [] => sorted
  | c :: rest => sorted.takeWhile isLoose ++ collect c [] rest

end Outlays.Text

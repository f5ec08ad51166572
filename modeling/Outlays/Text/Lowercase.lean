import Outlays.Text.CaseTables

/-!
# Lower case

The full lower-case mapping of a text. One capital letter gives two characters (a dotted capital
I), and a capital sigma takes its final form at the end of a word; every other capital goes to one
letter wherever it stands.
-/

namespace Outlays.Text

/-- A capital letter of ASCII stands 32 places before its small one, and any other character is its
own. -/
theorem toLower_cases (c : Char) :
    ((65 ≤ c.toNat ∧ c.toNat ≤ 90) ∧ c.toLower.toNat = c.toNat + 32 ∧
      c.toLower.toLower = c.toLower) ∨ c.toLower = c := by
  by_cases hc : c.toNat < 0x80
  · have hall : ∀ n < 0x80,
        ((65 ≤ (Char.ofNat n).toNat ∧ (Char.ofNat n).toNat ≤ 90) ∧
          (Char.ofNat n).toLower.toNat = (Char.ofNat n).toNat + 32 ∧
          (Char.ofNat n).toLower.toLower = (Char.ofNat n).toLower) ∨
          (Char.ofNat n).toLower = Char.ofNat n := by
      decide
    have hchar := hall c.toNat hc
    rwa [Char.ofNat_toNat] at hchar
  -- Beyond ASCII there are no capital letters to this function.
  · have hrange : ¬ (c.val ≥ 'A'.val ∧ c.val ≤ 'Z'.val) := by
      rintro ⟨-, hle⟩
      exact hc (Nat.lt_of_le_of_lt (UInt32.le_iff_toNat_le.mp hle) (by decide))
    exact .inr (dif_neg hrange)

/-- The run of the table that moves the code point, as its lower-case form. -/
def lowerInRuns (runs : List (Nat × Nat × Nat × Nat)) (n : Nat) : Nat :=
  match runs.find? fun (first, last, stride, _) =>
      first ≤ n && n ≤ last && (n - first) % stride == 0 with
  | some (first, _, _, low) => low + (n - first)
  | none => n

/-- The lower-case form of one character, where it does not depend on its neighbours. -/
def lowerChar (c : Char) : List Char :=
  if c.toNat < 0x80 then [c.toLower]
  else if c.toNat = 0x130 then ['i', '\u0307']
  else [Char.ofNat (lowerInRuns lowerRuns c.toNat)]

/-- The character is cased and counts when a final sigma is looked for. -/
def isCased (c : Char) : Bool := inRanges casedRanges c.toNat

/-- The character is passed over when a final sigma is looked for. -/
def isCaseIgnorable (c : Char) : Bool := inRanges caseIgnorableRanges c.toNat

/-- The first character that is not case-ignorable is cased. -/
def startsCased (cs : List Char) : Bool :=
  match cs.dropWhile isCaseIgnorable with
  | c :: _ => isCased c
  | [] => false

/-- Lower-cases a text, given the characters before it with the nearest first. A capital sigma
is final when a cased character stands before it and none stands after it. -/
def lowerAfter (before : List Char) : List Char → List Char
  | [] => []
  | 'Σ' :: rest =>
    (if startsCased before && !startsCased rest then 'ς' else 'σ')
      :: lowerAfter ('Σ' :: before) rest
  | c :: rest => lowerChar c ++ lowerAfter (c :: before) rest

/-- The text in lower case. -/
def lowercase (s : String) : String := String.ofList (lowerAfter [] s.toList)

end Outlays.Text

/-!
# Labels in ASCII

A label beyond ASCII is written in ASCII: its ASCII characters come first, and then, after a
hyphen, where each of the other characters is to be inserted, in the order of their code points.
Places are numbers of variable length in letters and digits, the lowest first; after each number
the thresholds that end one move to where the next number is expected.

## Main definitions

* `Label.encode` — the ASCII form, without what is put in front of all such labels
* `Label.decode?` — the characters that an ASCII form stands for
-/

namespace Outlays.Label

/-- The letter or digit with a value below 36. -/
def digit (n : Nat) : Char := Char.ofNat (if n < 26 then 0x61 + n else 0x16 + n)

/-- The value of a letter in either case or a digit. -/
def digitValue? (c : Char) : Option Nat :=
  if c.isDigit then some (c.toNat - 0x16)
  else if c.isAlpha then some (c.toLower.toNat - 0x61)
  else none

/-- Reading a digit gives back its value. -/
theorem digitValue?_digit {n : Nat} (h : n < 36) : digitValue? (digit n) = some n := by
  have all : ∀ m < 36, digitValue? (digit m) = some m := by decide
  exact all n h

/-- The value at which a digit is the last one of its number. -/
def threshold (bias position : Nat) : Nat :=
  if position ≤ bias then 1 else if bias + 26 ≤ position then 26 else position - bias

/-- A zero is always the last digit of its number. -/
theorem threshold_pos (bias position : Nat) : 0 < threshold bias position := by
  unfold threshold
  split
  · omega
  · split <;> omega

/-- Divides a distance until it is small, and counts the positions. -/
def shrink (distance position : Nat) : Nat × Nat :=
  if distance > 455 then shrink (distance / 35) (position + 36) else (distance, position)
termination_by distance
decreasing_by exact Nat.div_lt_self (by omega) (by omega)

/-- The bias after a distance, with so many characters in the label. -/
def nextBias (distance count : Nat) (isFirst : Bool) : Nat :=
  let distance := if isFirst then distance / 700 else distance / 2
  let (distance, position) := shrink (distance + distance / count) 0
  position + 36 * distance / (distance + 38)

/-! ### Writing -/

/-- The digits of a number, from a position on. -/
def numeral (bias position n : Nat) : List Char :=
  let t := threshold bias position
  if n < t then [digit n]
  else digit (t + (n - t) % (36 - t)) :: numeral bias (position + 36) ((n - t) / (36 - t))
termination_by n
decreasing_by
  have := threshold_pos bias position
  exact Nat.lt_of_le_of_lt (Nat.div_le_self _ _) (by omega)

/-- What has been written: the text, the distance to the next insertion, the bias, and how many
characters are in the label. -/
structure Writing where
  text : List Char
  distance : Nat
  bias : Nat
  count : Nat

/-- Passes a character of the label, and writes the distance if it is the one to insert. -/
def Writing.pass (basic n : Nat) (w : Writing) (c : Char) : Writing :=
  if c.toNat < n then { w with distance := w.distance + 1 }
  else if c.toNat = n then
    { text := w.text ++ numeral w.bias 36 w.distance, distance := 0
      bias := nextBias w.distance (w.count + 1) (w.count == basic), count := w.count + 1 }
  else w

/-- Writes where the characters with the given code points are inserted, the last of which was
below `n`. -/
def Writing.insertAll (cs : List Char) (basic n : Nat) (w : Writing) : List Nat → Writing
  | [] => w
  | m :: rest =>
    let w := { w with distance := w.distance + (m - n) * (w.count + 1) }
    let w := cs.foldl (pass basic m) w
    insertAll cs basic (m + 1) { w with distance := w.distance + 1 } rest

/-- The ASCII characters. -/
def basic (cs : List Char) : List Char := cs.filter (·.toNat < 0x80)

/-- The code points beyond ASCII, in order and without repetitions. -/
def others (cs : List Char) : List Nat :=
  ((cs.map Char.toNat).filter (0x80 ≤ ·)).eraseDups.mergeSort (fun a b => decide (a ≤ b))

/-- The ASCII form of a label. -/
def encode (cs : List Char) : List Char :=
  let front := basic cs
  let start := if front.isEmpty then [] else front ++ ['-']
  (Writing.insertAll cs front.length 0x80 ⟨start, 0, 72, front.length⟩ (others cs)).text

/-! ### Reading -/

/-- Numbers that are not below it are refused. -/
def numberLimit : Nat := 4294967296

/-- Reads a number from a position on, with the value so far and the weight of the next digit. -/
def numeral? (bias : Nat) : List Char → Nat → Nat → Nat → Option (Nat × List Char)
  | [], _, _, _ => none
  | c :: rest, position, weight, n => do
    let d ← digitValue? c
    let t := threshold bias position
    let n := n + d * weight
    if n ≥ numberLimit then none
    else if d < t then some (n, rest)
    else if weight * (36 - t) ≥ numberLimit then none
    else numeral? bias rest (position + 36) (weight * (36 - t)) n

/-- Reading a number takes at least one character. -/
theorem length_of_numeral? {bias : Nat} {cs : List Char} {position weight n : Nat}
    {r : Nat × List Char} (h : numeral? bias cs position weight n = some r) :
    r.2.length < cs.length := by
  induction cs generalizing position weight n with
  | nil => simp [numeral?] at h
  | cons c rest ih =>
    simp only [numeral?, Option.bind_eq_bind, Option.bind_eq_some_iff] at h
    obtain ⟨d, -, h⟩ := h
    split at h
    · simp at h
    · split at h
      · simp only [Option.some.injEq] at h
        subst h
        simp
      · split at h
        · simp at h
        · have := ih h
          simp only [List.length_cons]
          omega

/-- Inserts what the numbers say into the characters so far. -/
def insertAll? (bias n place : Nat) (done cs : List Char) : Option (List Char) :=
  match cs with
  | [] => some done
  | c :: rest =>
    match _h : numeral? bias (c :: rest) 36 1 place with
    | none => none
    | some (total, left) =>
      let count := done.length + 1
      let n := n + total / count
      if n.isValidChar then
        insertAll? (nextBias (total - place) count (place == 0)) n (total % count + 1)
          (done.insertIdx (total % count) (Char.ofNat n)) left
      else none
termination_by cs.length
decreasing_by simpa using length_of_numeral? _h

/-- The characters that an ASCII form stands for. A hyphen in front of everything else parts
nothing. -/
def decode? (cs : List Char) : Option (List Char) :=
  let back := cs.reverse
  let front := ((back.dropWhile (· != '-')).drop 1).reverse
  if front.isEmpty then insertAll? 72 0x80 0 [] cs
  else insertAll? 72 0x80 0 front (back.takeWhile (· != '-')).reverse

end Outlays.Label

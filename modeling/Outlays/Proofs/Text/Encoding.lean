import Mathlib.Tactic.SplitIfs
import Outlays.Json.Parser

/-!
# Characters as bytes

A character is written in one to four bytes, and whoever reads them finds it again, whatever bytes
follow. The first byte tells how many there are, and each first byte leaves the second one room for
exactly the characters that are written with it.

## Main definitions

* `Text.Follows` — a second byte that the first one leaves room for

## Main results

* `Text.firstPiece_utf8EncodeChar` — the bytes of a character are read as that character
* `Text.decodeLossy_encodeChars`, `Json.symbols_encodeChars` — the bytes of a text are read as its
  characters
* `Text.toNat_eq_of_mem_utf8EncodeChar`, `Text.toNat_eq_of_toChar_firstPiece` — bytes of ASCII stand
  for themselves, and no others do
-/

namespace Outlays

namespace Text

variable {b c d e : UInt8} {rest : List UInt8}

/-! ## Pieces by their first byte -/

theorem isTail_iff : isTail b = true ↔ 0x80 ≤ b.toNat ∧ b.toNat ≤ 0xBF := by
  simp [isTail, UInt8.le_iff_toNat_le]

/-- The second byte is one that the first byte leaves room for. -/
def Follows (c b : UInt8) : Prop := (secondBounds b).1 ≤ c ∧ c ≤ (secondBounds b).2

/-- Four first bytes leave less room than the others. -/
theorem follows_iff : Follows c b ↔
    if b.toNat = 0xE0 then 0xA0 ≤ c.toNat ∧ c.toNat ≤ 0xBF
    else if b.toNat = 0xED then 0x80 ≤ c.toNat ∧ c.toNat ≤ 0x9F
    else if b.toNat = 0xF0 then 0x90 ≤ c.toNat ∧ c.toNat ≤ 0xBF
    else if b.toNat = 0xF4 then 0x80 ≤ c.toNat ∧ c.toNat ≤ 0x8F
    else 0x80 ≤ c.toNat ∧ c.toNat ≤ 0xBF := by
  have hbyte (n : UInt8) : (b == n) = decide (b.toNat = n.toNat) := by
    simp [UInt8.toNat_inj, Bool.beq_eq_decide_eq]
  simp only [Follows, secondBounds, hbyte, decide_eq_true_iff, UInt8.le_iff_toNat_le]
  by_cases he0 : b.toNat = 0xE0
  · simp [he0]
  by_cases hed : b.toNat = 0xED
  · simp [hed]
  by_cases hf0 : b.toNat = 0xF0
  · simp [hf0]
  by_cases hf4 : b.toNat = 0xF4
  · simp [hf4]
  · simp [he0, hed, hf0, hf4]

theorem firstPiece_one (hb : b.toNat < 0x80) :
    firstPiece b rest = .char (Char.ofNat b.toNat) 1 := by
  have hone : b < 0x80 := UInt8.lt_iff_toNat_lt.mpr hb
  simp only [firstPiece, hone, if_true]

theorem firstPiece_two (hb : 0xC2 ≤ b.toNat ∧ b.toNat ≤ 0xDF) (hc : isTail c = true) :
    firstPiece b (c :: rest) = .char (Char.ofNat (b.toNat % 32 * 64 + tailBits c)) 2 := by
  have hone : ¬ b < 0x80 := by
    simp only [UInt8.lt_iff_toNat_lt, UInt8.reduceToNat]
    omega
  have htwo : (0xC2 ≤ b && b ≤ 0xDF) = true := by simpa [UInt8.le_iff_toNat_le] using hb
  simp only [firstPiece, hone, htwo, hc, if_true, if_false]

theorem firstPiece_three (hb : 0xE0 ≤ b.toNat ∧ b.toNat ≤ 0xEF) (hc : Follows c b)
    (hd : isTail d = true) :
    firstPiece b (c :: d :: rest) =
      .char (Char.ofNat (b.toNat % 16 * 4096 + tailBits c * 64 + tailBits d)) 3 := by
  have hone : ¬ b < 0x80 := by
    simp only [UInt8.lt_iff_toNat_lt, UInt8.reduceToNat]
    omega
  have htwo : ¬ (0xC2 ≤ b ∧ b ≤ 0xDF) := by
    simp only [UInt8.le_iff_toNat_le, UInt8.reduceToNat]
    omega
  have hthree : 0xE0 ≤ b ∧ b ≤ 0xEF := by simpa [UInt8.le_iff_toNat_le] using hb
  simp only [firstPiece, hone, Bool.and_eq_true, decide_eq_true_iff, htwo, hthree,
    show (secondBounds b).1 ≤ c from hc.1, show c ≤ (secondBounds b).2 from hc.2, hd, and_self,
    if_true, if_false]

theorem firstPiece_four (hb : 0xF0 ≤ b.toNat ∧ b.toNat ≤ 0xF4) (hc : Follows c b)
    (hd : isTail d = true) (he : isTail e = true) :
    firstPiece b (c :: d :: e :: rest) =
      .char (Char.ofNat (b.toNat % 8 * 262144 + tailBits c * 4096 + tailBits d * 64
        + tailBits e)) 4 := by
  have hone : ¬ b < 0x80 := by
    simp only [UInt8.lt_iff_toNat_lt, UInt8.reduceToNat]
    omega
  have htwo : ¬ (0xC2 ≤ b ∧ b ≤ 0xDF) := by
    simp only [UInt8.le_iff_toNat_le, UInt8.reduceToNat]
    omega
  have hthree : ¬ (0xE0 ≤ b ∧ b ≤ 0xEF) := by
    simp only [UInt8.le_iff_toNat_le, UInt8.reduceToNat]
    omega
  have hfour : 0xF0 ≤ b ∧ b ≤ 0xF4 := by simpa [UInt8.le_iff_toNat_le] using hb
  simp only [firstPiece, hone, Bool.and_eq_true, decide_eq_true_iff, htwo, hthree, hfour,
    show (secondBounds b).1 ≤ c from hc.1, show c ≤ (secondBounds b).2 from hc.2, hd, he, and_self,
    if_true, if_false]

/-! ## Pieces of written characters -/

/-- The bytes of a character are read as that character, whatever follows. -/
theorem firstPiece_utf8EncodeChar (c : Char) (rest : List UInt8) :
    ∃ b tail, String.utf8EncodeChar c = b :: tail ∧
      firstPiece b (tail ++ rest) = .char c (tail.length + 1) := by
  have hvalid : c.val.toNat < 0xD800 ∨ 0xDFFF < c.val.toNat ∧ c.val.toNat < 0x110000 := c.valid
  have hchar (n : Nat) (h : n = c.val.toNat) : Char.ofNat n = c := h ▸ Char.ofNat_toNat c
  rw [String.utf8EncodeChar]
  generalize c.val.toNat = v at hvalid hchar
  -- One case for each number of bytes; the bits of the bytes make up the number of the character.
  split
  · refine ⟨_, [], rfl, ?_⟩
    rw [firstPiece_one (by simp; omega), hchar _ (by simp; omega)]
    rfl
  split
  · refine ⟨_, [_], rfl, ?_⟩
    rw [List.singleton_append, firstPiece_two (by simp; omega) (isTail_iff.mpr (by simp; omega)),
      hchar _ (by simp [tailBits]; omega)]
    rfl
  split
  · refine ⟨_, [_, _], rfl, ?_⟩
    have hfollows : Follows (UInt8.ofNat (v / 64 % 64 + 128)) (UInt8.ofNat (v / 4096 % 16 + 224)) :=
      follows_iff.mpr (by simp; split_ifs <;> omega)
    rw [List.cons_append, List.singleton_append,
      firstPiece_three (by simp; omega) hfollows (isTail_iff.mpr (by simp; omega)),
      hchar _ (by simp [tailBits]; omega)]
    rfl
  · refine ⟨_, [_, _, _], rfl, ?_⟩
    have hfollows : Follows (UInt8.ofNat (v / 4096 % 64 + 128))
        (UInt8.ofNat (v / 262144 % 8 + 240)) :=
      follows_iff.mpr (by simp; split_ifs <;> omega)
    rw [List.cons_append, List.cons_append, List.singleton_append,
      firstPiece_four (by simp; omega) hfollows (isTail_iff.mpr (by simp; omega))
        (isTail_iff.mpr (by simp; omega)),
      hchar _ (by simp [tailBits]; omega)]
    rfl

/-- The bytes of a text start with those of its first character. -/
theorem exists_encodeChars_cons (c : Char) (cs : List Char) :
    ∃ b tail, encodeChars (c :: cs) = b :: (tail ++ encodeChars cs) ∧
      firstPiece b (tail ++ encodeChars cs) = .char c (tail.length + 1) := by
  obtain ⟨b, tail, hbytes, hpiece⟩ := firstPiece_utf8EncodeChar c (encodeChars cs)
  refine ⟨b, tail, ?_, hpiece⟩
  rw [encodeChars, List.flatMap_cons, hbytes, List.cons_append, encodeChars]

/-- The bytes of a text are read as the text. -/
theorem decodeLossy_encodeChars (cs : List Char) : decodeLossy (encodeChars cs) = cs := by
  induction cs with
  | nil => rw [encodeChars, List.flatMap_nil, decodeLossy]
  | cons c cs ih =>
    obtain ⟨b, tail, hbytes, hpiece⟩ := exists_encodeChars_cons c cs
    rw [hbytes, decodeLossy, hpiece, Piece.size, Nat.add_sub_cancel, List.drop_left, ih,
      Piece.toChar]

/-! ## ASCII -/

section Ascii

variable {a : Char} {bytes : List UInt8} {cs : List Char}

/-- A byte of ASCII is in no character but its own. -/
theorem toNat_eq_of_mem_utf8EncodeChar (h : b ∈ String.utf8EncodeChar a) (hb : b.toNat < 0x80) :
    a.toNat = b.toNat := by
  rw [String.utf8EncodeChar] at h
  rw [Char.toNat]
  generalize a.val.toNat = v at h
  split at h
  · obtain rfl := List.mem_singleton.mp h
    rw [UInt8.toNat_ofNat']
    omega
  -- All bytes of longer characters are beyond ASCII.
  · exfalso
    revert hb
    split at h
    · simp only [List.mem_cons, List.not_mem_nil, or_false] at h
      obtain rfl | rfl := h <;> simp <;> omega
    split at h
    · simp only [List.mem_cons, List.not_mem_nil, or_false] at h
      obtain rfl | rfl | rfl := h <;> simp <;> omega
    · simp only [List.mem_cons, List.not_mem_nil, or_false] at h
      obtain rfl | rfl | rfl | rfl := h <;> simp <;> omega

/-- A number that is none of a character stands for the character zero. -/
theorem toNat_ofNat_of_pos {n : Nat} (h : 0 < (Char.ofNat n).toNat) :
    (Char.ofNat n).toNat = n := by
  by_cases hn : n.isValidChar
  · rw [Char.ofNat, dif_pos hn]
    rfl
  · rw [Char.ofNat, dif_neg hn] at h
    exact absurd h (by decide)

/-- Nor is a character of ASCII read from any other byte. -/
theorem toNat_eq_of_toChar_firstPiece (h : (firstPiece b rest).toChar = a)
    (ha : 0 < a.toNat ∧ a.toNat < 0x80) : b.toNat = a.toNat := by
  by_cases hone : b.toNat < 0x80
  · rw [firstPiece_one hone, Piece.toChar] at h
    subst h
    exact (toNat_ofNat_of_pos ha.1).symm
  -- Broken pieces and characters of more than one byte are all beyond ASCII.
  have hbroken (size : Nat) : (Piece.broken size).toChar ≠ a := by
    rintro rfl
    exact absurd (show '\uFFFD'.toNat < 0x80 from ha.2) (by decide)
  have hlong (n size : Nat) (hn : 0x80 ≤ n) : (Piece.char (Char.ofNat n) size).toChar ≠ a := by
    rintro rfl
    have hvalue : (Char.ofNat n).toNat = n := toNat_ofNat_of_pos ha.1
    exact absurd (show (Char.ofNat n).toNat < 0x80 from ha.2) (by omega)
  have hthree (n : Nat) (hb : 0xE0 ≤ b ∧ b ≤ 0xEF) {c : UInt8} (hc : Follows c b) :
      0x80 ≤ b.toNat % 16 * 4096 + tailBits c * 64 + n := by
    rw [follows_iff] at hc
    simp only [UInt8.le_iff_toNat_le, UInt8.reduceToNat] at hb
    simp only [tailBits]
    split_ifs at hc <;> omega
  have hfour (n : Nat) (hb : 0xF0 ≤ b ∧ b ≤ 0xF4) {c : UInt8} (hc : Follows c b) :
      0x80 ≤ b.toNat % 8 * 262144 + tailBits c * 4096 + n := by
    rw [follows_iff] at hc
    simp only [UInt8.le_iff_toNat_le, UInt8.reduceToNat] at hb
    simp only [tailBits]
    split_ifs at hc <;> omega
  have hhigh : ¬ b < 0x80 := mt UInt8.lt_iff_toNat_lt.mp hone
  exfalso
  revert h
  simp only [firstPiece, hhigh, if_false, Bool.and_eq_true, decide_eq_true_iff]
  repeat' split
  any_goals exact hbroken _
  · next htwo _ _ _ _ =>
    simp only [UInt8.le_iff_toNat_le, UInt8.reduceToNat] at htwo
    exact hlong _ _ (by omega)
  · exact hlong _ _ (hthree _ ‹_› ‹_›)
  · refine hlong _ _ ?_
    rw [Nat.add_assoc]
    exact hfour _ ‹_› ‹_›

theorem decodeLossy_eq_nil_iff : decodeLossy bytes = [] ↔ bytes = [] := by
  cases bytes <;> simp [decodeLossy]

/-- Where a text that is read ends in a character of ASCII, the bytes end in its byte. -/
theorem exists_getLast?_of_decodeLossy (ha : 0 < a.toNat ∧ a.toNat < 0x80)
    (h : (decodeLossy bytes).getLast? = some a) :
    ∃ b, bytes.getLast? = some b ∧ b.toNat = a.toNat := by
  induction bytes using decodeLossy.induct with
  | case1 =>
    rw [decodeLossy] at h
    cases h
  | case2 b rest piece ih =>
    rw [decodeLossy, List.getLast?_cons] at h
    rw [List.getLast?_cons]
    cases hlast : (decodeLossy (rest.drop (piece.size - 1))).getLast? with
    | some c =>
      obtain rfl : c = a := by simpa [piece, hlast] using h
      obtain ⟨d, hd, hda⟩ := ih hlast
      rw [List.getLast?_drop] at hd
      split at hd
      · cases hd
      · exact ⟨d, by rw [hd, Option.getD_some], hda⟩
    | none =>
      -- The text is one character, and as this is of ASCII, no bytes follow the first.
      have hchar : piece.toChar = a := by simpa [piece, hlast] using h
      have hb : b.toNat = a.toNat := toNat_eq_of_toChar_firstPiece hchar ha
      have hone : piece = .char (Char.ofNat b.toNat) 1 := firstPiece_one (by omega)
      rw [hone, List.getLast?_eq_none_iff, decodeLossy_eq_nil_iff] at hlast
      obtain rfl : rest = [] := hlast
      exact ⟨b, rfl, hb⟩

/-- Where the bytes of a text end in a byte of ASCII, the text ends in its character. -/
theorem exists_getLast?_of_encodeChars (hb : b.toNat < 0x80)
    (h : (encodeChars cs).getLast? = some b) :
    ∃ a, cs.getLast? = some a ∧ a.toNat = b.toNat := by
  rcases List.eq_nil_or_concat cs with rfl | ⟨front, a, rfl⟩
  · cases h
  · obtain ⟨first, tail, hbytes, -⟩ := firstPiece_utf8EncodeChar a []
    have hlast : (String.utf8EncodeChar a).getLast? = some b := by
      rw [encodeChars, List.concat_eq_append, List.flatMap_append, List.getLast?_append,
        List.flatMap_singleton, hbytes, List.getLast?_cons, Option.some_or] at h
      rw [hbytes, List.getLast?_cons, h]
    exact ⟨a, by simp, toNat_eq_of_mem_utf8EncodeChar (List.mem_of_getLast? hlast) hb⟩

end Ascii

end Text

/-- The bytes of a text are read as its characters. -/
theorem Json.symbols_encodeChars (cs : List Char) :
    symbols (Text.encodeChars cs) = cs.map some := by
  induction cs with
  | nil =>
    rw [Text.encodeChars, List.flatMap_nil, symbols]
    rfl
  | cons c cs ih =>
    obtain ⟨b, tail, hbytes, hpiece⟩ := Text.exists_encodeChars_cons c cs
    rw [hbytes, symbols, hpiece, Text.Piece.size, Nat.add_sub_cancel, List.drop_left, ih]
    rfl

end Outlays

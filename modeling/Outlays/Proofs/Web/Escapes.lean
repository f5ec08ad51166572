import Outlays.Proofs.Text.Encoding
import Outlays.Proofs.Web.Paths
import Outlays.Web.Route

/-!
# What percent-encoding keeps

A text that is percent-encoded is found again by percent-decoding, provided that percent signs are
among what is encoded. What is written consists of ASCII characters that are not to be encoded, of
percent signs and of hexadecimal digits; so no encoded segment has a character that would end it.

## Main results

* `Percent.decode_encode` — an encoded text is decoded to its bytes
* `Percent.mem_encode` — the characters that are written
* `Percent.getLast?_of_decodeExcept` — a byte that stays encoded is not the last of an escape
* `captureText_written` — a segment that is pushed is captured as it was
-/

namespace Outlays

namespace Percent

variable {set : Char → Bool} {c : Char}

/-! ## Escapes -/

theorem utf8EncodeChar_ascii (hc : c.toNat < 0x80) :
    String.utf8EncodeChar c = [UInt8.ofNat c.toNat] := by
  rw [String.utf8EncodeChar]
  exact if_pos (Nat.lt_succ_iff.mp hc)

theorem hexUpper_laws : ∀ n < 16,
    (hexUpper n).toNat < 0x80 ∧ hexUpper n ∉ ['/', '?', '#', '@'] ∧
      hexValue? (UInt8.ofNat (hexUpper n).toNat) = some n := by
  decide

theorem encodeChars_encodeByte (b : UInt8) :
    Text.encodeChars (encodeByte b) = [37, UInt8.ofNat (hexUpper (b.toNat / 16)).toNat,
      UInt8.ofNat (hexUpper (b.toNat % 16)).toNat] := by
  have hb := b.toNat_lt
  rw [encodeByte, Text.encodeChars, List.flatMap_cons, List.flatMap_cons, List.flatMap_cons,
    utf8EncodeChar_ascii (hexUpper_laws _ (by omega)).1,
    utf8EncodeChar_ascii (hexUpper_laws _ (by omega)).1]
  rfl

/-- An escape is decoded to its byte. -/
theorem decode_encodeByte (b : UInt8) (rest : List UInt8) :
    decode (Text.encodeChars (encodeByte b) ++ rest) = b :: decode rest := by
  have hb := b.toNat_lt
  have hbyte : UInt8.ofNat (16 * (b.toNat / 16) + b.toNat % 16) = b := by
    rw [Nat.div_add_mod, UInt8.ofNat_toNat]
  rw [encodeChars_encodeByte]
  simp only [List.cons_append, List.nil_append]
  rw [decode, decodeExcept, (hexUpper_laws _ (by omega)).2.2, (hexUpper_laws _ (by omega)).2.2]
  dsimp only
  rw [hbyte]
  rfl

theorem decode_encodeBytes (bytes rest : List UInt8) :
    decode (Text.encodeChars (bytes.flatMap encodeByte) ++ rest) = bytes ++ decode rest := by
  induction bytes with
  | nil => rfl
  | cons b bytes ih =>
    rw [List.flatMap_cons, Text.encodeChars, List.flatMap_append, List.append_assoc]
    exact (decode_encodeByte b _).trans (congrArg (b :: ·) ih)

/-- Any other byte stands for itself. -/
theorem decode_cons {b : UInt8} (hb : b ≠ 37) (rest : List UInt8) :
    decode (b :: rest) = b :: decode rest := by
  rw [decode, decodeExcept]
  · rfl
  · exact fun _ _ _ heq _ => hb heq

theorem decode_eq_self {bytes : List UInt8} (h : 37 ∉ bytes) : decode bytes = bytes := by
  induction bytes with
  | nil => rfl
  | cons b bytes ih =>
    rw [List.mem_cons, not_or] at h
    rw [decode_cons (Ne.symm h.1), ih h.2]

section Kept

variable {kept : UInt8 → Bool} {b : UInt8} {bytes rest : List UInt8}

/-- The first byte stands for itself, or with the two that follow for one that is not kept. -/
theorem decodeExcept_cons_cases (kept : UInt8 → Bool) (b : UInt8) (rest : List UInt8) :
    decodeExcept kept (b :: rest) = b :: decodeExcept kept rest ∨
      ∃ c x y rest', rest = x :: y :: rest' ∧ kept c = false ∧
        decodeExcept kept (b :: rest) = c :: decodeExcept kept rest' := by
  rw [decodeExcept.eq_def kept (b :: rest)]
  split
  · next x y rest' heq =>
    obtain ⟨rfl, rfl⟩ := List.cons.inj heq
    split
    · dsimp only
      split
      · exact .inl rfl
      · next hkept => exact .inr ⟨_, x, y, rest', rfl, Bool.not_eq_true _ ▸ hkept, rfl⟩
    · exact .inl rfl
  · next heq =>
    obtain ⟨rfl, rfl⟩ := List.cons.inj heq
    exact .inl rfl
  · next heq => cases heq

theorem decodeExcept_eq_nil_iff : decodeExcept kept bytes = [] ↔ bytes = [] := by
  cases bytes with
  | nil => simp [decodeExcept]
  | cons b rest =>
    obtain h | ⟨c, x, y, rest', -, -, h⟩ := decodeExcept_cons_cases kept b rest <;> simp [h]

/-- A byte that stays encoded comes last only where it stood for itself. -/
theorem getLast?_of_decodeExcept (hb : kept b = true)
    (h : (decodeExcept kept bytes).getLast? = some b) : bytes.getLast? = some b := by
  -- By induction on the length, as an escape takes three bytes at once.
  induction hn : bytes.length using Nat.strongRecOn generalizing bytes with
  | ind n ih =>
    cases bytes with
    | nil =>
      rw [decodeExcept] at h
      cases h
    | cons a rest =>
      subst hn
      obtain hcons | ⟨c, x, y, rest', rfl, hc, hcons⟩ := decodeExcept_cons_cases kept a rest
      · rw [hcons, List.getLast?_cons] at h
        rw [List.getLast?_cons]
        cases hlast : (decodeExcept kept rest).getLast? with
        | some d =>
          rw [hlast, Option.getD_some] at h
          rw [ih _ (by simp) (hlast.trans h) rfl, Option.getD_some]
        | none =>
          rw [hlast] at h
          rw [List.getLast?_eq_none_iff, decodeExcept_eq_nil_iff] at hlast
          rw [hlast]
          exact h
      · rw [hcons, List.getLast?_cons] at h
        cases hlast : (decodeExcept kept rest').getLast? with
        | some d =>
          rw [hlast, Option.getD_some] at h
          have hrest := ih rest'.length (by simp; omega) (hlast.trans h) rfl
          simp [List.getLast?_cons, hrest]
        | none =>
          -- An escape at the end is one of a byte that is not kept.
          rw [hlast, Option.getD_none] at h
          rw [Option.some.inj h, hb] at hc
          cases hc

end Kept

/-! ## Texts -/

/-- An encoded text is decoded to its bytes, provided that percent signs are encoded. -/
theorem decode_encode (hset : set '%' = true) (cs : List Char) :
    decode (Text.encodeChars (encode set cs)) = Text.encodeChars cs := by
  induction cs with
  | nil => rfl
  | cons c cs ih =>
    have hcons : Text.encodeChars (c :: cs) = String.utf8EncodeChar c ++ Text.encodeChars cs :=
      List.flatMap_cons
    rw [encode, List.flatMap_cons, ← encode, Text.encodeChars, List.flatMap_append, hcons]
    split
    · rw [← Text.encodeChars, ← Text.encodeChars, decode_encodeBytes, ih]
    · next hplain =>
      simp only [Bool.or_eq_true, decide_eq_true_eq, not_or, Bool.not_eq_true] at hplain
      have hbyte : UInt8.ofNat c.toNat ≠ 37 := by
        intro heq
        have hnat : c.toNat % 256 = 37 := by simpa using congrArg UInt8.toNat heq
        have hc : c.toNat = 37 := by omega
        rw [Char.toNat_inj.mp (show c.toNat = '%'.toNat from hc), hset] at hplain
        exact Bool.noConfusion hplain.1
      rw [List.flatMap_singleton, utf8EncodeChar_ascii (by omega), List.singleton_append,
        decode_cons hbyte, ← Text.encodeChars, ih]
      rfl

/-- What is written are ASCII characters that are not to be encoded, and those of escapes. -/
theorem mem_encode {cs : List Char} (h : c ∈ encode set cs) :
    c.toNat < 0x80 ∧ (set c = false ∨ c ∉ ['/', '?', '#', '@']) := by
  obtain ⟨d, -, hc⟩ := List.mem_flatMap.mp h
  split at hc
  · obtain ⟨b, -, hc⟩ := List.mem_flatMap.mp hc
    have hb := b.toNat_lt
    have hhigh := hexUpper_laws (b.toNat / 16) (by omega)
    have hlow := hexUpper_laws (b.toNat % 16) (by omega)
    simp only [encodeByte, List.mem_cons, List.not_mem_nil, or_false] at hc
    rcases hc with rfl | rfl | rfl
    · exact ⟨by decide, .inr (by decide)⟩
    · exact ⟨hhigh.1, .inr hhigh.2.1⟩
    · exact ⟨hlow.1, .inr hlow.2.1⟩
  · next hplain =>
    obtain rfl := List.mem_singleton.mp hc
    simp only [Bool.or_eq_true, decide_eq_true_eq, not_or, Bool.not_eq_true] at hplain
    exact ⟨by omega, .inl hplain.1⟩

end Percent

/-- A segment is captured as it was pushed, if all of its characters count. -/
theorem captureText_written {segment : String} (web : Bool)
    (h : ∀ c ∈ segment.toList, Path.isIgnored c = false) :
    captureText (Path.written (Percent.segmentSet web) segment.toList) = segment := by
  have hset : Percent.segmentSet web '%' = true := by cases web <;> rfl
  rw [captureText, Path.written, Path.kept_eq_self h, Percent.decode_encode hset,
    Text.decodeLossy_encodeChars, String.ofList_toList]

/-- No character of a pushed segment ends it, or the path. -/
theorem mem_written {web : Bool} {segment : List Char} {c : Char}
    (h : c ∈ Path.written (Percent.segmentSet web) segment) :
    c.toNat < 0x80 ∧ c ∉ ['/', '?', '#'] := by
  obtain ⟨hascii, hset | hnot⟩ := Percent.mem_encode h
  · refine ⟨hascii, fun hmem => ?_⟩
    simp only [List.mem_cons, List.not_mem_nil, or_false] at hmem
    rcases hmem with rfl | rfl | rfl <;> cases web <;> cases hset
  · exact ⟨hascii, fun hmem => hnot (List.mem_append_left ['@'] hmem)⟩

end Outlays

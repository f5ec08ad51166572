import Mathlib.Data.List.Basic
import Outlays.Json.Parser

/-!
# Strings and numbers as they are written

A string literal is a row of marks, each written in one of a few ways; some rows of marks stand for
a text, and some stand for none, such as half a surrogate pair. A number literal is a row of parts.
Both are described here by what may be written, without a look at how it is read, and the readers
are shown to accept exactly that.

A number has no end of its own: it goes on as long as it can. So what stands behind a value has to
be something that no number goes on with, as it always is in a larger value.

## Main definitions

* `Json.Mark.Written`, `Json.MarksWritten` — marks of a string literal
* `Json.Stands` — the characters that marks stand for
* `Json.Quoted` — a string literal, with its text if it has one
* `Json.Literal.Written` — a number literal
* `Json.Closes` — what may stand behind a value

## Main results

* `Json.stringRest_eq_some_iff` — the reader of strings accepts string literals
* `Json.literal_append`, `Json.written_of_literal` — and the reader of numbers number literals
-/

namespace Outlays.Json

/-! ## Hexadecimal digits -/

/-- The number is written with these four digits in hexadecimal, in either case. -/
def HexWritten (n : Nat) (cs : List Char) : Prop :=
  n < 0x10000 ∧ cs.map Char.toLower =
    [Nat.digitChar (n / 4096), Nat.digitChar (n / 256 % 16), Nat.digitChar (n / 16 % 16),
      Nat.digitChar (n % 16)]

/-- A character is read as a digit in either case. -/
theorem hexValue_eq_some_iff {c : Char} {d : Nat} :
    hexValue c = some d ↔ d < 16 ∧ c.toLower = Nat.digitChar d := by
  by_cases hc : c.toNat < 128
  · have hall : ∀ n < 128, (hexValue (Char.ofNat n) = none ∧
        ∀ d < 16, (Char.ofNat n).toLower ≠ Nat.digitChar d) ∨
        ∃ d < 16, hexValue (Char.ofNat n) = some d ∧
          ∀ e < 16, (Char.ofNat n).toLower = Nat.digitChar e ↔ d = e := by
      decide +kernel
    have hchar := hall c.toNat hc
    rw [Char.ofNat_toNat] at hchar
    obtain ⟨hnone, hne⟩ | ⟨d', hd', hsome, heq⟩ := hchar
    · rw [hnone]
      exact iff_of_false nofun fun h => hne d h.1 h.2
    · rw [hsome, Option.some.injEq]
      exact ⟨fun h => ⟨h ▸ hd', (heq d (h ▸ hd')).mpr h⟩, fun h => (heq d h.1).mp h.2⟩
  -- Outside of ASCII there are neither digits nor cases.
  · have hnone : hexValue c = none := by
      simp only [hexValue, Char.le_def, UInt32.le_iff_toNat_le, Char.toNat_val, Bool.and_eq_true,
        decide_eq_true_eq]
      rw [if_neg (by simp; omega), if_neg (by simp; omega), if_neg (by simp; omega)]
    have hself : c.toLower = c := by
      refine dif_neg ?_
      simp only [ge_iff_le, UInt32.le_iff_toNat_le, Char.toNat_val, Char.reduceToNat]
      omega
    have hascii : ∀ d < 16, (Nat.digitChar d).toNat < 128 := by decide
    rw [hnone, hself]
    refine iff_of_false nofun ?_
    rintro ⟨hd, rfl⟩
    exact hc (hascii d hd)

theorem hexUnit_eq_some_iff {a b c d : Char} {n : Nat} :
    hexUnit a b c d = some n ↔ HexWritten n [a, b, c, d] := by
  simp only [hexUnit, Option.bind_eq_bind, Option.bind_eq_some_iff, hexValue_eq_some_iff,
    Option.pure_def, Option.some.injEq, HexWritten, List.map_cons, List.map_nil, List.cons.injEq,
    and_true]
  constructor
  · rintro ⟨p, ⟨hp, ha⟩, q, ⟨hq, hb⟩, r, ⟨hr, hc⟩, t, ⟨ht, hd⟩, rfl⟩
    refine ⟨by omega, ?_⟩
    rw [ha, hb, hc, hd]
    exact ⟨congrArg _ (by omega), congrArg _ (by omega), congrArg _ (by omega),
      congrArg _ (by omega)⟩
  · rintro ⟨hn, ha, hb, hc, hd⟩
    exact ⟨_, ⟨by omega, ha⟩, _, ⟨by omega, hb⟩, _, ⟨by omega, hc⟩, _, ⟨by omega, hd⟩, by omega⟩

/-! ## Marks -/

/-- The short escapes, each with the character that it stands for. -/
def shortEscapes : List (Char × Char) :=
  [('"', '"'), ('\\', '\\'), ('/', '/'), ('b', '\x08'), ('f', '\x0c'), ('n', '\n'), ('r', '\r'),
    ('t', '\t')]

theorem shortEscape_eq_some_iff {e c : Char} :
    shortEscape e = some c ↔ (e, c) ∈ shortEscapes := by
  unfold shortEscape shortEscapes
  split <;> simp_all [eq_comm]

/-- The mark is written like this. -/
inductive Mark.Written : Mark → Symbols → Prop where
  | plain {c : Char} (visible : 0x20 ≤ c.toNat) (quote : c ≠ '"') (backslash : c ≠ '\\') :
      Written (.char c) [some c]
  | short {e c : Char} (escape : (e, c) ∈ shortEscapes) : Written (.char c) [some '\\', some e]
  | unit {n : Nat} {a b c d : Char} (digits : HexWritten n [a, b, c, d]) :
      Written (.unit n) [some '\\', some 'u', some a, some b, some c, some d]
  | broken : Written .broken [none]

/-- The marks are written like this, one after the other. -/
inductive MarksWritten : List Mark → Symbols → Prop where
  | nil : MarksWritten [] []
  | cons {m : Mark} {ms : List Mark} {s rest : Symbols} (first : m.Written s)
      (others : MarksWritten ms rest) : MarksWritten (m :: ms) (s ++ rest)

/-! ### Reading marks -/

/-- A mark is read from the way it is written. -/
theorem Mark.Written.marks_append {m : Mark} {s : Symbols} (h : m.Written s) (rest : Symbols) :
    marks (s ++ rest) = (marks rest).map fun p => (m :: p.1, p.2) := by
  cases h with
  | plain visible quote backslash =>
    rw [List.singleton_append, marks]
    · rw [if_neg (by simp [backslash]; omega)]
    · simpa using quote
    · intro _ _ _ _ _ _
      exact backslash
    · intro _ _ _
      exact backslash
  | @short e c escape =>
    have hu : e ≠ 'u' := by
      rintro rfl
      simp [shortEscapes] at escape
    rw [List.cons_append, List.singleton_append, marks, shortEscape_eq_some_iff.mpr escape]
    · cases marks rest <;> rfl
    · intro _ _ _ _ _ _
      exact hu
  | unit digits =>
    simp only [List.cons_append, List.nil_append, marks]
    rw [hexUnit_eq_some_iff.mpr digits]
    cases marks rest <;> rfl
  | broken =>
    rw [List.singleton_append, marks]

/-- A row of marks is read up to the quote that closes it. -/
theorem MarksWritten.marks_append {ms : List Mark} {s : Symbols} (h : MarksWritten ms s)
    (rest : Symbols) : marks (s ++ some '"' :: rest) = some (ms, rest) := by
  induction h with
  | nil => simp [marks]
  | cons first others ih => rw [List.append_assoc, first.marks_append, ih, Option.map_some]

/-- What is read as marks is a row of marks, up to a quote. -/
theorem written_of_marks {s rest : Symbols} {ms : List Mark} (h : marks s = some (ms, rest)) :
    ∃ t, MarksWritten ms t ∧ s = t ++ some '"' :: rest := by
  fun_induction marks s generalizing ms with
  | case1 => cases h
  | case2 s ih =>
    obtain ⟨⟨ms, r⟩, hmarks, heq⟩ := Option.map_eq_some_iff.mp h
    cases heq
    obtain ⟨t, ht, rfl⟩ := ih hmarks
    exact ⟨_, .cons .broken ht, rfl⟩
  | case3 s =>
    cases h
    exact ⟨[], .nil, rfl⟩
  | case4 a b c d s ih =>
    simp only [Option.bind_eq_bind, Option.bind_eq_some_iff, Option.pure_def] at h
    obtain ⟨n, hunit, ⟨ms, r⟩, hmarks, heq⟩ := h
    cases heq
    obtain ⟨t, ht, rfl⟩ := ih hmarks
    exact ⟨_, .cons (.unit (hexUnit_eq_some_iff.mp hunit)) ht, rfl⟩
  | case5 s e _ ih =>
    simp only [Option.bind_eq_bind, Option.bind_eq_some_iff, Option.pure_def] at h
    obtain ⟨c, hescape, ⟨ms, r⟩, hmarks, heq⟩ := h
    cases heq
    obtain ⟨t, ht, rfl⟩ := ih hmarks
    exact ⟨_, .cons (.short (shortEscape_eq_some_iff.mp hescape)) ht, rfl⟩
  | case6 => cases h
  | case7 c s hquote _ _ hplain ih =>
    obtain ⟨⟨ms, r⟩, hmarks, heq⟩ := Option.map_eq_some_iff.mp h
    cases heq
    obtain ⟨t, ht, rfl⟩ := ih hmarks
    simp only [Bool.or_eq_true, decide_eq_true_eq, not_or] at hplain
    exact ⟨_, .cons (.plain (by omega) (by simpa using hquote) hplain.2) ht, rfl⟩

theorem marks_eq_some_iff {s rest : Symbols} {ms : List Mark} :
    marks s = some (ms, rest) ↔ ∃ t, MarksWritten ms t ∧ s = t ++ some '"' :: rest := by
  constructor
  · exact written_of_marks
  · rintro ⟨t, ht, rfl⟩
    exact ht.marks_append rest

/-! ### What marks stand for -/

/-- The marks stand for these characters. A unit is a character of its own, or half of a pair of
surrogates. -/
inductive Stands : List Mark → List Char → Prop where
  | nil : Stands [] []
  | char {c : Char} {ms : List Mark} {cs : List Char} (others : Stands ms cs) :
      Stands (.char c :: ms) (c :: cs)
  | unit {n : Nat} {ms : List Mark} {cs : List Char} (single : n < 0xD800 ∨ 0xDFFF < n)
      (others : Stands ms cs) : Stands (.unit n :: ms) (Char.ofNat n :: cs)
  | pair {high low : Nat} {ms : List Mark} {cs : List Char}
      (first : 0xD800 ≤ high ∧ high ≤ 0xDBFF) (second : 0xDC00 ≤ low ∧ low ≤ 0xDFFF)
      (others : Stands ms cs) :
      Stands (.unit high :: .unit low :: ms)
        (Char.ofNat (0x10000 + (high - 0xD800) * 0x400 + (low - 0xDC00)) :: cs)

/-- A unit that is no surrogate is a character of its own. -/
theorem assemble_unit {n : Nat} (single : n < 0xD800 ∨ 0xDFFF < n) (ms : List Mark) :
    assemble (.unit n :: ms) = (assemble ms).map (Char.ofNat n :: ·) := by
  have hlow : (0xDC00 ≤ n && n ≤ 0xDFFF) = false := by simp; omega
  have hhigh : (0xD800 ≤ n && n ≤ 0xDBFF) = false := by simp; omega
  cases ms with
  | nil => simp only [assemble, hlow, hhigh, Bool.false_eq_true, if_false]
  | cons m ms => cases m <;> simp only [assemble, hlow, hhigh, Bool.false_eq_true, if_false]

theorem assemble_of_stands {ms : List Mark} {cs : List Char} (h : Stands ms cs) :
    assemble ms = some cs := by
  induction h with
  | nil => rfl
  | char others ih => rw [assemble, ih, Option.map_some]
  | unit single others ih => rw [assemble_unit single, ih, Option.map_some]
  | @pair high low ms cs first second others ih =>
    have hlow : (0xDC00 ≤ high && high ≤ 0xDFFF) = false := by simp; omega
    have hhigh : (0xD800 ≤ high && high ≤ 0xDBFF) = true := by simpa using first
    have hsecond : (0xDC00 ≤ low && low ≤ 0xDFFF) = true := by simpa using second
    simp only [assemble, hlow, hhigh, hsecond, Bool.false_eq_true, if_false, if_true, ih,
      Option.map_some]

theorem stands_of_assemble {ms : List Mark} {cs : List Char} (h : assemble ms = some cs) :
    Stands ms cs := by
  fun_induction assemble ms generalizing cs with
  | case1 =>
    cases h
    exact .nil
  | case2 c ms ih =>
    obtain ⟨cs, hcs, rfl⟩ := Option.map_eq_some_iff.mp h
    exact .char (ih hcs)
  | case3 => cases h
  | case4 => cases h
  | case5 high _ hhigh low ms hlow ih =>
    obtain ⟨cs, hcs, rfl⟩ := Option.map_eq_some_iff.mp h
    exact .pair (by simpa using hhigh) (by simpa using hlow) (ih hcs)
  | case6 => cases h
  | case7 => cases h
  | case8 n ms hlow hhigh ih =>
    obtain ⟨cs, hcs, rfl⟩ := Option.map_eq_some_iff.mp h
    refine .unit ?_ (ih hcs)
    simp only [Bool.and_eq_true, decide_eq_true_eq] at hlow hhigh
    omega

theorem assemble_eq_some_iff {ms : List Mark} {cs : List Char} :
    assemble ms = some cs ↔ Stands ms cs :=
  ⟨stands_of_assemble, assemble_of_stands⟩

/-! ### String literals -/

/-- A string literal, with the text that it stands for if there is one. -/
inductive Quoted : Option String → Symbols → Prop where
  | text {ms : List Mark} {cs : List Char} {s : Symbols} (written : MarksWritten ms s)
      (stands : Stands ms cs) : Quoted (some (String.ofList cs)) (some '"' :: (s ++ [some '"']))
  | noText {ms : List Mark} {s : Symbols} (written : MarksWritten ms s)
      (nothing : ∀ cs, ¬ Stands ms cs) : Quoted none (some '"' :: (s ++ [some '"']))

/-- Behind its opening quote, a string literal is read with its text. -/
theorem stringRest_eq_some_iff {text : Option String} {s rest : Symbols} :
    stringRest s = some (text, rest) ↔
      ∃ t, Quoted text (some '"' :: t) ∧ s = t ++ rest := by
  constructor
  · intro h
    obtain ⟨⟨ms, r⟩, hmarks, heq⟩ := Option.map_eq_some_iff.mp h
    cases heq
    obtain ⟨t, ht, rfl⟩ := marks_eq_some_iff.mp hmarks
    refine ⟨t ++ [some '"'], ?_, by simp⟩
    cases hcs : assemble ms with
    | some cs => exact .text ht (assemble_eq_some_iff.mp hcs)
    | none =>
      refine .noText ht fun cs hstands => ?_
      rw [assemble_eq_some_iff.mpr hstands] at hcs
      cases hcs
  · rintro ⟨t, ht, rfl⟩
    have hread {ms : List Mark} {s : Symbols} (hs : MarksWritten ms s) :
        stringRest (s ++ [some '"'] ++ rest) =
          some ((assemble ms).map String.ofList, rest) := by
      rw [stringRest, List.append_assoc, List.singleton_append, hs.marks_append, Option.map_some]
    cases ht with
    | text written stands => rw [hread written, assemble_eq_some_iff.mpr stands, Option.map_some]
    | @noText ms s written nothing =>
      have hnone : assemble ms = none := by
        rw [Option.eq_none_iff_forall_ne_some]
        exact fun cs hcs => nothing cs (assemble_eq_some_iff.mp hcs)
      rw [hread written, hnone, Option.map_none]

/-! ## Digits -/

theorem digitValue_eq_some_iff {c : Char} {d : Nat} :
    digitValue c = some d ↔ d < 10 ∧ c = Nat.digitChar d := by
  have hdigit : ∀ d < 10, (Nat.digitChar d).toNat = d + 48 := by decide
  simp only [digitValue, Char.le_def, UInt32.le_iff_toNat_le, Char.toNat_val, Bool.and_eq_true,
    decide_eq_true_eq]
  split
  · next hc =>
    simp only [Char.reduceToNat, Option.some.injEq] at hc ⊢
    constructor
    · rintro rfl
      refine ⟨by omega, ?_⟩
      rw [← Char.toNat_inj, hdigit _ (by omega)]
      omega
    · rintro ⟨hd, rfl⟩
      rw [hdigit d hd]
      omega
  · next hc =>
    refine iff_of_false nofun ?_
    rintro ⟨hd, rfl⟩
    simp only [hdigit d hd, Char.reduceToNat] at hc
    omega

/-- These digits, written one after the other. -/
def DigitsWritten (ds : List Nat) (s : Symbols) : Prop :=
  (∀ d ∈ ds, d < 10) ∧ s = ds.map fun d => some (Nat.digitChar d)

/-- No digit is at the head of the input. -/
def NoDigit (s : Symbols) : Prop := ∀ c rest, s = some c :: rest → digitValue c = none

theorem digits_of_noDigit {s : Symbols} (h : NoDigit s) : digits s = ([], s) := by
  rcases s with _ | ⟨_ | c, s⟩
  · rfl
  · rfl
  · rw [digits, h c s rfl]

/-- Digits are read up to where they end. -/
theorem DigitsWritten.digits_append {ds : List Nat} {s rest : Symbols} (h : DigitsWritten ds s)
    (hrest : NoDigit rest) : digits (s ++ rest) = (ds, rest) := by
  obtain ⟨hds, rfl⟩ := h
  induction ds with
  | nil => exact digits_of_noDigit hrest
  | cons d ds ih =>
    obtain ⟨hd, hds⟩ := List.forall_mem_cons.mp hds
    rw [List.map_cons, List.cons_append, digits, digitValue_eq_some_iff.mpr ⟨hd, rfl⟩]
    simp only [ih hds]

theorem written_of_digits {s rest : Symbols} {ds : List Nat} (h : digits s = (ds, rest)) :
    ∃ t, DigitsWritten ds t ∧ s = t ++ rest := by
  fun_induction digits s generalizing ds with
  | case1 c s d hd ds' r heq ih =>
    cases h
    obtain ⟨t, ⟨hds, rfl⟩, rfl⟩ := ih heq
    obtain ⟨hlt, rfl⟩ := digitValue_eq_some_iff.mp hd
    exact ⟨_, ⟨List.forall_mem_cons.mpr ⟨hlt, hds⟩, rfl⟩, rfl⟩
  | case2 c s hc =>
    cases h
    exact ⟨[], ⟨by simp, rfl⟩, rfl⟩
  | case3 s hs =>
    cases h
    exact ⟨[], ⟨by simp, rfl⟩, rfl⟩

/-! ## Number literals -/

/-- A fraction, or none. -/
inductive FractionWritten : Option (List Nat) → Symbols → Prop where
  | absent : FractionWritten none []
  | given {ds : List Nat} {s : Symbols} (digits : DigitsWritten ds s) (nonempty : ds ≠ []) :
      FractionWritten (some ds) (some '.' :: s)

/-- The signs of an exponent, each with whether it makes the exponent negative. -/
def exponentSigns : List (Bool × Symbols) := [(true, [some '-']), (false, [some '+']), (false, [])]

/-- An exponent, or none. -/
inductive ExponentWritten : Option (Bool × List Nat) → Symbols → Prop where
  | absent : ExponentWritten none []
  | given {mark : Char} {negative : Bool} {sign : Symbols} {ds : List Nat} {s : Symbols}
      (marked : mark ∈ ['e', 'E']) (signed : (negative, sign) ∈ exponentSigns)
      (digits : DigitsWritten ds s) (nonempty : ds ≠ []) :
      ExponentWritten (some (negative, ds)) (some mark :: (sign ++ s))

/-- A number literal. Its whole part is zero alone, or starts with no zero. -/
inductive Literal.Written : Literal → Symbols → Prop where
  | mk {negative : Bool} {whole : List Nat} {fraction : Option (List Nat)}
      {exponent : Option (Bool × List Nat)} {w f e : Symbols} (digits : DigitsWritten whole w)
      (nonempty : whole ≠ []) (leading : whole.head? = some 0 → whole = [0])
      (fractionWritten : FractionWritten fraction f)
      (exponentWritten : ExponentWritten exponent e) :
      Written ⟨negative, whole, fraction, exponent⟩
        ((if negative then [some '-'] else []) ++ (w ++ (f ++ e)))

/-- What may stand behind a value: a blank, a comma, a closing bracket or brace, or nothing. -/
def Closes (s : Symbols) : Prop :=
  ∀ c rest, s = c :: rest →
    c ∈ [some ' ', some '\n', some '\t', some '\r', some ',', some ']', some '\x7d']

/-- The input starts with none of the characters. -/
def StartsNot (cs : List Char) (s : Symbols) : Prop := ∀ c ∈ cs, ∀ rest, s ≠ some c :: rest

/-! ### What stands behind a part of a number -/

theorem Closes.noDigit {s : Symbols} (h : Closes s) : NoDigit s := by
  rintro c rest rfl
  have hall : ∀ c ∈ [' ', '\n', '\t', '\r', ',', ']', '\x7d'], digitValue c = none := by
    simp [digitValue]
  exact hall c (by simpa using h _ _ rfl)

theorem Closes.startsNot {s : Symbols} (h : Closes s) : StartsNot ['.', 'e', 'E'] s := by
  rintro c hc rest rfl
  have hall : ∀ c ∈ [' ', '\n', '\t', '\r', ',', ']', '\x7d'], c ∉ ['.', 'e', 'E'] := by simp
  exact hall c (by simpa using h _ _ rfl) hc

/-- An exponent, or what stands behind the number, is neither digit nor point. -/
theorem ExponentWritten.ahead {exponent : Option (Bool × List Nat)} {s rest : Symbols}
    (h : ExponentWritten exponent s) (hrest : Closes rest) :
    NoDigit (s ++ rest) ∧ StartsNot ['.'] (s ++ rest) := by
  cases h with
  | absent =>
    refine ⟨hrest.noDigit, fun c hc => hrest.startsNot c ?_⟩
    rw [List.mem_singleton.mp hc]
    decide
  | given marked signed digits nonempty =>
    have hmark : ∀ c ∈ ['e', 'E'], digitValue c = none ∧ c ≠ '.' := by simp [digitValue]
    refine ⟨?_, ?_⟩
    · rintro c tail heq
      obtain ⟨rfl, -⟩ : _ = c ∧ _ := by simpa using heq
      exact (hmark _ marked).1
    · rintro c hc tail heq
      obtain ⟨rfl, -⟩ : _ = c ∧ _ := by simpa using heq
      exact (hmark _ marked).2 (List.mem_singleton.mp hc)

theorem FractionWritten.noDigit {fraction : Option (List Nat)} {s rest : Symbols}
    (h : FractionWritten fraction s) (hrest : NoDigit rest) : NoDigit (s ++ rest) := by
  cases h with
  | absent => exact hrest
  | given digits nonempty =>
    rintro c tail heq
    obtain ⟨rfl, -⟩ : '.' = c ∧ _ := by simpa using heq
    decide

/-! ### Reading numbers -/

theorem FractionWritten.fractionPart_append {fraction : Option (List Nat)} {s rest : Symbols}
    (h : FractionWritten fraction s) (hdigit : NoDigit rest) (hpoint : StartsNot ['.'] rest) :
    fractionPart (s ++ rest) = some (fraction, rest) := by
  cases h with
  | absent =>
    rw [List.nil_append, fractionPart]
    exact fun tail => hpoint '.' (by simp) tail
  | @given ds s digits nonempty =>
    rw [List.cons_append, fractionPart, digits.digits_append hdigit]
    cases ds with
    | nil => exact absurd rfl nonempty
    | cons d ds => rfl

theorem written_of_fractionPart {fraction : Option (List Nat)} {s rest : Symbols}
    (h : fractionPart s = some (fraction, rest)) :
    ∃ t, FractionWritten fraction t ∧ s = t ++ rest := by
  unfold fractionPart at h
  split at h
  · next s =>
    split at h
    · cases h
    · next ds r hne hdigits =>
      cases h
      obtain ⟨t, ht, rfl⟩ := written_of_digits hdigits
      exact ⟨_, .given ht hne, rfl⟩
  · cases h
    exact ⟨[], .absent, rfl⟩

/-- The digits of an exponent whose sign is read. -/
def exponentDigits (negative : Bool) (s : Symbols) :
    Option (Option (Bool × List Nat) × Symbols) :=
  match digits s with
  | ([], _) => none
  | (ds, rest) => some (some (negative, ds), rest)

/-- An exponent whose mark is read. -/
def exponentRest : Symbols → Option (Option (Bool × List Nat) × Symbols)
  | some '-' :: rest => exponentDigits true rest
  | some '+' :: rest => exponentDigits false rest
  | rest => exponentDigits false rest

theorem exponentPart_eq (s : Symbols) :
    exponentPart s = match s with
      | some 'e' :: rest => exponentRest rest
      | some 'E' :: rest => exponentRest rest
      | rest => some (none, rest) := rfl

theorem exponentDigits_append {negative : Bool} {ds : List Nat} {s rest : Symbols}
    (h : DigitsWritten ds s) (hne : ds ≠ []) (hrest : NoDigit rest) :
    exponentDigits negative (s ++ rest) = some (some (negative, ds), rest) := by
  rw [exponentDigits, h.digits_append hrest]
  cases ds with
  | nil => exact absurd rfl hne
  | cons d ds => rfl

theorem written_of_exponentDigits {negative : Bool} {exponent : Option (Bool × List Nat)}
    {s rest : Symbols} (h : exponentDigits negative s = some (exponent, rest)) :
    ∃ ds t, exponent = some (negative, ds) ∧ ds ≠ [] ∧ DigitsWritten ds t ∧ s = t ++ rest := by
  rw [exponentDigits] at h
  split at h
  · cases h
  · next ds r hne hdigits =>
    cases h
    obtain ⟨t, ht, rfl⟩ := written_of_digits hdigits
    exact ⟨ds, t, rfl, hne, ht, rfl⟩

theorem exponentRest_append {negative : Bool} {sign : Symbols} {ds : List Nat}
    {s rest : Symbols} (hsign : (negative, sign) ∈ exponentSigns) (h : DigitsWritten ds s)
    (hne : ds ≠ []) (hrest : NoDigit rest) :
    exponentRest (sign ++ (s ++ rest)) = some (some (negative, ds), rest) := by
  have hdigits (sign : Bool) : exponentDigits sign (s ++ rest) = some (some (sign, ds), rest) :=
    exponentDigits_append h hne hrest
  simp only [exponentSigns, List.mem_cons, Prod.mk.injEq, List.not_mem_nil, or_false] at hsign
  obtain ⟨rfl, rfl⟩ | ⟨rfl, rfl⟩ | ⟨rfl, rfl⟩ := hsign
  · exact hdigits true
  · exact hdigits false
  -- Without a sign the first digit stands at the head.
  · obtain ⟨hds, rfl⟩ := h
    obtain ⟨d, ds, rfl⟩ := List.exists_cons_of_ne_nil hne
    have hd : d < 10 := hds d List.mem_cons_self
    have hsigns : ∀ d < 10, Nat.digitChar d ≠ '-' ∧ Nat.digitChar d ≠ '+' := by decide
    rw [List.nil_append, ← hdigits false, List.map_cons, List.cons_append, exponentRest]
    · exact fun _ hhead => (hsigns d hd).1 (by simpa using (List.cons.inj hhead).1)
    · exact fun _ hhead => (hsigns d hd).2 (by simpa using (List.cons.inj hhead).1)

theorem written_of_exponentRest {exponent : Option (Bool × List Nat)} {s rest : Symbols}
    (h : exponentRest s = some (exponent, rest)) :
    ∃ negative sign ds t, exponent = some (negative, ds) ∧ ds ≠ [] ∧
      (negative, sign) ∈ exponentSigns ∧ DigitsWritten ds t ∧ s = sign ++ (t ++ rest) := by
  unfold exponentRest at h
  split at h
  · obtain ⟨ds, t, rfl, hne, ht, rfl⟩ := written_of_exponentDigits h
    exact ⟨_, [some '-'], ds, t, rfl, hne, by simp [exponentSigns], ht, rfl⟩
  · obtain ⟨ds, t, rfl, hne, ht, rfl⟩ := written_of_exponentDigits h
    exact ⟨_, [some '+'], ds, t, rfl, hne, by simp [exponentSigns], ht, rfl⟩
  · obtain ⟨ds, t, rfl, hne, ht, rfl⟩ := written_of_exponentDigits h
    exact ⟨_, [], ds, t, rfl, hne, by simp [exponentSigns], ht, rfl⟩

theorem ExponentWritten.exponentPart_append {exponent : Option (Bool × List Nat)}
    {s rest : Symbols} (h : ExponentWritten exponent s) (hrest : Closes rest) :
    exponentPart (s ++ rest) = some (exponent, rest) := by
  cases h with
  | absent =>
    rw [List.nil_append, exponentPart_eq]
    split
    · exact absurd rfl (hrest.startsNot 'e' (by simp) _)
    · exact absurd rfl (hrest.startsNot 'E' (by simp) _)
    · rfl
  | @given mark negative sign ds s marked signed digits nonempty =>
    have hread := exponentRest_append signed digits nonempty hrest.noDigit
    rw [← List.append_assoc] at hread
    simp only [List.mem_cons, List.not_mem_nil, or_false] at marked
    obtain rfl | rfl := marked
    · exact hread
    · exact hread

theorem written_of_exponentPart {exponent : Option (Bool × List Nat)} {s rest : Symbols}
    (h : exponentPart s = some (exponent, rest)) :
    ∃ t, ExponentWritten exponent t ∧ s = t ++ rest := by
  rw [exponentPart_eq] at h
  split at h
  · obtain ⟨negative, sign, ds, t, rfl, hne, hsign, ht, rfl⟩ := written_of_exponentRest h
    have hmark : 'e' ∈ ['e', 'E'] := by simp
    exact ⟨_, .given hmark hsign ht hne, by simp⟩
  · obtain ⟨negative, sign, ds, t, rfl, hne, hsign, ht, rfl⟩ := written_of_exponentRest h
    have hmark : 'E' ∈ ['e', 'E'] := by simp
    exact ⟨_, .given hmark hsign ht hne, by simp⟩
  · cases h
    exact ⟨[], .absent, rfl⟩

/-! ### Whole literals -/

/-- What is no whole part: no digits at all, or more after a zero. -/
def isMisled (whole : List Nat) : Bool :=
  whole.isEmpty || (whole.head? == some 0 && decide (whole.length > 1))

theorem isMisled_eq_false_iff {whole : List Nat} :
    isMisled whole = false ↔ whole ≠ [] ∧ (whole.head? = some 0 → whole = [0]) := by
  rcases whole with _ | ⟨d, _ | ⟨d', ds⟩⟩ <;> simp [isMisled]

theorem literalRest_eq (negative : Bool) (s : Symbols) :
    literalRest negative s =
      if isMisled (digits s).1 then none
      else (fractionPart (digits s).2).bind fun f =>
        (exponentPart f.2).map fun e => (⟨negative, (digits s).1, f.1, e.1⟩, e.2) := by
  rw [literalRest, isMisled]
  simp only [Option.bind_eq_bind, Option.pure_def, Option.map_eq_bind, Function.comp_def]
  rfl

/-- A number literal is read up to where it ends. -/
theorem Literal.Written.literal_append {l : Literal} {s rest : Symbols} (h : l.Written s)
    (hrest : Closes rest) : literal (s ++ rest) = some (l, rest) := by
  obtain @⟨negative, whole, fraction, exponent, w, f, e, digits, nonempty, leading, hf, he⟩ := h
  obtain ⟨hdigit, hpoint⟩ := he.ahead hrest
  have hread (negative : Bool) : literalRest negative (w ++ (f ++ (e ++ rest))) =
      some (⟨negative, whole, fraction, exponent⟩, rest) := by
    rw [literalRest_eq, digits.digits_append (hf.noDigit hdigit),
      isMisled_eq_false_iff.mpr ⟨nonempty, leading⟩, if_neg Bool.false_ne_true,
      hf.fractionPart_append hdigit hpoint, Option.bind_some, he.exponentPart_append hrest,
      Option.map_some]
  cases negative with
  | true => simpa [literal] using hread true
  | false =>
    -- The first digit is no sign.
    obtain ⟨hds, rfl⟩ := digits
    obtain ⟨d, ds, rfl⟩ := List.exists_cons_of_ne_nil nonempty
    have hsign : ∀ d < 10, Nat.digitChar d ≠ '-' := by decide
    have hne := hsign d (hds d List.mem_cons_self)
    rw [← hread false]
    simp [literal, hne]

theorem written_of_literalRest {negative : Bool} {l : Literal} {s rest : Symbols}
    (h : literalRest negative s = some (l, rest)) :
    ∃ t, l.Written ((if negative then [some '-'] else []) ++ t) ∧ s = t ++ rest := by
  rw [literalRest_eq] at h
  split at h
  · cases h
  · next hlead =>
    obtain ⟨hne, hleading⟩ := isMisled_eq_false_iff.mp (Bool.eq_false_iff.mpr hlead)
    obtain ⟨⟨fraction, r⟩, hfraction, h⟩ := Option.bind_eq_some_iff.mp h
    obtain ⟨⟨exponent, r'⟩, hexponent, heq⟩ := Option.map_eq_some_iff.mp h
    cases heq
    obtain ⟨w, hw, hs⟩ := written_of_digits (rfl : digits s = ((digits s).1, (digits s).2))
    obtain ⟨f, hf, hr⟩ := written_of_fractionPart hfraction
    obtain ⟨e, he, rfl⟩ := written_of_exponentPart hexponent
    refine ⟨w ++ (f ++ e), .mk hw hne hleading hf he, ?_⟩
    rw [hs, hr]
    simp

/-- What is read as a number is a number literal. -/
theorem written_of_literal {l : Literal} {s rest : Symbols} (h : literal s = some (l, rest)) :
    ∃ t, l.Written t ∧ s = t ++ rest := by
  unfold literal at h
  split at h
  · obtain ⟨t, ht, rfl⟩ := written_of_literalRest h
    exact ⟨_, ht, rfl⟩
  · obtain ⟨t, ht, rfl⟩ := written_of_literalRest h
    exact ⟨_, ht, rfl⟩

end Outlays.Json

import Mathlib.Data.List.Basic
import Outlays.Text.Lowercase

/-!
# Lower case in its place

Whoever looks for a text in another one, whatever the case of either, lower-cases both and looks for
the one in the other. That finds every place where the text stands as it is, provided that a piece
of a text is lower-cased like a text by itself. It is, but for its capital sigmas: which form they
take depends on the nearest letters before and after, and those may lie outside of the piece.

So a text is found in all that it stands in if and only if no letter outside of it has a say in its
sigmas. Only one direction is clear at once. For the other one the sigmas of each form are counted:
a letter in front makes sigmas final, and a letter behind makes them ordinary again, and then there
are too few of one form to find the text anywhere at all.

## Main definitions

* `Text.isFinal` — a capital sigma between these characters takes its final form
* `Text.lowerWithin` — a piece in lower case, between what stands around it
* `Text.StandsAlike`, `Text.Settled` — the sigmas take the forms that they take by themselves

## Main results

* `Text.lowerAfter_append` — a text is lower-cased piece by piece
* `Text.settled_iff` — the pieces that are found in every text that they stand in
* `Text.settled_of_not_mem` — among them are all without a capital sigma
* `Text.lowercase_eq_of_alike` — the case of ASCII letters makes no difference
-/

namespace Outlays.Text

variable {before after a b a' b' cs ds p q : List Char} {c : Char}

/-! ## Sigmas -/

/-- A capital sigma takes its final form, given the characters before it, nearest first, and those
after it. -/
def isFinal (before after : List Char) : Bool := startsCased before && !startsCased after

/-- A character in lower case, between those before it, nearest first, and those after it. -/
def lowerAt (before : List Char) (c : Char) (after : List Char) : List Char :=
  if c = 'Σ' then [if isFinal before after then 'ς' else 'σ'] else lowerChar c

/-- A piece of a text in lower case, between the characters before it, nearest first, and those
after it. -/
def lowerWithin (before after : List Char) : List Char → List Char
  | [] => []
  | c :: rest => lowerAt before c (rest ++ after) ++ lowerWithin (c :: before) after rest

theorem lowerAfter_cons (before : List Char) (c : Char) (rest : List Char) :
    lowerAfter before (c :: rest) = lowerAt before c rest ++ lowerAfter (c :: before) rest := by
  by_cases hc : c = 'Σ'
  · subst hc
    rfl
  · rw [lowerAt, if_neg hc, lowerAfter]
    exact hc

/-- A text is lower-cased piece by piece, each in its place. -/
theorem lowerAfter_append (before cs rest : List Char) :
    lowerAfter before (cs ++ rest) =
      lowerWithin before rest cs ++ lowerAfter (cs.reverse ++ before) rest := by
  induction cs generalizing before with
  | nil => rfl
  | cons c cs ih =>
    rw [List.cons_append, lowerAfter_cons, ih, lowerWithin, List.append_assoc, List.reverse_cons,
      List.append_assoc, List.singleton_append]

theorem lowerAfter_eq_lowerWithin (before cs : List Char) :
    lowerAfter before cs = lowerWithin before [] cs := by
  have happend := lowerAfter_append before cs []
  rwa [List.append_nil, lowerAfter, List.append_nil] at happend

/-- The capital sigmas of a text take the forms that they take by themselves, between `a` in front
and `b` behind. -/
def StandsAlike (a b cs : List Char) : Prop :=
  ∀ p q, cs = p ++ 'Σ' :: q →
    isFinal (p.reverse ++ a.reverse) (q ++ b) = isFinal p.reverse q

/-- The capital sigmas of a text take the forms that they take by themselves wherever it stands. -/
def Settled (cs : List Char) : Prop := ∀ a b, StandsAlike a b cs

/-- A text without a capital sigma has nothing in it that could change. -/
theorem settled_of_not_mem (h : 'Σ' ∉ cs) : Settled cs := by
  rintro a b p q rfl
  simp at h

/-- Where the sigmas of a piece take the same forms, it has the same lower case. -/
theorem lowerWithin_congr (h : ∀ p q, cs = p ++ 'Σ' :: q →
      isFinal (p.reverse ++ a) (q ++ b) = isFinal (p.reverse ++ a') (q ++ b')) :
    lowerWithin a b cs = lowerWithin a' b' cs := by
  induction cs generalizing a a' with
  | nil => rfl
  | cons c cs ih =>
    have hhead : lowerAt a c (cs ++ b) = lowerAt a' c (cs ++ b') := by
      by_cases hc : c = 'Σ'
      · subst hc
        rw [lowerAt, lowerAt, show isFinal a (cs ++ b) = isFinal a' (cs ++ b') from h [] cs rfl]
      · rw [lowerAt, lowerAt, if_neg hc, if_neg hc]
    rw [lowerWithin, lowerWithin, hhead, ih]
    rintro p q rfl
    simpa using h (c :: p) q rfl

/-- A text is found between whatever leaves its sigmas as they are. -/
theorem StandsAlike.lowerAfter_found (h : StandsAlike a b cs) :
    lowerAfter [] cs <:+: lowerAfter [] (a ++ cs ++ b) := by
  have hwithin : lowerWithin a.reverse b cs = lowerAfter [] cs := by
    rw [lowerAfter_eq_lowerWithin]
    exact lowerWithin_congr fun p q heq => by simpa using h p q heq
  rw [List.append_assoc, lowerAfter_append, lowerAfter_append, List.append_nil, hwithin,
    ← List.append_assoc]
  exact List.infix_append _ _ _

/-! ## Counting sigmas -/

/-- The nearest letter is among the nearer characters, unless all of these are passed over. -/
theorem startsCased_append (as bs : List Char) : startsCased (as ++ bs) =
    if as.all isCaseIgnorable then startsCased bs else startsCased as := by
  induction as with
  | nil => rfl
  | cons c as ih =>
    cases hc : isCaseIgnorable c with
    | true =>
      have hskip (cs : List Char) : startsCased (c :: cs) = startsCased cs := by
        rw [startsCased, List.dropWhile_cons_of_pos hc, startsCased]
      rw [List.cons_append, hskip, hskip, ih, List.all_cons, hc, Bool.true_and]
    | false =>
      have hstop (cs : List Char) : startsCased (c :: cs) = isCased c := by
        rw [startsCased, List.dropWhile_cons_of_neg (by simp [hc])]
      rw [List.cons_append, hstop, hstop, List.all_cons, hc]
      rfl

theorem startsCased_of_all (h : cs.all isCaseIgnorable = true) : startsCased cs = false := by
  have happend := startsCased_append cs []
  rw [List.append_nil, if_pos h] at happend
  exact happend

/-- What stands around a piece makes its sigmas final only where `a'` and `b'` do. -/
def FewerFinal (a b a' b' cs : List Char) : Prop :=
  ∀ p q, cs = p ++ 'Σ' :: q →
    isFinal (p.reverse ++ a) (q ++ b) = true → isFinal (p.reverse ++ a') (q ++ b') = true

/-- All sigmas of a piece together are as many as capital ones, whatever their forms. -/
theorem count_add_count (a b a' b' cs : List Char) :
    (lowerWithin a b cs).count 'σ' + (lowerWithin a b cs).count 'ς' =
      (lowerWithin a' b' cs).count 'σ' + (lowerWithin a' b' cs).count 'ς' := by
  induction cs generalizing a a' with
  | nil => rfl
  | cons c cs ih =>
    have hhead : (lowerAt a c (cs ++ b)).count 'σ' + (lowerAt a c (cs ++ b)).count 'ς' =
        (lowerAt a' c (cs ++ b')).count 'σ' + (lowerAt a' c (cs ++ b')).count 'ς' := by
      unfold lowerAt
      split
      · cases isFinal a (cs ++ b) <;> cases isFinal a' (cs ++ b') <;> rfl
      · rfl
    have htail := ih (c :: a) (c :: a')
    simp only [lowerWithin, List.count_append]
    omega

theorem FewerFinal.tail (h : FewerFinal a b a' b' (c :: cs)) :
    FewerFinal (c :: a) b (c :: a') b' cs := by
  rintro p q rfl
  simpa using h (c :: p) q rfl

theorem FewerFinal.count_head (h : FewerFinal a b a' b' (c :: cs)) :
    (lowerAt a' c (cs ++ b')).count 'σ' ≤ (lowerAt a c (cs ++ b)).count 'σ' := by
  by_cases hc : c = 'Σ'
  · subst hc
    have hfinal : isFinal a (cs ++ b) = true → isFinal a' (cs ++ b') = true := h [] cs rfl
    rw [lowerAt, lowerAt, if_pos rfl, if_pos rfl]
    cases hhere : isFinal a (cs ++ b) with
    | false => cases isFinal a' (cs ++ b') <;> decide
    | true => exact Nat.le_of_eq (by rw [hfinal hhere])
  · exact Nat.le_of_eq (by rw [lowerAt, lowerAt, if_neg hc, if_neg hc])

theorem FewerFinal.count_le (h : FewerFinal a b a' b' cs) :
    (lowerWithin a' b' cs).count 'σ' ≤ (lowerWithin a b cs).count 'σ' := by
  induction cs generalizing a a' with
  | nil => exact Nat.le_refl 0
  | cons c cs ih =>
    simp only [lowerWithin, List.count_append]
    exact Nat.add_le_add h.count_head (ih h.tail)

/-- Where no ordinary sigma is missing, every sigma has the same form. -/
theorem FewerFinal.eq_of_count (h : FewerFinal a b a' b' cs)
    (hcount : (lowerWithin a b cs).count 'σ' ≤ (lowerWithin a' b' cs).count 'σ') :
    ∀ p q, cs = p ++ 'Σ' :: q →
      isFinal (p.reverse ++ a) (q ++ b) = isFinal (p.reverse ++ a') (q ++ b') := by
  induction cs generalizing a a' with
  | nil =>
    intro p q heq
    simp at heq
  | cons c cs ih =>
    have hhead := h.count_head
    have htail := h.tail.count_le
    simp only [lowerWithin, List.count_append] at hcount
    intro p q heq
    cases p with
    | nil =>
      obtain ⟨rfl, rfl⟩ := List.cons.inj heq
      have hsame : (lowerAt a 'Σ' (cs ++ b)).count 'σ' ≤ (lowerAt a' 'Σ' (cs ++ b')).count 'σ' := by
        omega
      have hfinal : isFinal a (cs ++ b) = true → isFinal a' (cs ++ b') = true := h [] cs rfl
      rw [lowerAt, lowerAt, if_pos rfl, if_pos rfl] at hsame
      revert hsame hfinal
      simp only [List.reverse_nil, List.nil_append]
      cases isFinal a (cs ++ b) <;> cases isFinal a' (cs ++ b') <;> simp
    | cons d p =>
      obtain ⟨rfl, rfl⟩ := List.cons.inj heq
      simpa using ih h.tail (by omega) p q rfl

/-! ## Settled texts -/

theorem startsCased_letter : startsCased ['A'] = true := by decide +kernel

/-- A letter on either side is enough to unsettle a text that can be unsettled. -/
theorem settled_of_letters
    (hfront : ∀ p q, cs = p ++ 'Σ' :: q →
      isFinal (p.reverse ++ ['A']) q = isFinal p.reverse q)
    (hback : ∀ p q, cs = p ++ 'Σ' :: q →
      isFinal p.reverse (q ++ ['A']) = isFinal p.reverse q) : Settled cs := by
  intro a b p q heq
  have hfront := hfront p q heq
  have hback := hback p q heq
  have hp : p.reverse.all isCaseIgnorable = true → startsCased p.reverse = false :=
    startsCased_of_all
  have hq : q.all isCaseIgnorable = true → startsCased q = false := startsCased_of_all
  simp only [isFinal, startsCased_append, startsCased_letter] at hfront hback ⊢
  -- Only whether a side is passed over, and whether its nearest letter counts, still matters.
  revert hfront hback hp hq
  generalize p.reverse.all isCaseIgnorable = front
  generalize q.all isCaseIgnorable = back
  generalize startsCased p.reverse = x
  generalize startsCased q = y
  cases front <;> cases back <;> cases x <;> cases y <;> simp

theorem fewerFinal_front (cs : List Char) : FewerFinal [] [] ['A'] [] cs := by
  intro p q _ hfinal
  simp only [isFinal, startsCased_append, startsCased_letter, List.append_nil] at hfinal ⊢
  split
  · simp_all
  · exact hfinal

theorem fewerFinal_back (cs : List Char) : FewerFinal [] ['A'] [] [] cs := by
  intro p q _ hfinal
  simp only [isFinal, startsCased_append, startsCased_letter, List.append_nil] at hfinal ⊢
  split at hfinal
  · simp_all
  · exact hfinal

/-- A letter in front adds no ordinary sigma, so a text that is found behind it has none to lose. -/
theorem count_le_of_front (h : lowerAfter [] cs <:+: lowerAfter [] ('A' :: cs)) :
    (lowerWithin [] [] cs).count 'σ' ≤ (lowerWithin ['A'] [] cs).count 'σ' := by
  have hfound := h.sublist.count_le 'σ'
  have hnone : (lowerAt [] 'A' cs).count 'σ' = 0 := by
    rw [lowerAt, if_neg (by decide)]
    decide
  rwa [lowerAfter_cons, List.count_append, hnone, Nat.zero_add, lowerAfter_eq_lowerWithin,
    lowerAfter_eq_lowerWithin] at hfound

/-- A letter behind adds no final sigma. -/
theorem count_le_of_back (h : lowerAfter [] cs <:+: lowerAfter [] (cs ++ ['A'])) :
    (lowerWithin [] [] cs).count 'ς' ≤ (lowerWithin [] ['A'] cs).count 'ς' := by
  have hfound := h.sublist.count_le 'ς'
  have hnone (before : List Char) : (lowerAfter before ['A']).count 'ς' = 0 := by
    rw [lowerAfter_cons, lowerAt, if_neg (by decide), lowerAfter, List.append_nil]
    decide
  rwa [lowerAfter_append, List.count_append, hnone, Nat.add_zero, lowerAfter_eq_lowerWithin]
    at hfound

/-- The pieces that are found in every text that they stand in are those whose sigmas no such text
changes. -/
theorem settled_iff :
    Settled cs ↔ ∀ a b, lowerAfter [] cs <:+: lowerAfter [] (a ++ cs ++ b) := by
  constructor
  · intro h a b
    exact (h a b).lowerAfter_found
  · intro h
    have hfront : lowerAfter [] cs <:+: lowerAfter [] ('A' :: cs) := by
      simpa using h ['A'] []
    have hback : lowerAfter [] cs <:+: lowerAfter [] (cs ++ ['A']) := h [] ['A']
    apply settled_of_letters
    case hfront =>
      -- A letter in front makes sigmas final, and none that is ordinary by itself may be missing.
      intro p q heq
      have hsame := (fewerFinal_front cs).eq_of_count (count_le_of_front hfront) p q heq
      simpa using hsame.symm
    case hback =>
      -- A letter behind makes them ordinary, and none that is final by itself may be missing.
      intro p q heq
      have hfinal := count_le_of_back hback
      have htotal := count_add_count [] [] [] ['A'] cs
      have hsame := (fewerFinal_back cs).eq_of_count (by omega) p q heq
      simpa using hsame

/-! ## The case of ASCII letters -/

theorem inRanges_of_mem {ranges : List (Nat × Nat)} {first last n : Nat}
    (h : (first, last) ∈ ranges) (hfirst : first ≤ n) (hlast : n ≤ last) :
    inRanges ranges n = true :=
  List.any_eq_true.mpr ⟨_, h, by simp [hfirst, hlast]⟩

theorem inRanges_of_apart {ranges : List (Nat × Nat)} {first last n : Nat}
    (h : ranges.all fun r => last < r.1 || r.2 < first) (hfirst : first ≤ n) (hlast : n ≤ last) :
    inRanges ranges n = false := by
  refine List.any_eq_false.mpr fun r hr => ?_
  have hapart := List.all_eq_true.mp h r hr
  simp only [Bool.or_eq_true, decide_eq_true_eq, Bool.and_eq_true] at hapart ⊢
  omega

theorem isCaseIgnorable_letter (hc : 65 ≤ c.toNat ∧ c.toNat ≤ 90 ∨ 97 ≤ c.toNat ∧ c.toNat ≤ 122) :
    isCaseIgnorable c = false := by
  rcases hc with ⟨hfirst, hlast⟩ | ⟨hfirst, hlast⟩
  · exact inRanges_of_apart (by decide +kernel) hfirst hlast
  · exact inRanges_of_apart (by decide +kernel) hfirst hlast

theorem isCased_letter (hc : 65 ≤ c.toNat ∧ c.toNat ≤ 90 ∨ 97 ≤ c.toNat ∧ c.toNat ≤ 122) :
    isCased c = true := by
  rcases hc with ⟨hfirst, hlast⟩ | ⟨hfirst, hlast⟩
  · exact inRanges_of_mem (by simp [casedRanges]) hfirst hlast
  · exact inRanges_of_mem (by simp [casedRanges]) hfirst hlast

/-- Both cases of an ASCII letter have the same lower case, and neither is passed over where the
other counts. -/
theorem toLower_laws (c : Char) :
    lowerChar c.toLower = lowerChar c ∧ isCased c.toLower = isCased c ∧
      isCaseIgnorable c.toLower = isCaseIgnorable c ∧ (c.toLower = 'Σ' ↔ c = 'Σ') := by
  obtain ⟨hupper, hlower, htwice⟩ | hself := toLower_cases c
  · have hsigma {d : Char} (hd : d.toNat < 128) : d ≠ 'Σ' := by
      rintro rfl
      exact absurd hd (by decide)
    refine ⟨?_, ?_, ?_, ?_⟩
    · rw [lowerChar, lowerChar, if_pos (by omega), if_pos (by omega), htwice]
    · rw [isCased_letter (by omega), isCased_letter (by omega)]
    · rw [isCaseIgnorable_letter (by omega), isCaseIgnorable_letter (by omega)]
    · exact iff_of_false (hsigma (by omega)) (hsigma (by omega))
  · rw [hself]
    exact ⟨rfl, rfl, rfl, Iff.rfl⟩

theorem startsCased_map_toLower (cs : List Char) :
    startsCased (cs.map Char.toLower) = startsCased cs := by
  induction cs with
  | nil => rfl
  | cons c cs ih =>
    obtain ⟨-, hcased, hignorable, -⟩ := toLower_laws c
    unfold startsCased at ih ⊢
    rw [List.map_cons]
    cases hc : isCaseIgnorable c with
    | true =>
      rw [List.dropWhile_cons_of_pos (hignorable.trans hc), List.dropWhile_cons_of_pos hc, ih]
    | false =>
      rw [List.dropWhile_cons_of_neg (by simp [hignorable, hc]),
        List.dropWhile_cons_of_neg (by simp [hc])]
      exact hcased

theorem lowerAfter_map_toLower (before cs : List Char) :
    lowerAfter (before.map Char.toLower) (cs.map Char.toLower) = lowerAfter before cs := by
  induction cs generalizing before with
  | nil => rfl
  | cons c cs ih =>
    obtain ⟨hlower, -, -, hsigma⟩ := toLower_laws c
    have hhead : lowerAt (before.map Char.toLower) c.toLower (cs.map Char.toLower) =
        lowerAt before c cs := by
      have hfinal : isFinal (before.map Char.toLower) (cs.map Char.toLower) =
          isFinal before cs := by
        rw [isFinal, isFinal, startsCased_map_toLower, startsCased_map_toLower]
      by_cases hc : c = 'Σ'
      · rw [lowerAt, lowerAt, if_pos hc, if_pos (hsigma.mpr hc), hfinal]
      · rw [lowerAt, lowerAt, if_neg hc, if_neg (mt hsigma.mp hc), hlower]
    rw [List.map_cons, lowerAfter_cons, lowerAfter_cons, hhead, ← List.map_cons, ih]

/-- The texts differ in the case of ASCII letters at most. -/
def Alike (s t : String) : Prop := s.toList.map Char.toLower = t.toList.map Char.toLower

/-- Such texts are the same in lower case. -/
theorem lowercase_eq_of_alike {s t : String} (h : Alike s t) : lowercase s = lowercase t := by
  rw [lowercase, lowercase, ← lowerAfter_map_toLower [] s.toList, h,
    lowerAfter_map_toLower [] t.toList]

end Outlays.Text

import Mathlib.Data.List.TakeWhile
import Outlays.Web.Path

/-!
# Paths segment by segment

A path grows segment by segment, from the text of a reference or by segments that are pushed. On the
web, where no drives are, a segment does one of three things: it leads one place up, it stays in its
place, or it is written at the end. What is written is the segment without the characters that do
not count, percent-encoded, so a segment that starts with a plain character is always written.

## Main definitions

* `Path.IsPlain` — a character that stands for itself wherever it is
* `Path.Rooted` — the text starts with a slash
* `Path.written` — a segment as it is written
* `Path.segments`, `Path.stem` — the segments of a path, and all but an empty one at the end

## Main results

* `Path.step_eq` — what a segment does
* `Path.rooted_follow` — a rooted path leads to a rooted path
* `Path.follow_plain`, `Path.follow_plain_slash` — a plain segment is written at the end
* `Path.extend_eq` — segments that are pushed become the last segments of the path
-/

namespace Outlays

theorem Percent.encode_append (set : Char → Bool) (cs ds : List Char) :
    encode set (cs ++ ds) = encode set cs ++ encode set ds :=
  List.flatMap_append

namespace Path

variable {kind : PathKind} {set : Char → Bool} {text front segment : List Char} {c : Char}

/-! ## Plain characters -/

/-- The character is an ASCII letter or digit, a hyphen or a low line. -/
def IsPlain (c : Char) : Prop := c.isAlphanum || c == '-' || c == '_'

instance : DecidablePred IsPlain := fun _ => inferInstanceAs (Decidable (_ = true))

theorem isPlain_of_all (h : text.all (fun c => decide (IsPlain c)) = true) :
    ∀ c ∈ text, IsPlain c := by
  simpa only [List.all_eq_true, decide_eq_true_eq] using h

theorem IsPlain.toNat_lt (h : IsPlain c) : c.toNat < 0x80 := by
  have hkinds : (c.isUpper || c.isLower || c.isDigit || c == '-' || c == '_') = true := h
  simp only [Bool.or_eq_true, beq_iff_eq] at hkinds
  obtain (((hupper | hlower) | hdigit) | rfl) | rfl := hkinds
  · have hle : c.val ≤ 'Z'.val := (of_decide_eq_true hupper).2
    exact Nat.lt_of_le_of_lt (UInt32.le_iff_toNat_le.mp hle) (by decide)
  · have hle : c.val ≤ 'z'.val := of_decide_eq_true (Bool.and_eq_true_iff.mp hlower).2
    exact Nat.lt_of_le_of_lt (UInt32.le_iff_toNat_le.mp hle) (by decide)
  · have hle : c.val ≤ '9'.val := of_decide_eq_true (Bool.and_eq_true_iff.mp hdigit).2
    exact Nat.lt_of_le_of_lt (UInt32.le_iff_toNat_le.mp hle) (by decide)
  · decide
  · decide

/-- What is special about some character of addresses is not so of a plain one. -/
theorem IsPlain.laws (h : IsPlain c) :
    (0x20 < c.toNat ∧ c.toNat < 0x80) ∧ isIgnored c = false ∧ isSlash true c = false ∧
      Percent.segmentSet true c = false ∧ c.toLower ∉ ['.', '%', ':'] := by
  -- Plain characters are among the first 128, so there are few to look at.
  have hall : ∀ n < 0x80, IsPlain (Char.ofNat n) →
      0x20 < (Char.ofNat n).toNat ∧ isIgnored (Char.ofNat n) = false ∧
        isSlash true (Char.ofNat n) = false ∧ Percent.segmentSet true (Char.ofNat n) = false ∧
        (Char.ofNat n).toLower ∉ ['.', '%', ':'] := by
    decide +kernel
  have hchar := hall c.toNat h.toNat_lt
  rw [Char.ofNat_toNat] at hchar
  exact ⟨⟨(hchar h).1, h.toNat_lt⟩, (hchar h).2⟩

theorem IsPlain.pathSet (h : IsPlain c) : Percent.pathSet c = false := by
  obtain ⟨-, -, -, hset, -⟩ := h.laws
  simp only [Percent.segmentSet, Bool.or_eq_false_iff] at hset
  exact hset.1.1.1

/-! ## Characters that count -/

theorem flatten_splitOnP {α : Type} {p : α → Bool} (xs : List α) :
    (xs.splitOnP p).flatten = xs.filter (!p ·) := by
  induction xs with
  | nil => rfl
  | cons x xs ih =>
    rw [List.splitOnP_cons_eq_if_modifyHead]
    cases hx : p x with
    | true => simp [hx, ih]
    | false =>
      obtain ⟨first, rest, hparts⟩ := List.exists_cons_of_ne_nil (List.splitOnP_ne_nil p xs)
      rw [hparts] at ih ⊢
      simpa [hx] using ih

theorem flatten_runs (segment : List Char) : (runs segment).flatten = kept segment := by
  rw [runs, List.flatten_filter_not_isEmpty, flatten_splitOnP, kept]

theorem kept_eq_self (h : ∀ c ∈ segment, isIgnored c = false) : kept segment = segment :=
  List.filter_eq_self.mpr fun c hc => by simp [h c hc]

/-- The segment as it is written at the end of a path. -/
def written (set : Char → Bool) (segment : List Char) : List Char :=
  Percent.encode set (kept segment)

theorem foldl_writeRun (hkind : kind.drives = false) (parts : List (List Char)) (text : List Char)
    (start : ℕ) :
    parts.foldl (writeRun kind set) (text, start) =
      (text ++ Percent.encode set parts.flatten, start) := by
  induction parts generalizing text with
  | nil => simp [Percent.encode]
  | cons part parts ih =>
    rw [List.foldl_cons, writeRun, hkind, Bool.false_and, if_neg Bool.false_ne_true, ih,
      List.flatten_cons, Percent.encode_append, List.append_assoc]

/-- A segment leads up, stays in its place or is written at the end. -/
theorem step_eq (hkind : kind.drives = false) (path : Path) (segment : List Char)
    (isEnded : Bool) :
    step kind set path segment isEnded = { path with
      text :=
        if isAbove (written set segment) then
          if isEnded then closed (above kind path.text) else above kind path.text
        else if isHere (written set segment) then closed path.text
        else path.text ++ written set segment ++ if isEnded then ['/'] else [] } := by
  rw [step, foldl_writeRun hkind, flatten_runs, ← written]
  simp only [List.take_left', List.drop_left', hkind, Bool.false_and, Bool.false_eq_true, if_false]
  cases isAbove (written set segment) <;> cases isHere (written set segment) <;> rfl

theorem settled_eq (hkind : kind.drives = false) (path : Path) : settled kind path = path := by
  rw [settled, hkind, if_neg Bool.false_ne_true]

/-! ## Rooted paths -/

/-- The text starts with a slash. -/
def Rooted (text : List Char) : Prop := ∃ rest, text = '/' :: rest

theorem Rooted.start (h : Rooted text) (hfront : front <+: text) (hne : front ≠ []) :
    Rooted front := by
  obtain ⟨rest, rfl⟩ := h
  obtain ⟨c, cs, rfl⟩ := List.exists_cons_of_ne_nil hne
  obtain ⟨rfl, -⟩ := List.cons_prefix_cons.mp hfront
  exact ⟨cs, rfl⟩

theorem Rooted.append (h : Rooted text) (more : List Char) : Rooted (text ++ more) := by
  obtain ⟨rest, rfl⟩ := h
  exact ⟨rest ++ more, rfl⟩

theorem Rooted.mem (h : Rooted text) : '/' ∈ text := by
  obtain ⟨rest, rfl⟩ := h
  exact List.mem_cons_self

theorem throughSlash_append_lastSegment (text : List Char) :
    throughSlash text ++ lastSegment text = text := by
  rw [throughSlash, lastSegment, ← List.reverse_append, List.takeWhile_append_dropWhile,
    List.reverse_reverse]

theorem throughSlash_ne_nil (h : '/' ∈ text) : throughSlash text ≠ [] := by
  rw [throughSlash, Ne, List.reverse_eq_nil_iff, List.dropWhile_eq_nil_iff]
  intro hall
  simpa using hall '/' (List.mem_reverse.mpr h)

theorem Rooted.throughSlash (h : Rooted text) : Rooted (throughSlash text) :=
  h.start ⟨_, throughSlash_append_lastSegment text⟩ (throughSlash_ne_nil h.mem)

theorem Rooted.dropSlash (h : Rooted text) : Rooted (dropSlash text) := by
  unfold Path.dropSlash
  dsimp only
  split
  · next hslash =>
    simp only [Bool.and_eq_true, List.contains_iff_mem] at hslash
    have hfront : text.dropLast <+: text := List.dropLast_prefix text
    exact h.start hfront (List.ne_nil_of_mem hslash.1.2)
  · exact h

theorem Rooted.closed (h : Rooted text) : Rooted (closed text) := by
  unfold Path.closed
  split
  · exact h
  · exact h.append _

theorem Rooted.above (hkind : kind.drives = false) (h : Rooted text) :
    Rooted (above kind text) := by
  rw [Path.above, drop, hkind, Bool.false_and, if_neg Bool.false_ne_true]
  exact h.dropSlash.throughSlash

/-- No segment leads out of a rooted path. -/
theorem rooted_step (hkind : kind.drives = false) {path : Path} (h : Rooted path.text)
    (segment : List Char) (isEnded : Bool) : Rooted (step kind set path segment isEnded).text := by
  rw [step_eq hkind]
  dsimp only
  split
  · split
    · exact (h.above hkind).closed
    · exact h.above hkind
  · split
    · exact h.closed
    · exact (h.append _).append _

theorem rooted_steps (hkind : kind.drives = false) (segments : List (List Char)) {path : Path}
    (h : Rooted path.text) : Rooted (steps kind set path segments).text := by
  induction segments generalizing path with
  | nil => exact h
  | cons segment rest ih =>
    cases rest with
    | nil => exact rooted_step hkind h segment false
    | cons next rest => exact ih (rooted_step hkind h segment true)

theorem rooted_follow (hkind : kind.drives = false) (h : Rooted front) (text : List Char) :
    Rooted (follow kind front text).text := by
  rw [follow, settled_eq hkind]
  exact rooted_steps hkind _ h

/-! ## Segments that are written -/

theorem written_cons (hc : IsPlain c) (hset : set c = false) (rest : List Char) :
    written set (c :: rest) = c :: written set rest := by
  obtain ⟨⟨-, hrange⟩, hkept, -⟩ := hc.laws
  rw [written, kept, List.filter_cons_of_pos (by simp [hkept]), Percent.encode, List.flatMap_cons,
    if_neg (by simp [hset]; omega)]
  rfl

theorem written_eq_self (h : ∀ c ∈ segment, IsPlain c) :
    written Percent.pathSet segment = segment := by
  induction segment with
  | nil => rfl
  | cons c rest ih =>
    obtain ⟨hc, hrest⟩ := List.forall_mem_cons.mp h
    rw [written_cons hc hc.pathSet, ih hrest]

/-- A segment that starts with a plain character stands for no place. -/
theorem not_isPlace (hc : IsPlain c) (rest : List Char) :
    isAbove (c :: rest) = false ∧ isHere (c :: rest) = false := by
  obtain ⟨-, -, -, -, hpoint⟩ := hc.laws
  simp only [List.mem_cons, List.not_mem_nil, or_false, not_or] at hpoint
  constructor
  · simp [isAbove, String.ext_iff, hpoint]
  · simp [isHere, String.ext_iff, hpoint]

/-- A segment that starts with a plain character is written at the end. -/
theorem step_plain (hkind : kind.drives = false) (path : Path) (hc : IsPlain c)
    (hset : set c = false) (rest : List Char) (isEnded : Bool) :
    step kind set path (c :: rest) isEnded = { path with
      text := path.text ++ written set (c :: rest) ++ if isEnded then ['/'] else [] } := by
  rw [step_eq hkind, written_cons hc hset, (not_isPlace hc _).1, (not_isPlace hc _).2]
  rfl

theorem not_isSlash (hc : IsPlain c) (web : Bool) : isSlash web c = false := by
  obtain ⟨-, -, hslash, -⟩ := hc.laws
  cases web with
  | true => exact hslash
  | false =>
    simp only [isSlash, Bool.or_eq_false_iff] at hslash
    simp [isSlash, hslash.1]

/-- A plain segment is written at the end of the path. -/
theorem follow_plain (hkind : kind.drives = false) (front : List Char) (hne : segment ≠ [])
    (hplain : ∀ c ∈ segment, IsPlain c) :
    follow kind front segment = ⟨front ++ segment, false⟩ := by
  have hparts : segment.splitOnP (isSlash kind.web) = [segment] :=
    List.splitOnP_eq_singleton fun c hc => not_isSlash (hplain c hc) kind.web
  have hwritten := written_eq_self hplain
  obtain ⟨c, rest, rfl⟩ := List.exists_cons_of_ne_nil hne
  have hc := hplain c List.mem_cons_self
  rw [follow, settled_eq hkind, hparts, steps,
    step_plain hkind _ hc hc.pathSet, hwritten]
  simp

/-- A plain segment with a slash behind it is written with the slash. -/
theorem follow_plain_slash (hkind : kind.drives = false) (front : List Char) (hne : segment ≠ [])
    (hplain : ∀ c ∈ segment, IsPlain c) :
    follow kind front (segment ++ ['/']) = ⟨front ++ segment ++ ['/'], false⟩ := by
  have hparts : (segment ++ ['/']).splitOnP (isSlash kind.web) = [segment, []] := by
    rw [List.splitOnP_append_cons_of_forall_mem (fun c hc => not_isSlash (hplain c hc) kind.web) '/'
      rfl, List.splitOnP_nil]
  have hwritten := written_eq_self hplain
  obtain ⟨c, rest, rfl⟩ := List.exists_cons_of_ne_nil hne
  have hc := hplain c List.mem_cons_self
  rw [follow, settled_eq hkind, hparts, steps,
    step_plain hkind _ hc hc.pathSet, hwritten, steps, step_eq hkind]
  · simp [written, kept, Percent.encode, isAbove, isHere]
  · simp

/-! ## Last slashes -/

theorem endsInSlash_iff : endsInSlash text = true ↔ ∃ front, text = front ++ ['/'] := by
  rw [endsInSlash, beq_iff_eq, List.getLast?_eq_some_iff]

theorem throughSlash_closed (front : List Char) :
    throughSlash (front ++ ['/']) = front ++ ['/'] := by
  simp [throughSlash]

/-! ## Segments that are pushed -/

/-- The segments of a rooted path, between its slashes. -/
def segments (text : List Char) : List (List Char) := (text.drop 1).splitOn '/'

/-- The text of a path with these segments, each behind a slash. -/
def joined (segments : List (List Char)) : List Char := segments.flatMap ('/' :: ·)

/-- The segments less an empty one at the end. -/
def stem (segments : List (List Char)) : List (List Char) :=
  if segments.getLast? = some [] then segments.dropLast else segments

theorem joined_append (front rest : List (List Char)) :
    joined (front ++ rest) = joined front ++ joined rest :=
  List.flatMap_append

theorem joined_eq_intercalate {parts : List (List Char)} (hne : parts ≠ []) :
    joined parts = '/' :: ['/'].intercalate parts := by
  induction parts with
  | nil => exact absurd rfl hne
  | cons part rest ih =>
    cases rest with
    | nil => simp [joined]
    | cons next rest =>
      rw [joined, List.flatMap_cons, List.intercalate_cons_cons, List.append_assoc,
        List.singleton_append, ← ih (List.cons_ne_nil next rest)]
      rfl

theorem joined_segments (h : Rooted text) : joined (segments text) = text := by
  obtain ⟨rest, rfl⟩ := h
  rw [segments, List.drop_succ_cons, List.drop_zero,
    joined_eq_intercalate (List.splitOn_ne_nil _ _), List.intercalate_splitOn]

theorem segments_joined {parts : List (List Char)} (hne : parts ≠ [])
    (h : ∀ part ∈ parts, '/' ∉ part) : segments (joined parts) = parts := by
  rw [joined_eq_intercalate hne, segments, List.drop_succ_cons, List.drop_zero,
    List.splitOn_intercalate '/' h hne]

/-- The segment starts with a plain character. -/
def StartsPlain (segment : String) : Prop := ∃ c rest, segment.toList = c :: rest ∧ IsPlain c

/-- The segments as they are pushed. -/
def pushed (kind : PathKind) (more : List String) : List (List Char) :=
  more.map fun segment => written (Percent.segmentSet kind.web) segment.toList

theorem IsPlain.segmentSet (h : IsPlain c) (web : Bool) : Percent.segmentSet web c = false := by
  obtain ⟨-, -, -, hset, -⟩ := h.laws
  cases web with
  | true => exact hset
  | false =>
    simp only [Percent.segmentSet, Bool.or_eq_false_iff] at hset
    simp [Percent.segmentSet, hset.1]

theorem StartsPlain.not_isPoints {more : String} (h : StartsPlain more) :
    (more == "." || more == "..") = false := by
  obtain ⟨c, rest, hmore, hc⟩ := h
  have hpoint : ¬ IsPlain '.' := by decide
  simp only [Bool.or_eq_false_iff, beq_eq_false_iff_ne]
  constructor
  · rintro rfl
    obtain ⟨rfl, -⟩ := List.cons.inj hmore
    exact hpoint hc
  · rintro rfl
    obtain ⟨rfl, -⟩ := List.cons.inj hmore
    exact hpoint hc

theorem push_eq (hkind : kind.drives = false) {more : String} (h : StartsPlain more)
    (text : List Char) :
    push kind text more =
      (if text = ['/'] then text else text ++ ['/']) ++
        written (Percent.segmentSet kind.web) more.toList := by
  obtain ⟨c, rest, hmore, hc⟩ := id h
  rw [push, h.not_isPoints, if_neg Bool.false_ne_true]
  dsimp only
  rw [settled_eq hkind, hmore, step_plain hkind _ hc (hc.segmentSet _)]
  simp

theorem written_ne_nil {more : String} (h : StartsPlain more) (web : Bool) :
    written (Percent.segmentSet web) more.toList ≠ [] := by
  obtain ⟨c, rest, hmore, hc⟩ := h
  rw [hmore, written_cons hc (hc.segmentSet web)]
  exact List.cons_ne_nil _ _

theorem foldl_push_eq (hkind : kind.drives = false) {more : List String}
    (hmore : ∀ segment ∈ more, StartsPlain segment) (htext : text ≠ ['/']) :
    more.foldl (push kind) text = text ++ joined (pushed kind more) := by
  induction more generalizing text with
  | nil => exact (List.append_nil text).symm
  | cons segment rest ih =>
    obtain ⟨hsegment, hrest⟩ := List.forall_mem_cons.mp hmore
    have hnext : text ++ ['/'] ++ written (Percent.segmentSet kind.web) segment.toList ≠ ['/'] := by
      intro heq
      have hlength := congrArg List.length heq
      have hne := List.length_pos_iff.mpr (written_ne_nil hsegment kind.web)
      simp only [List.length_append, List.length_singleton] at hlength
      omega
    rw [List.foldl_cons, push_eq hkind hsegment, if_neg htext, ih hrest hnext]
    simp [pushed, joined]

theorem joined_ne_slash {parts : List (List Char)} (h : ∀ part ∈ parts, part ≠ []) :
    joined parts ≠ ['/'] := by
  cases parts with
  | nil => exact List.cons_ne_nil _ _ |>.symm
  | cons part rest =>
    obtain ⟨c, cs, rfl⟩ := List.exists_cons_of_ne_nil (h part List.mem_cons_self)
    simp [joined]

theorem joined_concat (front : List (List Char)) (last : List Char) :
    joined (front ++ [last]) = joined front ++ '/' :: last := by
  rw [joined_append, joined, joined, List.flatMap_singleton]

theorem endsInSlash_joined_concat {front : List (List Char)} {last : List Char} (hne : last ≠ [])
    (h : '/' ∉ last) : endsInSlash (joined (front ++ [last])) = false := by
  obtain ⟨init, c, rfl⟩ := (List.eq_nil_or_concat last).resolve_left hne
  have hc : c ≠ '/' := by
    rintro rfl
    simp at h
  rw [joined_concat, endsInSlash, List.concat_eq_append, ← List.cons_append, ← List.append_assoc,
    List.getLast?_concat]
  simpa using hc

theorem stem_concat_nil (front : List (List Char)) : stem (front ++ [[]]) = front := by
  rw [stem, List.getLast?_concat, if_pos rfl, List.dropLast_concat]

theorem stem_concat {front : List (List Char)} {last : List Char} (hne : last ≠ []) :
    stem (front ++ [last]) = front ++ [last] := by
  rw [stem, List.getLast?_concat, if_neg (by simpa using hne)]

theorem foldl_push_root (hkind : kind.drives = false) {more : List String} (hne : more ≠ [])
    (hmore : ∀ segment ∈ more, StartsPlain segment) :
    more.foldl (push kind) ['/'] = joined (pushed kind more) := by
  obtain ⟨segment, rest, rfl⟩ := List.exists_cons_of_ne_nil hne
  obtain ⟨hsegment, hrest⟩ := List.forall_mem_cons.mp hmore
  have hnext : ['/'] ++ written (Percent.segmentSet kind.web) segment.toList ≠ ['/'] := by
    simpa using written_ne_nil hsegment kind.web
  rw [List.foldl_cons, push_eq hkind hsegment, if_pos rfl, foldl_push_eq hkind hrest hnext]
  rfl

/-- Segments are pushed behind those that the path has, and in place of an empty one at the end. -/
theorem extend_eq (hkind : kind.drives = false) {parts : List (List Char)} {more : List String}
    (hparts : parts ≠ []) (hinner : ∀ part ∈ parts.dropLast, part ≠ [])
    (hslash : ∀ part ∈ parts, '/' ∉ part) (hne : more ≠ [])
    (hmore : ∀ segment ∈ more, StartsPlain segment) :
    extend kind (joined parts) more = joined (stem parts ++ pushed kind more) := by
  obtain ⟨front, last, rfl⟩ := (List.eq_nil_or_concat parts).resolve_left hparts
  simp only [List.concat_eq_append, List.dropLast_concat] at hinner hslash ⊢
  rw [extend, joined_append (stem _)]
  by_cases hlast : last = []
  · rw [hlast, stem_concat_nil, joined_concat]
    by_cases hfront : front = []
    -- The root keeps its slash, and the first segment is pushed without another one.
    · rw [hfront]
      exact foldl_push_root hkind hne hmore
    · have hends : (decide ((joined front ++ ['/']).length > 1) &&
          endsInSlash (joined front ++ ['/'])) = true := by
        obtain ⟨part, rest, rfl⟩ := List.exists_cons_of_ne_nil hfront
        have hlength : 1 < (joined (part :: rest) ++ ['/']).length := by
          rw [joined, List.flatMap_cons, List.length_append, List.length_singleton]
          exact Nat.succ_lt_succ (Nat.succ_pos _)
        rw [Bool.and_eq_true, decide_eq_true_eq]
        exact ⟨hlength, endsInSlash_iff.mpr ⟨_, rfl⟩⟩
      rw [if_pos hends, List.dropLast_concat]
      exact foldl_push_eq hkind hmore (joined_ne_slash hinner)
  · have hall : ∀ part ∈ front ++ [last], part ≠ [] := by
      intro part hpart
      obtain hpart | hpart := List.mem_append.mp hpart
      · exact hinner part hpart
      · rwa [List.mem_singleton.mp hpart]
    rw [stem_concat hlast, endsInSlash_joined_concat hlast (hslash last (by simp)), Bool.and_false,
      if_neg Bool.false_ne_true]
    exact foldl_push_eq hkind hmore (joined_ne_slash hall)

end Path

end Outlays

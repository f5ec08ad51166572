import Mathlib.Data.List.SplitLengths
import Outlays.Proofs.Recipient.Id
import Outlays.Text.Lowercase

/-!
# Spellings of an identifier and of a recipient id

An identifier has four spellings, each in any case: its digits, the digits in groups with hyphens
between them, and the groups in braces or behind the name of a resource. They are listed here
without the reader, and the reader turns out to accept exactly these. A recipient id is a spelling,
a hyphen and the letter of a level, and a text that is none is refused for the first of three
reasons that holds of it.

## Main definitions

* `Uuid.spellings`, `Uuid.SpelledBy` — the texts that stand for an identifier
* `RecipientId.Reads` — what a text is read as, or refused for

## Main results

* `Uuid.read?_eq_some_iff` — a text is read as an identifier exactly if it spells it
* `RecipientId.reads_exactly` — the texts of recipient ids, the refusals of all others, and the
  one text in which an id is written
-/

namespace Outlays

/-! ## Characters in either case -/

/-- Only letters have two cases: no character before or behind them is the small form of another. -/
theorem toLower_eq_iff {c d : Char} (h : d.toNat < 65 ∨ 122 < d.toNat) :
    c.toLower = d ↔ c = d := by
  obtain ⟨hc, hlower, -⟩ | hself := Text.toLower_cases c
  · refine iff_of_false ?_ ?_
    · rintro rfl
      omega
    · rintro rfl
      omega
  · rw [hself]

namespace Uuid

/-! ## Identifiers -/

/-- A character is read as a digit in either case. -/
theorem hexDigit?_eq_some_iff {c : Char} {d : Fin 16} :
    hexDigit? c = some d ↔ c.toLower = hexChar d := by
  by_cases hc : c.toNat < 128
  · have hall : ∀ n : Fin 128, ∀ d : Fin 16,
        hexDigit? (Char.ofNat n) = some d ↔ (Char.ofNat n).toLower = hexChar d := by
      decide +kernel
    simpa using hall ⟨c.toNat, hc⟩ d
  -- Outside of ASCII there are neither digits nor cases.
  · have hnone : hexDigit? c = none := by
      simp only [hexDigit?, Char.le_def, UInt32.le_iff_toNat_le, Char.toNat_val, Bool.and_eq_true,
        decide_eq_true_eq]
      rw [if_neg (by simp; omega), if_neg (by simp; omega), if_neg (by simp; omega)]
    have hself : c.toLower = c := by
      obtain ⟨hupper, -⟩ | hself := Text.toLower_cases c
      · omega
      · exact hself
    have hascii : ∀ d : Fin 16, (hexChar d).toNat < 128 := by decide
    have hne : c ≠ hexChar d := by
      rintro rfl
      exact hc (hascii d)
    simp [hnone, hself, hne]

/-- The digits of an identifier in lower case. -/
def plain (u : Uuid) : List Char := u.digits.map hexChar

/-- The digits in groups of 8, 4, 4, 4 and 12 with hyphens between them. -/
def hyphenated (u : Uuid) : List Char :=
  ['-'].intercalate ([8, 4, 4, 4, 12].splitLengths u.plain)

/-- The texts that stand for an identifier, in lower case. -/
def spellings (u : Uuid) : List (List Char) := [
  u.plain,
  u.hyphenated,
  '\x7b' :: u.hyphenated ++ ['\x7d'],
  resourceName ++ u.hyphenated]

/-- The text stands for the identifier, letters in any case. -/
def SpelledBy (u : Uuid) (text : String) : Prop := text.toList.map Char.toLower ∈ u.spellings

@[simp] theorem length_plain (u : Uuid) : u.plain.length = 32 := by
  simp [plain, u.length_digits]

theorem mapM_hexDigit?_eq_some_iff {cs : List Char} {ds : List (Fin 16)} :
    cs.mapM hexDigit? = some ds ↔ cs.map Char.toLower = ds.map hexChar := by
  -- Both sides go through the text and the digits side by side.
  induction cs generalizing ds with
  | nil => cases ds <;> simp
  | cons c cs ih =>
    cases ds with
    | nil => simp [Option.bind_eq_some_iff]
    | cons d ds => simp [Option.bind_eq_some_iff, hexDigit?_eq_some_iff, ih]

theorem plain?_eq_some_iff {cs : List Char} {u : Uuid} :
    plain? cs = some u ↔ cs.map Char.toLower = u.plain := by
  rw [plain, ← mapM_hexDigit?_eq_some_iff, plain?, Option.bind_eq_some_iff]
  constructor
  · rintro ⟨ds, hds, hu⟩
    simp only [ofDigits?, Option.dite_none_right_eq_some, Option.some.injEq] at hu
    obtain ⟨_, rfl⟩ := hu
    exact hds
  · intro h
    exact ⟨u.digits, h, by simp [ofDigits?, u.length_digits]⟩

/-- Five groups that hold the digits of an identifier together are its groups. -/
theorem hyphenated_eq {u : Uuid} {a b c d e : List Char} (ha : a.length = 8) (hb : b.length = 4)
    (hc : c.length = 4) (hd : d.length = 4) (he : e.length = 12)
    (h : u.plain = a ++ b ++ c ++ d ++ e) :
    u.hyphenated = a ++ '-' :: b ++ '-' :: c ++ '-' :: d ++ '-' :: e := by
  simp [hyphenated, h, ha, hb, hc, hd, he, List.take_of_length_le]

/-- The groups of an identifier. -/
theorem exists_groups (u : Uuid) : ∃ a b c d e : List Char,
    a.length = 8 ∧ b.length = 4 ∧ c.length = 4 ∧ d.length = 4 ∧ e.length = 12 ∧
      u.plain = a ++ b ++ c ++ d ++ e := by
  refine ⟨u.plain.take 8, (u.plain.drop 8).take 4, (u.plain.drop 12).take 4,
    (u.plain.drop 16).take 4, u.plain.drop 20, by simp, by simp, by simp, by simp, by simp, ?_⟩
  simp only [← List.take_add, List.take_append_drop]

/-- What stands from a hyphen on is the hyphen, a group and the rest. -/
theorem drop_of_hyphen {cs : List Char} {i : Nat} (h : cs[i]? = some '-') (n : Nat) :
    cs.drop i = '-' :: (cs.drop (i + 1)).take n ++ cs.drop (i + 1 + n) := by
  obtain ⟨hi, hget⟩ := List.getElem?_eq_some_iff.mp h
  rw [List.drop_eq_getElem_cons hi, hget, ← List.drop_drop (i := n), List.cons_append,
    List.take_append_drop]

/-- A text that is read in groups has them. -/
theorem exists_groups_of_grouped? {cs : List Char} {u : Uuid} (h : grouped? cs = some u) :
    ∃ a b c d e : List Char,
      a.length = 8 ∧ b.length = 4 ∧ c.length = 4 ∧ d.length = 4 ∧ e.length = 12 ∧
        cs = a ++ '-' :: b ++ '-' :: c ++ '-' :: d ++ '-' :: e := by
  have hcond := (Option.ite_none_right_eq_some.mp h).1
  simp only [Bool.and_eq_true, decide_eq_true_eq, List.all_cons, beq_iff_eq, List.all_nil,
    and_true] at hcond
  obtain ⟨hlen, h8, h13, h18, h23⟩ := hcond
  refine ⟨cs.take 8, (cs.drop 9).take 4, (cs.drop 14).take 4, (cs.drop 19).take 4, cs.drop 24,
    by simp [hlen], by simp [hlen], by simp [hlen], by simp [hlen], by simp [hlen], ?_⟩
  calc cs = cs.take 8 ++ cs.drop 8 := (List.take_append_drop 8 cs).symm
    _ = cs.take 8 ++ '-' :: (cs.drop 9).take 4 ++ cs.drop 13 := by
      simp only [drop_of_hyphen h8 4, List.append_assoc, List.cons_append]
    _ = cs.take 8 ++ '-' :: (cs.drop 9).take 4 ++ '-' :: (cs.drop 14).take 4 ++ cs.drop 18 := by
      simp only [drop_of_hyphen h13 4, List.append_assoc, List.cons_append]
    _ = cs.take 8 ++ '-' :: (cs.drop 9).take 4 ++ '-' :: (cs.drop 14).take 4 ++
        '-' :: (cs.drop 19).take 4 ++ cs.drop 23 := by
      simp only [drop_of_hyphen h18 4, List.append_assoc, List.cons_append]
    _ = _ := by
      simp only [drop_of_hyphen h23 0, List.take_zero, List.append_assoc, List.cons_append,
        List.nil_append]

theorem grouped?_eq_some_iff {cs : List Char} {u : Uuid} :
    grouped? cs = some u ↔ cs.map Char.toLower = u.hyphenated := by
  constructor
  · intro h
    -- The groups of the text are those of the identifier, but for the case of letters.
    obtain ⟨a, b, c, d, e, ha, hb, hc, hd, he, rfl⟩ := exists_groups_of_grouped? h
    rw [grouped?_of_length ha hb hc hd he, plain?_eq_some_iff] at h
    simp only [List.map_append] at h
    rw [hyphenated_eq (by simpa using ha) (by simpa using hb) (by simpa using hc)
      (by simpa using hd) (by simpa using he) h.symm]
    simp [(toLower_eq_iff (d := '-') (by decide)).mpr]
  · intro h
    obtain ⟨A, B, C, D, E, hA, hB, hC, hD, hE, hplain⟩ := u.exists_groups
    rw [hyphenated_eq hA hB hC hD hE hplain] at h
    -- A hyphen in lower case is a hyphen in the text, so the text falls into groups as well.
    simp only [List.append_assoc, List.cons_append, List.map_eq_append_iff, List.map_eq_cons_iff,
      toLower_eq_iff (d := '-') (by decide)] at h
    obtain ⟨a, _, rfl, rfl, _, _, rfl, rfl, b, _, rfl, rfl, _, _, rfl, rfl, c, _, rfl, rfl,
      _, _, rfl, rfl, d, _, rfl, rfl, _, e, rfl, rfl, rfl⟩ := h
    rw [List.length_map] at hA hB hC hD hE
    have hread := grouped?_of_length hA hB hC hD hE
    simp only [List.append_assoc, List.cons_append] at hread
    rw [hread, plain?_eq_some_iff, hplain]
    simp

theorem length_hyphenated (u : Uuid) : u.hyphenated.length = 36 := by
  obtain ⟨a, b, c, d, e, ha, hb, hc, hd, he, hplain⟩ := u.exists_groups
  simp [hyphenated_eq ha hb hc hd he hplain, ha, hb, hc, hd, he]

/-- An identifier is written as its groups. -/
theorem toList_render (u : Uuid) : u.render.toList = u.hyphenated := by
  have hlast : (u.plain.drop 20).take 12 = u.plain.drop 20 := List.take_of_length_le (by simp)
  simp only [render, ← show u.plain = u.digits.map hexChar from rfl]
  simp [hyphenated, hlast]

/-- A text in braces. -/
theorem map_toLower_eq_braced_iff {cs ds : List Char} :
    cs.map Char.toLower = '\x7b' :: ds ++ ['\x7d'] ↔
      cs.head? = some '\x7b' ∧ cs.getLast? = some '\x7d' ∧
        (cs.drop 1).dropLast.map Char.toLower = ds := by
  have hopen {c : Char} : c.toLower = '\x7b' ↔ c = '\x7b' := toLower_eq_iff (by decide)
  have hclose {c : Char} : c.toLower = '\x7d' ↔ c = '\x7d' := toLower_eq_iff (by decide)
  constructor
  · intro h
    rw [List.map_eq_append_iff] at h
    simp only [List.map_eq_cons_iff, List.map_eq_nil_iff, hopen, hclose] at h
    obtain ⟨_, _, rfl, ⟨_, ms, rfl, rfl, rfl⟩, _, _, rfl, rfl, rfl⟩ := h
    exact ⟨rfl, List.getLast?_concat, by simp⟩
  · rintro ⟨hfirst, hlast, rfl⟩
    cases cs with
    | nil => simp at hfirst
    | cons c rest =>
      obtain rfl : c = '\x7b' := by simpa using hfirst
      rcases List.eq_nil_or_concat rest with rfl | ⟨ms, m, rfl⟩
      · simp at hlast
      · rw [List.concat_eq_append, ← List.cons_append, List.getLast?_concat,
          Option.some_inj] at hlast
        subst hlast
        simp [hopen.mpr, hclose.mpr]

/-- A text behind the name of a resource. -/
theorem map_toLower_eq_resource_iff {cs ds : List Char} :
    cs.map Char.toLower = resourceName ++ ds ↔
      (cs.take 9).map Char.toLower = resourceName ∧ (cs.drop 9).map Char.toLower = ds := by
  constructor
  · intro h
    rw [List.map_take, List.map_drop, h]
    simp [resourceName]
  · rintro ⟨hname, hrest⟩
    rw [← hname, ← hrest, ← List.map_append, List.take_append_drop]

theorem spelledBy_iff {u : Uuid} {s : String} :
    u.SpelledBy s ↔
      s.toList.map Char.toLower = u.plain ∨ s.toList.map Char.toLower = u.hyphenated ∨
        s.toList.map Char.toLower = '\x7b' :: u.hyphenated ++ ['\x7d'] ∨
        s.toList.map Char.toLower = resourceName ++ u.hyphenated := by
  simp only [SpelledBy, spellings, List.mem_cons, List.not_mem_nil, or_false]

theorem spelledBy_of_read? {s : String} {u : Uuid} (h : read? s = some u) : u.SpelledBy s := by
  rw [spelledBy_iff]
  simp only [read?] at h
  split at h
  · exact .inl (plain?_eq_some_iff.mp h)
  split at h
  · exact .inr (.inl (grouped?_eq_some_iff.mp h))
  split at h
  · next hbraces =>
    simp only [Bool.and_eq_true, beq_iff_eq] at hbraces
    exact .inr (.inr (.inl (map_toLower_eq_braced_iff.mpr
      ⟨hbraces.1.2, hbraces.2, grouped?_eq_some_iff.mp h⟩)))
  split at h
  · next hname =>
    simp only [Bool.and_eq_true, beq_iff_eq] at hname
    exact .inr (.inr (.inr (map_toLower_eq_resource_iff.mpr
      ⟨hname.2, grouped?_eq_some_iff.mp h⟩)))
  · cases h

theorem SpelledBy.read?_eq {s : String} {u : Uuid} (h : u.SpelledBy s) : read? s = some u := by
  have hlength := u.length_hyphenated
  -- The spellings differ in length, which decides the branch.
  obtain h | h | h | h := spelledBy_iff.mp h
  all_goals have hlen := congrArg List.length h
  · simp only [List.length_map, length_plain] at hlen
    simp only [read?, hlen, if_true, plain?_eq_some_iff, h]
  · simp only [List.length_map, hlength] at hlen
    simp [read?, hlen, grouped?_eq_some_iff, h]
  · simp [hlength] at hlen
    obtain ⟨hopen, hclose, -⟩ := map_toLower_eq_braced_iff.mp h
    simp [read?, hlen, grouped?_eq_some_iff, hopen, hclose, h]
  · simp [hlength, resourceName] at hlen
    obtain ⟨hname, hinner⟩ := map_toLower_eq_resource_iff.mp h
    simp [read?, hlen, grouped?_eq_some_iff, hname, hinner]

/-- A text is read as an identifier exactly if it stands for it. -/
theorem read?_eq_some_iff {s : String} {u : Uuid} : read? s = some u ↔ u.SpelledBy s :=
  ⟨spelledBy_of_read?, SpelledBy.read?_eq⟩

end Uuid

namespace RecipientId

/-! ## Recipient ids -/

/-- What a text is read as: an id, or the first of three reasons to refuse it. -/
inductive Reads : String → Except Refusal RecipientId → Prop where
  | id {spelling : String} {hash : Uuid} (h : hash.SpelledBy spelling) (level : Level) :
      Reads (spelling ++ "-" ++ level.code) (.ok ⟨hash, level⟩)
  | missingLevel {raw : String} (h : '-' ∉ raw.toList) : Reads raw (.error (.missingLevel raw))
  | unknownLevel {front back : String} (hlast : '-' ∉ back.toList)
      (h : ∀ level : Level, level.code ≠ back) :
      Reads (front ++ "-" ++ back) (.error (.unknownLevel back))
  | malformedHash {front : String} (h : ∀ hash : Uuid, ¬ hash.SpelledBy front) (level : Level) :
      Reads (front ++ "-" ++ level.code) (.error (.malformedHash front))

theorem ofCode?_eq_some_iff {text : String} {level : Level} :
    Level.ofCode? text = some level ↔ level.code = text := by
  constructor
  · intro h
    simp only [Level.ofCode?, Option.map_eq_some_iff] at h
    obtain ⟨⟨name, l⟩, hfind, rfl⟩ := h
    have hmem := List.mem_of_find?_eq_some hfind
    have htext : name = text := by simpa using List.find?_some hfind
    simp only [Level.names, List.mem_cons, List.not_mem_nil, or_false, Prod.mk.injEq] at hmem
    rcases hmem with ⟨rfl, rfl⟩ | ⟨rfl, rfl⟩ | ⟨rfl, rfl⟩ <;> exact htext
  · rintro rfl
    exact ofCode?_code level

/-- A text is read as what stands before and behind its last hyphen. -/
theorem parse_append {front back : String} (h : '-' ∉ back.toList) :
    parse (front ++ "-" ++ back) =
      match Level.ofCode? back, Uuid.read? front with
      | none, _ => .error (.unknownLevel back)
      | some _, none => .error (.malformedHash front)
      | some level, some hash => .ok ⟨hash, level⟩ := by
  have hcut : splitAtLast? '-' (front ++ "-" ++ back).toList =
      some (front.toList, back.toList) := by
    rw [splitAtLast?_eq_some_iff]
    exact ⟨by simp, h⟩
  rw [parse, hcut]
  simp only [String.ofList_toList]
  cases Level.ofCode? back <;> cases Uuid.read? front <;> rfl

theorem parse_of_not_mem {raw : String} (h : '-' ∉ raw.toList) :
    parse raw = .error (.missingLevel raw) := by
  have hcut : splitAtLast? '-' raw.toList = none := by simpa [splitAtLast?] using h
  rw [parse, hcut]

/-- A text without a hyphen, or one that is cut at its last. -/
theorem not_mem_or_exists_append (raw : String) : '-' ∉ raw.toList ∨
    ∃ front back, raw = front ++ "-" ++ back ∧ '-' ∉ back.toList := by
  cases hcut : splitAtLast? '-' raw.toList with
  | none => exact .inl (by simpa [splitAtLast?] using hcut)
  | some cut =>
    obtain ⟨hraw, hlast⟩ := splitAtLast?_eq_some_iff.mp hcut
    exact .inr ⟨String.ofList cut.1, String.ofList cut.2,
      String.toList_inj.mp (by simpa using hraw), by simpa using hlast⟩

/-- Every text is read in one of the four ways. -/
theorem reads_parse (raw : String) : Reads raw (parse raw) := by
  obtain hnot | ⟨front, back, rfl, hlast⟩ := not_mem_or_exists_append raw
  · rw [parse_of_not_mem hnot]
    exact .missingLevel hnot
  -- The level is looked at before the hash, so a wrong level hides a wrong hash.
  rw [parse_append hlast]
  cases hlevel : Level.ofCode? back with
  | none =>
    refine .unknownLevel hlast fun level hcode => ?_
    rw [ofCode?_eq_some_iff.mpr hcode] at hlevel
    cases hlevel
  | some level =>
    obtain rfl := ofCode?_eq_some_iff.mp hlevel
    cases hread : Uuid.read? front with
    | none =>
      refine .malformedHash (fun hash hspelled => ?_) level
      rw [Uuid.read?_eq_some_iff.mpr hspelled] at hread
      cases hread
    | some hash => exact .id (Uuid.read?_eq_some_iff.mp hread) level

/-- No text is read in two ways. -/
theorem Reads.parse_eq {raw : String} {result : Except Refusal RecipientId}
    (h : Reads raw result) : parse raw = result := by
  cases h with
  | id h level =>
    rw [parse_append (hyphen_not_mem_code level), ofCode?_code, Uuid.read?_eq_some_iff.mpr h]
  | missingLevel h => exact parse_of_not_mem h
  | @unknownLevel front back hlast h =>
    have hlevel : Level.ofCode? back = none :=
      Option.eq_none_iff_forall_ne_some.mpr fun level hsome =>
        h level (ofCode?_eq_some_iff.mp hsome)
    rw [parse_append hlast, hlevel]
  | @malformedHash front h level =>
    have hread : Uuid.read? front = none :=
      Option.eq_none_iff_forall_ne_some.mpr fun hash hsome =>
        h hash (Uuid.read?_eq_some_iff.mp hsome)
    rw [parse_append (hyphen_not_mem_code level), ofCode?_code, hread]

theorem parse_eq_iff {raw : String} {result : Except Refusal RecipientId} :
    parse raw = result ↔ Reads raw result := by
  constructor
  · rintro rfl
    exact reads_parse raw
  · exact Reads.parse_eq

/-- A text is read as a recipient id exactly if it is a spelling of a hash, a hyphen and the letter
of a level, and is refused otherwise: without a hyphen for want of a level, else for a text behind
the last hyphen that is no level, else for a text before it that spells no hash. An id is written
in one way, which is read as that id. -/
theorem reads_exactly :
    (∀ raw result, parse raw = result ↔ Reads raw result) ∧
    ∀ id : RecipientId,
      id.render.toList = id.hash.hyphenated ++ ['-', id.level.letter] ∧
        parse id.render = .ok id := by
  refine ⟨fun _ _ => parse_eq_iff, fun id => ⟨?_, parse_render id⟩⟩
  simp [render, Uuid.toList_render, Level.code]

end RecipientId

end Outlays

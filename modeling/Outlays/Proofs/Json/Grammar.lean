import Mathlib.Data.List.TakeWhile
import Outlays.Proofs.Json.Lexemes

/-!
# The grammar of JSON

Which characters are a JSON text, and of which value. The rules are those of the format: one value,
blanks around values, names and punctuation, and nothing else. A text has one value at most, but a
value has many texts. The reader accepts the texts of the grammar, and finds their value.

The reader spends its fuel by one on each step and has two of it for each character. A value takes
no more steps than it has characters, which is what the induction over spellings carries along.

## Main definitions

* `Json.Blanks` — what may stand between the parts of a value
* `Json.Form`, `Json.Spells` — the parts of values, and the characters that they are written with
* `Json.IsText` — a whole text with its value

## Main results

* `Json.reads_of_spells`, `Json.spells_of_value` — the reader accepts the grammar, and nothing else
* `Json.parse_eq_some_iff` — the value of a text
-/

namespace Outlays.Json

/-! ## Texts and their values -/

/-- Spaces, tabs, line feeds and carriage returns. -/
def Blanks (s : Symbols) : Prop := ∀ c ∈ s, c ∈ [some ' ', some '\n', some '\t', some '\r']

/-- A part of a JSON text: a value, the items of an array or the members of an object. There is at
least one item and one member, and a member whose name stands for no text has no name. -/
inductive Form where
  | one (j : Json)
  | many (js : List Json)
  | named (ms : List (Option String × Json))

/-- The part is written with these characters. -/
inductive Spells : Form → Symbols → Prop where
  | nullWord : Spells (.one .null) [some 'n', some 'u', some 'l', some 'l']
  | trueWord : Spells (.one (.bool true)) [some 't', some 'r', some 'u', some 'e']
  | falseWord : Spells (.one (.bool false)) [some 'f', some 'a', some 'l', some 's', some 'e']
  | number {l : Literal} {n : Number} {s : Symbols} (written : l.Written s)
      (denotes : l.number? = some n) : Spells (.one (.num n)) s
  /-- A number beyond every double. -/
  | noNumber {l : Literal} {s : Symbols} (written : l.Written s) (nothing : l.number? = none) :
      Spells (.one .unreadable) s
  | text {t : String} {s : Symbols} (quoted : Quoted (some t) s) : Spells (.one (.str t)) s
  | noText {s : Symbols} (quoted : Quoted none s) : Spells (.one .unreadable) s
  | noItems {gap : Symbols} (blanks : Blanks gap) :
      Spells (.one (.arr [])) (some '[' :: (gap ++ [some ']']))
  | arr {js : List Json} {s : Symbols} (items : Spells (.many js) s) :
      Spells (.one (.arr js)) (some '[' :: (s ++ [some ']']))
  | noMembers {gap : Symbols} (blanks : Blanks gap) :
      Spells (.one (.obj [])) (some '\x7b' :: (gap ++ [some '\x7d']))
  | obj {fields : List (String × Json)} {s : Symbols}
      (members : Spells (.named (fields.map fun f => (some f.1, f.2))) s) :
      Spells (.one (.obj fields)) (some '\x7b' :: (s ++ [some '\x7d']))
  /-- A name that stands for no text spoils the whole object. -/
  | spoilt {ms : List (Option String × Json)} {s : Symbols} (members : Spells (.named ms) s)
      (nameless : ∃ m ∈ ms, m.1 = none) :
      Spells (.one .unreadable) (some '\x7b' :: (s ++ [some '\x7d']))
  | lastItem {j : Json} {before after s : Symbols} (blanks : Blanks before) (blanks' : Blanks after)
      (item : Spells (.one j) s) : Spells (.many [j]) (before ++ (s ++ after))
  | item {j : Json} {js : List Json} {before after s rest : Symbols} (blanks : Blanks before)
      (blanks' : Blanks after) (item : Spells (.one j) s) (others : Spells (.many js) rest) :
      Spells (.many (j :: js)) (before ++ (s ++ (after ++ some ',' :: rest)))
  | lastMember {name : Option String} {j : Json} {before inner inner' after n s : Symbols}
      (blanks : Blanks before ∧ Blanks inner ∧ Blanks inner' ∧ Blanks after)
      (quoted : Quoted name n) (member : Spells (.one j) s) :
      Spells (.named [(name, j)]) (before ++ (n ++ (inner ++ some ':' :: (inner' ++ (s ++ after)))))
  | member {name : Option String} {j : Json} {ms : List (Option String × Json)}
      {before inner inner' after n s rest : Symbols}
      (blanks : Blanks before ∧ Blanks inner ∧ Blanks inner' ∧ Blanks after)
      (quoted : Quoted name n) (member : Spells (.one j) s)
      (others : Spells (.named ms) rest) :
      Spells (.named ((name, j) :: ms))
        (before ++ (n ++ (inner ++ some ':' :: (inner' ++ (s ++ (after ++ some ',' :: rest))))))

/-- The characters are a JSON text of the value: it, with blanks around. -/
def IsText (s : Symbols) (j : Json) : Prop :=
  ∃ before t after, s = before ++ (t ++ after) ∧ Blanks before ∧ Blanks after ∧
    Spells (.one j) t

/-! ## Blanks -/

theorem isGap_iff {c : Option Char} :
    isGap c = true ↔ c ∈ [some ' ', some '\n', some '\t', some '\r'] := by
  simp [isGap, or_assoc]

theorem skipGap_append {gap : Symbols} (h : Blanks gap) (s : Symbols) :
    skipGap (gap ++ s) = skipGap s := by
  rw [skipGap, List.dropWhile_append_of_pos]
  · rfl
  · exact fun _ hc => isGap_iff.mpr (h _ hc)

theorem skipGap_cons {c : Char} (h : isGap (some c) = false) (rest : Symbols) :
    skipGap (some c :: rest) = some c :: rest := by
  rw [skipGap, List.dropWhile_cons_of_neg (by simp [h])]

theorem exists_skipGap (s : Symbols) : ∃ gap, Blanks gap ∧ s = gap ++ skipGap s :=
  ⟨s.takeWhile isGap, fun _ hc => isGap_iff.mp (List.mem_takeWhile_imp hc),
    List.takeWhile_append_dropWhile.symm⟩

/-- Blanks before a value make no difference. -/
theorem value_append {gap : Symbols} (h : Blanks gap) (fuel : Nat) (s : Symbols) :
    value fuel (gap ++ s) = value fuel s := by
  cases fuel with
  | zero => rfl
  | succ fuel => rw [value, skipGap_append h, value]

theorem items_append {gap : Symbols} (h : Blanks gap) (fuel : Nat) (s : Symbols) :
    items fuel (gap ++ s) = items fuel s := by
  cases fuel with
  | zero => rfl
  | succ fuel => rw [items, value_append h, items]

theorem members_append {gap : Symbols} (h : Blanks gap) (fuel : Nat) (s : Symbols) :
    members fuel (gap ++ s) = members fuel s := by
  cases fuel with
  | zero => rfl
  | succ fuel => rw [members, skipGap_append h, members]

theorem items_skipGap (fuel : Nat) (s : Symbols) : items fuel (skipGap s) = items fuel s := by
  obtain ⟨gap, hgap, hs⟩ := exists_skipGap s
  rw [← items_append hgap, ← hs]

theorem members_skipGap (fuel : Nat) (s : Symbols) :
    members fuel (skipGap s) = members fuel s := by
  obtain ⟨gap, hgap, hs⟩ := exists_skipGap s
  rw [← members_append hgap, ← hs]

/-! ## What stands behind a value -/

theorem closes_nil : Closes [] := nofun

theorem closes_cons {c : Char} (h : c ∈ [',', ']', '\x7d']) (rest : Symbols) :
    Closes (some c :: rest) := by
  rintro _ _ heq
  obtain ⟨rfl, -⟩ := List.cons.inj heq
  simp only [List.mem_cons, List.not_mem_nil, or_false, Option.some.injEq] at h ⊢
  tauto

theorem Blanks.closes {gap : Symbols} (h : Blanks gap) {s : Symbols} (hs : Closes s) :
    Closes (gap ++ s) := by
  rcases gap with _ | ⟨c, gap⟩
  · exact hs
  · rintro _ _ heq
    obtain ⟨rfl, -⟩ := List.cons.inj heq
    have hc := h c List.mem_cons_self
    simp only [List.mem_cons, List.not_mem_nil, or_false] at hc ⊢
    tauto

/-! ## What stands at the head of a part -/

theorem Quoted.exists_cons {t : Option String} {s : Symbols} (h : Quoted t s) :
    ∃ tail, s = some '"' :: tail ∧ ∀ rest, stringRest (tail ++ rest) = some (t, rest) := by
  obtain ⟨tail, rfl⟩ : ∃ tail, s = some '"' :: tail := by cases h <;> exact ⟨_, rfl⟩
  exact ⟨tail, rfl, fun rest => stringRest_eq_some_iff.mpr ⟨tail, h, rfl⟩⟩

/-- A number starts with a sign or a digit. -/
theorem Literal.Written.exists_cons {l : Literal} {s : Symbols} (h : l.Written s) :
    ∃ c tail, s = some c :: tail ∧ (c = '-' ∨ ∃ d < 10, c = Nat.digitChar d) := by
  obtain @⟨negative, whole, fraction, exponent, w, f, e, ⟨hds, rfl⟩, nonempty, -, -, -⟩ := h
  cases negative with
  | true => exact ⟨'-', _, rfl, .inl rfl⟩
  | false =>
    obtain ⟨d, ds, rfl⟩ := List.exists_cons_of_ne_nil nonempty
    exact ⟨_, _, rfl, .inr ⟨d, hds d List.mem_cons_self, rfl⟩⟩

/-- The characters that values start with. -/
def valueStarts : List Char :=
  ['n', 't', 'f', '"', '[', '\x7b', '-', '0', '1', '2', '3', '4', '5', '6', '7', '8', '9']

theorem exists_cons_of_spells {j : Json} {s : Symbols} (h : Spells (.one j) s) :
    ∃ c ∈ valueStarts, ∃ tail, s = some c :: tail := by
  have hnumber {l : Literal} (hl : l.Written s) :
      ∃ c ∈ valueStarts, ∃ tail, s = some c :: tail := by
    have hdigit : ∀ d < 10, Nat.digitChar d ∈ valueStarts := by decide
    obtain ⟨c, tail, rfl, rfl | ⟨d, hd, rfl⟩⟩ := hl.exists_cons
    · exact ⟨_, by decide, _, rfl⟩
    · exact ⟨_, hdigit d hd, _, rfl⟩
  have hquoted {t : Option String} (ht : Quoted t s) :
      ∃ c ∈ valueStarts, ∃ tail, s = some c :: tail := by
    obtain ⟨tail, rfl, -⟩ := ht.exists_cons
    exact ⟨_, by decide, _, rfl⟩
  cases h with
  | number written denotes => exact hnumber written
  | noNumber written nothing => exact hnumber written
  | text quoted => exact hquoted quoted
  | noText quoted => exact hquoted quoted
  | _ => exact ⟨_, by decide, _, rfl⟩

/-- They are none of the blanks and brackets that are looked for before a value. -/
theorem not_isGap_of_mem_valueStarts :
    ∀ c ∈ valueStarts, isGap (some c) = false ∧ c ≠ ']' := by
  simp [valueStarts, isGap]

/-- Behind their blanks, items do not start with the bracket that closes them. -/
theorem skipGap_of_spells_items {js : List Json} {s : Symbols} (h : Spells (.many js) s)
    (rest : Symbols) : ∀ tail, skipGap (s ++ rest) ≠ some ']' :: tail := by
  have hvalue {j : Json} {before t : Symbols} (hbefore : Blanks before) (ht : Spells (.one j) t)
      (more tail : Symbols) : skipGap (before ++ (t ++ more)) ≠ some ']' :: tail := by
    obtain ⟨c, hmem, tail', rfl⟩ := exists_cons_of_spells ht
    obtain ⟨hgap, hc⟩ := not_isGap_of_mem_valueStarts c hmem
    rw [skipGap_append hbefore, List.cons_append, skipGap_cons hgap]
    exact fun heq => hc (Option.some.inj (List.cons.inj heq).1)
  intro tail
  cases h with
  | lastItem blanks blanks' item =>
    rw [List.append_assoc, List.append_assoc]
    exact hvalue blanks item _ tail
  | item blanks blanks' item others =>
    rw [List.append_assoc, List.append_assoc]
    exact hvalue blanks item _ tail

/-- Members start with the name of the first one. -/
theorem skipGap_of_spells_members {ms : List (Option String × Json)} {s : Symbols}
    (h : Spells (.named ms) s) (rest : Symbols) :
    ∃ tail, skipGap (s ++ rest) = some '"' :: tail := by
  have hname {name : Option String} {before n : Symbols} (hbefore : Blanks before)
      (hn : Quoted name n) (more : Symbols) :
      ∃ tail, skipGap (before ++ (n ++ more)) = some '"' :: tail := by
    obtain ⟨tail, rfl, -⟩ := hn.exists_cons
    rw [skipGap_append hbefore, List.cons_append, skipGap_cons rfl]
    exact ⟨_, rfl⟩
  cases h with
  | lastMember blanks quoted member =>
    rw [List.append_assoc, List.append_assoc]
    exact hname blanks.1 quoted _
  | member blanks quoted member others =>
    rw [List.append_assoc, List.append_assoc]
    exact hname blanks.1 quoted _

/-! ## The grammar is accepted -/

/-- The part is read from these characters, whatever follows it. -/
def Form.Reads : Form → Symbols → Prop
  | .one j, s => ∀ fuel rest, s.length ≤ fuel → Closes rest →
    value fuel (s ++ rest) = some (j, rest)
  | .many js, s => ∀ fuel rest, s.length + 1 ≤ fuel →
    items fuel (s ++ some ']' :: rest) = some (js, rest)
  | .named ms, s => ∀ fuel rest, s.length + 1 ≤ fuel →
    members fuel (s ++ some '\x7d' :: rest) = some (ms, rest)

/-- There is fuel for the first step. -/
theorem exists_succ {c : Option Char} {s : Symbols} {fuel : Nat} (h : (c :: s).length ≤ fuel) :
    ∃ n, fuel = n + 1 ∧ s.length ≤ n :=
  ⟨fuel - 1, by rw [List.length_cons] at h; omega, by rw [List.length_cons] at h; omega⟩

theorem reads_quoted {t : Option String} {s : Symbols} (h : Quoted t s) :
    (Form.one (ofText t)).Reads s := by
  intro fuel rest hfuel _
  obtain ⟨tail, rfl, hread⟩ := h.exists_cons
  obtain ⟨fuel, rfl, -⟩ := exists_succ hfuel
  rw [List.cons_append, value, skipGap_cons rfl]
  simp only [hread, Option.map_some]

theorem reads_literal {l : Literal} {s : Symbols} (h : l.Written s) :
    (Form.one (ofLiteral l)).Reads s := by
  intro fuel rest hfuel hrest
  have hread := h.literal_append hrest
  obtain ⟨c, tail, rfl, hc⟩ := h.exists_cons
  obtain ⟨fuel, rfl, -⟩ := exists_succ hfuel
  have hhead : c ∉ ['"', '[', '\x7b', 't', 'f', 'n'] ∧ isGap (some c) = false := by
    have hall : ∀ d < 10, Nat.digitChar d ∉ ['"', '[', '\x7b', 't', 'f', 'n'] ∧
        isGap (some (Nat.digitChar d)) = false := by decide
    obtain rfl | ⟨d, hd, rfl⟩ := hc
    · decide
    · exact hall d hd
  obtain ⟨hhead, hgap⟩ := hhead
  simp only [List.mem_cons, List.not_mem_nil, or_false, not_or] at hhead
  rw [List.cons_append] at hread ⊢
  rw [value, skipGap_cons hgap]
  split <;> simp_all

/-- Behind an opening bracket come items, unless the closing one does. -/
theorem value_arr {fuel : Nat} {s : Symbols} (h : ∀ tail, skipGap s ≠ some ']' :: tail) :
    value (fuel + 1) (some '[' :: s) = (items fuel s).map fun p => (.arr p.1, p.2) := by
  rw [value, skipGap_cons rfl]
  simp only
  rw [items_skipGap]

theorem value_obj {fuel : Nat} {s : Symbols} (h : ∃ tail, skipGap s = some '"' :: tail) :
    value (fuel + 1) (some '\x7b' :: s) = (members fuel s).map fun p => (ofMembers p.1, p.2) := by
  obtain ⟨tail, h⟩ := h
  rw [value, skipGap_cons rfl]
  simp only [h]
  rw [← members_skipGap fuel s, h]
  rfl

theorem ofMembers_map (fields : List (String × Json)) :
    ofMembers (fields.map (fun f => (some f.1, f.2))) = .obj fields := by
  have h : (fields.map (fun f => (some f.1, f.2))).mapM
      (fun (m : Option String × Json) => m.1.map (·, m.2)) = some fields := by
    induction fields with
    | nil => rfl
    | cons f fields ih =>
      rw [List.map_cons, List.mapM_cons, ih]
      rfl
  rw [ofMembers, h]

theorem ofMembers_of_nameless {ms : List (Option String × Json)} (h : ∃ m ∈ ms, m.1 = none) :
    ofMembers ms = .unreadable := by
  have hnone : ms.mapM (fun (m : Option String × Json) => m.1.map (·, m.2)) = none := by
    obtain ⟨m, hm, hname⟩ := h
    induction ms with
    | nil => cases hm
    | cons first ms ih =>
      rw [List.mapM_cons]
      rcases List.mem_cons.mp hm with rfl | hm
      · simp [hname]
      · cases first.1.map (·, first.2) <;> simp [ih hm]
  rw [ofMembers, hnone]

theorem reads_of_spells {form : Form} {s : Symbols} (h : Spells form s) : form.Reads s := by
  -- By induction on the spelling; the fuel that a part leaves is enough for the next one.
  induction h with
  | nullWord | trueWord | falseWord =>
    intro fuel rest hfuel _
    obtain ⟨fuel, rfl, -⟩ := exists_succ hfuel
    rfl
  | number written denotes =>
    have hread := reads_literal written
    rwa [ofLiteral, denotes] at hread
  | noNumber written nothing =>
    have hread := reads_literal written
    rwa [ofLiteral, nothing] at hread
  | text quoted => exact reads_quoted quoted
  | noText quoted => exact reads_quoted quoted
  | noItems blanks =>
    intro fuel rest hfuel _
    obtain ⟨fuel, rfl, -⟩ := exists_succ hfuel
    rw [List.cons_append, List.append_assoc, value, skipGap_cons rfl]
    simp only [skipGap_append blanks]
    rfl
  | arr items ih =>
    intro fuel rest hfuel _
    obtain ⟨fuel, rfl, hle⟩ := exists_succ hfuel
    rw [List.cons_append, List.append_assoc, value_arr (skipGap_of_spells_items items _)]
    rw [List.length_append] at hle
    rw [List.singleton_append, ih fuel rest hle, Option.map_some]
  | noMembers blanks =>
    intro fuel rest hfuel _
    obtain ⟨fuel, rfl, -⟩ := exists_succ hfuel
    rw [List.cons_append, List.append_assoc, value, skipGap_cons rfl]
    simp only [skipGap_append blanks]
    rfl
  | obj members ih =>
    intro fuel rest hfuel _
    obtain ⟨fuel, rfl, hle⟩ := exists_succ hfuel
    rw [List.cons_append, List.append_assoc, value_obj (skipGap_of_spells_members members _)]
    rw [List.length_append] at hle
    rw [List.singleton_append, ih fuel rest hle, Option.map_some, ofMembers_map]
  | spoilt members nameless ih =>
    intro fuel rest hfuel _
    obtain ⟨fuel, rfl, hle⟩ := exists_succ hfuel
    rw [List.cons_append, List.append_assoc, value_obj (skipGap_of_spells_members members _)]
    rw [List.length_append] at hle
    rw [List.singleton_append, ih fuel rest hle, Option.map_some,
      ofMembers_of_nameless nameless]
  | lastItem blanks blanks' item ih =>
    intro fuel rest hfuel
    simp only [List.length_append] at hfuel
    obtain ⟨fuel, rfl⟩ : ∃ n, fuel = n + 1 := ⟨fuel - 1, by omega⟩
    rw [List.append_assoc, List.append_assoc, items_append blanks, items,
      ih fuel _ (by omega) (blanks'.closes (closes_cons (c := ']') (by decide) _))]
    simp only [skipGap_append blanks', skipGap_cons (c := ']') rfl]
  | item blanks blanks' item others ih ih' =>
    intro fuel rest hfuel
    simp only [List.length_append, List.length_cons] at hfuel
    obtain ⟨fuel, rfl⟩ : ∃ n, fuel = n + 1 := ⟨fuel - 1, by omega⟩
    have hcloses (s : Symbols) := blanks'.closes (closes_cons (c := ',') (by decide) s)
    rw [List.append_assoc, List.append_assoc, List.append_assoc, items_append blanks, items,
      List.cons_append, ih fuel _ (by omega) (hcloses _)]
    simp only [skipGap_append blanks', skipGap_cons (c := ',') rfl, ih' fuel rest (by omega),
      Option.map_some]
  | lastMember blanks quoted member ih =>
    obtain ⟨hbefore, hinner, hinner', hafter⟩ := blanks
    obtain ⟨tail, rfl, hname⟩ := quoted.exists_cons
    intro fuel rest hfuel
    simp only [List.length_append, List.length_cons] at hfuel
    obtain ⟨fuel, rfl⟩ : ∃ n, fuel = n + 1 := ⟨fuel - 1, by omega⟩
    have hcloses := hafter.closes (closes_cons (c := '\x7d') (by decide) rest)
    simp only [List.append_assoc, List.cons_append]
    rw [members_append hbefore, members, skipGap_cons rfl]
    simp only [hname, skipGap_append hinner, skipGap_cons (c := ':') rfl, value_append hinner',
      ih fuel _ (by omega) hcloses, skipGap_append hafter, skipGap_cons (c := '\x7d') rfl]
  | member blanks quoted member others ih ih' =>
    obtain ⟨hbefore, hinner, hinner', hafter⟩ := blanks
    obtain ⟨tail, rfl, hname⟩ := quoted.exists_cons
    intro fuel rest hfuel
    simp only [List.length_append, List.length_cons] at hfuel
    obtain ⟨fuel, rfl⟩ : ∃ n, fuel = n + 1 := ⟨fuel - 1, by omega⟩
    have hcloses (s : Symbols) := hafter.closes (closes_cons (c := ',') (by decide) s)
    simp only [List.append_assoc, List.cons_append]
    rw [members_append hbefore, members, skipGap_cons rfl]
    simp only [hname, skipGap_append hinner, skipGap_cons (c := ':') rfl, value_append hinner',
      ih fuel _ (by omega) (hcloses _), skipGap_append hafter, skipGap_cons (c := ',') rfl,
      ih' fuel rest (by omega), Option.map_some]

/-! ## Nothing else is accepted -/

theorem ofMembers_cases (ms : List (Option String × Json)) :
    (∃ fields : List (String × Json), ms = fields.map (fun f => (some f.1, f.2)) ∧
        ofMembers ms = .obj fields) ∨
      ((∃ m ∈ ms, m.1 = none) ∧ ofMembers ms = .unreadable) := by
  by_cases h : ∃ m ∈ ms, m.1 = none
  · exact .inr ⟨h, ofMembers_of_nameless h⟩
  · obtain ⟨fields, rfl⟩ : ∃ fields : List (String × Json),
        ms = fields.map (fun f => (some f.1, f.2)) := by
      induction ms with
      | nil => exact ⟨[], rfl⟩
      | cons m ms ih =>
        obtain ⟨fields, rfl⟩ := ih fun ⟨m', hm', hname⟩ => h ⟨m', List.mem_cons_of_mem _ hm', hname⟩
        obtain ⟨_ | name, j⟩ := m
        · exact absurd ⟨_, List.mem_cons_self, rfl⟩ h
        · exact ⟨(name, j) :: fields, rfl⟩
    exact .inl ⟨fields, rfl, ofMembers_map fields⟩

/-- The object with these members is written with them between braces. -/
theorem spells_ofMembers {ms : List (Option String × Json)} {s : Symbols}
    (h : Spells (.named ms) s) :
    Spells (.one (ofMembers ms)) (some '\x7b' :: (s ++ [some '\x7d'])) := by
  obtain ⟨fields, rfl, heq⟩ | ⟨hname, heq⟩ := ofMembers_cases ms
  · rw [heq]
    exact .obj h
  · rw [heq]
    exact .spoilt h hname

theorem spells_ofLiteral {l : Literal} {s : Symbols} (h : l.Written s) :
    Spells (.one (ofLiteral l)) s := by
  rw [ofLiteral]
  cases hn : l.number? with
  | some n => exact .number h hn
  | none => exact .noNumber h hn

theorem spells_ofText {t : Option String} {s : Symbols} (h : Quoted t s) :
    Spells (.one (ofText t)) s := by
  cases t with
  | some t => exact .text h
  | none => exact .noText h

mutual

/-- What is read as a value is a spelling of it, behind blanks. -/
theorem spells_of_value : ∀ (fuel : Nat) {s rest : Symbols} {j : Json},
    value fuel s = some (j, rest) →
      ∃ gap t, s = gap ++ (t ++ rest) ∧ Blanks gap ∧ Spells (.one j) t
  | 0, _, _, _, h => nomatch h
  | fuel + 1, s, rest, j, h => by
    obtain ⟨gap, hgap, hs⟩ := exists_skipGap s
    suffices ht : ∃ t, skipGap s = t ++ rest ∧ Spells (.one j) t by
      obtain ⟨t, ht, hspells⟩ := ht
      exact ⟨gap, t, ht ▸ hs, hgap, hspells⟩
    rw [value] at h
    generalize skipGap s = s' at h
    clear hs
    split at h
    · next s' =>
      obtain ⟨⟨text, r⟩, hread, heq⟩ := Option.map_eq_some_iff.mp h
      cases heq
      obtain ⟨t, ht, rfl⟩ := stringRest_eq_some_iff.mp hread
      exact ⟨_, rfl, spells_ofText ht⟩
    · next s' =>
      obtain ⟨inner, hinner, hs'⟩ := exists_skipGap s'
      split at h
      · next r heq =>
        cases h
        rw [heq] at hs'
        exact ⟨some '[' :: (inner ++ [some ']']), by simp [hs'], .noItems hinner⟩
      · obtain ⟨⟨js, r⟩, hread, heq⟩ := Option.map_eq_some_iff.mp h
        cases heq
        rw [items_skipGap] at hread
        obtain ⟨t, rfl, hspells⟩ := spells_of_items fuel hread
        exact ⟨some '[' :: (t ++ [some ']']), by simp, .arr hspells⟩
    · next s' =>
      obtain ⟨inner, hinner, hs'⟩ := exists_skipGap s'
      split at h
      · next r heq =>
        cases h
        rw [heq] at hs'
        exact ⟨some '\x7b' :: (inner ++ [some '\x7d']), by simp [hs'], .noMembers hinner⟩
      · obtain ⟨⟨ms, r⟩, hread, heq⟩ := Option.map_eq_some_iff.mp h
        cases heq
        rw [members_skipGap] at hread
        obtain ⟨t, rfl, hspells⟩ := spells_of_members fuel hread
        exact ⟨some '\x7b' :: (t ++ [some '\x7d']), by simp, spells_ofMembers hspells⟩
    · cases h
      exact ⟨_, rfl, .trueWord⟩
    · cases h
      exact ⟨_, rfl, .falseWord⟩
    · cases h
      exact ⟨_, rfl, .nullWord⟩
    · obtain ⟨⟨l, r⟩, hread, heq⟩ := Option.map_eq_some_iff.mp h
      cases heq
      obtain ⟨t, ht, rfl⟩ := written_of_literal hread
      exact ⟨t, rfl, spells_ofLiteral ht⟩

/-- What is read as items is a spelling of them, up to the closing bracket. -/
theorem spells_of_items : ∀ (fuel : Nat) {s rest : Symbols} {js : List Json},
    items fuel s = some (js, rest) → ∃ t, s = t ++ some ']' :: rest ∧ Spells (.many js) t
  | 0, _, _, _, h => nomatch h
  | fuel + 1, s, rest, js, h => by
    rw [items] at h
    split at h
    · cases h
    next j r hvalue =>
    obtain ⟨before, t, rfl, hbefore, ht⟩ := spells_of_value fuel hvalue
    obtain ⟨after, hafter, hr⟩ := exists_skipGap r
    split at h
    · next r' heq =>
      cases h
      rw [heq] at hr
      exact ⟨before ++ (t ++ after), by simp [hr], .lastItem hbefore hafter ht⟩
    · next r' heq =>
      obtain ⟨⟨js, r''⟩, hread, heq'⟩ := Option.map_eq_some_iff.mp h
      cases heq'
      obtain ⟨others, rfl, hothers⟩ := spells_of_items fuel hread
      rw [heq] at hr
      exact ⟨before ++ (t ++ (after ++ some ',' :: others)), by simp [hr],
        .item hbefore hafter ht hothers⟩
    · cases h

/-- What is read as members is a spelling of them, up to the closing brace. -/
theorem spells_of_members : ∀ (fuel : Nat) {s rest : Symbols} {ms : List (Option String × Json)},
    members fuel s = some (ms, rest) → ∃ t, s = t ++ some '\x7d' :: rest ∧ Spells (.named ms) t
  | 0, _, _, _, h => nomatch h
  | fuel + 1, s, rest, ms, h => by
    obtain ⟨before, hbefore, hs⟩ := exists_skipGap s
    rw [members] at h
    split at h
    case h_2 => cases h
    next s₁ hs₁ =>
    rw [hs₁] at hs
    split at h
    · cases h
    next name s₂ hname =>
    obtain ⟨n, hn, rfl⟩ := stringRest_eq_some_iff.mp hname
    obtain ⟨inner, hinner, hs₂⟩ := exists_skipGap s₂
    split at h
    case h_2 => cases h
    next s₃ hs₃ =>
    rw [hs₃] at hs₂
    split at h
    · cases h
    next j s₄ hvalue =>
    obtain ⟨inner', t, rfl, hinner', ht⟩ := spells_of_value fuel hvalue
    obtain ⟨after, hafter, hs₄⟩ := exists_skipGap s₄
    split at h
    · next r heq =>
      cases h
      rw [heq] at hs₄
      exact ⟨before ++ (some '"' :: n ++ (inner ++ some ':' :: (inner' ++ (t ++ after)))),
        by simp [hs, hs₂, hs₄], .lastMember ⟨hbefore, hinner, hinner', hafter⟩ hn ht⟩
    · next r heq =>
      obtain ⟨⟨ms, r'⟩, hread, heq'⟩ := Option.map_eq_some_iff.mp h
      cases heq'
      obtain ⟨others, rfl, hothers⟩ := spells_of_members fuel hread
      rw [heq] at hs₄
      exact ⟨before ++ (some '"' :: n ++
          (inner ++ some ':' :: (inner' ++ (t ++ (after ++ some ',' :: others))))),
        by simp [hs, hs₂, hs₄], .member ⟨hbefore, hinner, hinner', hafter⟩ hn ht hothers⟩
    · cases h

end

/-! ## Whole texts -/

/-- The reader accepts the texts of the grammar, and finds their value. -/
theorem parse_eq_some_iff {s : Symbols} {j : Json} : parse s = some j ↔ IsText s j := by
  constructor
  · intro h
    rw [parse] at h
    split at h
    · next j' rest hvalue =>
      obtain ⟨before, t, rfl, hbefore, ht⟩ := spells_of_value _ hvalue
      split at h
      · next hrest =>
        cases h
        obtain ⟨after, hafter, hs⟩ := exists_skipGap rest
        rw [List.isEmpty_iff.mp hrest, List.append_nil] at hs
        exact ⟨before, t, rest, rfl, hbefore, hs ▸ hafter, ht⟩
      · cases h
    · cases h
  · rintro ⟨before, t, after, rfl, hbefore, hafter, ht⟩
    have hread := reads_of_spells ht (2 * (before ++ (t ++ after)).length + 2) after
      (by simp only [List.length_append]; omega)
      (by simpa using hafter.closes closes_nil)
    have hempty : skipGap after = [] := by
      simpa [skipGap] using skipGap_append hafter []
    rw [parse, value_append hbefore, hread]
    simp [hempty]

/-- A text has one value at most. -/
theorem IsText.unique {s : Symbols} {j k : Json} (h : IsText s j) (h' : IsText s k) : j = k :=
  Option.some.inj ((parse_eq_some_iff.mpr h).symm.trans (parse_eq_some_iff.mpr h'))

end Outlays.Json

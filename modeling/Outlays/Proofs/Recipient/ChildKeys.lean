import Outlays.Proofs.Download.Schema
import Outlays.Proofs.Json.Written
import Outlays.Proofs.Number.Value
import Outlays.Proofs.Recipient.Join

/-!
# The keys of children

A group of transactions is keyed by a JSON text, and what is known about the child is in there: its
hash with the letter of a level, its DUNS and its name. The hash is what comes before the last
hyphen, though the hash has hyphens of its own. A hash or a DUNS that is empty is none, but an empty
name is a name.

## Main definitions

* `ChildKey.Describes`, `ChildKey.Written` — what a key has to be, and how others write it
* `ChildKey.NamesHash` — what comes before the last hyphen spells an identifier

## Main results

* `Bucket.childOf_eq_ok_iff` — which keys are read, and as what
* `ChildKey.written_render` — any texts can be written as a key
* `Children.rowOf_written` — the row of a bucket by what is written in its key
-/

namespace Outlays

open Json (HasShape IsText Mixed)
open Json.Record (bind_read_eq_ok_iff)

namespace ChildKey

/-! ## What is written in a key -/

/-- The names of what a key says about a child. -/
def names : List String := ["hash_with_level", "unique_id", "name"]

/-- The value is a record of these texts. -/
def Describes (j : Json) (hash uniqueId name : Option String) : Prop :=
  ∃ h u n, HasShape (names.map fun name => { name, absence := .null }) j [h, u, n] ∧
    TextFits h hash ∧ TextFits u uniqueId ∧ TextFits n name

/-- The key is a JSON text of an object with these texts in any order, with whatever else under
other names. Where there is no text there is null or nothing. -/
inductive Written : Json → Option String → Option String → Option String → Prop where
  | object {raw : String} {fields : List (String × Json)} {h u n : Option Json}
      {hash uniqueId name : Option String}
      (text : IsText (raw.toList.map some) (.obj fields))
      (mixed : Mixed names
        (Json.given [("hash_with_level", h), ("unique_id", u), ("name", n)]) fields)
      (hashed : TextFits h hash) (identified : TextFits u uniqueId) (named : TextFits n name) :
      Written (.str raw) hash uniqueId name

/-- Any texts can be written as a key. -/
theorem written_render (hash uniqueId name : Option String) :
    Written (.str (Json.obj [("hash_with_level", .option .str hash),
      ("unique_id", .option .str uniqueId), ("name", .option .str name)]).render)
      hash uniqueId name := by
  have hfits (t : Option String) : TextFits (some (.option .str t)) t := by
    cases t with
    | none => exact .null
    | some t => exact .text t
  have hlegible (t : Option String) : Json.Legible (.option .str t) := by
    cases t with
    | none => exact Json.legible_of_numberless _ rfl
    | some t => exact Json.legible_str t
  refine .object (Json.parse_eq_some_iff.mp (Json.Legible.parseText_render ?_))
    (Json.mixed_refl _ _) (hfits hash) (hfits uniqueId) (hfits name)
  refine Json.legible_obj fun f hf => ?_
  simp only [List.mem_cons, List.not_mem_nil, or_false] at hf
  obtain rfl | rfl | rfl := hf
  · exact hlegible hash
  · exact hlegible uniqueId
  · exact hlegible name

/-- An object with the texts in any order is a record of them. -/
theorem Written.describes {key : Json} {hash uniqueId name : Option String}
    (h : Written key hash uniqueId name) :
    ∃ raw j, key = .str raw ∧ IsText (raw.toList.map some) j ∧
      Describes j hash uniqueId name := by
  obtain ⟨text, mixed, hashed, identified, named⟩ := h
  refine ⟨_, _, rfl, text, _, _, _, Mixed.hasShape ?_ (by decide) (by decide) ?_, hashed,
    identified, named⟩
  · simpa [names, Json.given, Json.entry] using mixed
  · have hmay : Json.Absence.null ≠ .refused := by decide
    exact .cons (fun _ => hmay) (.cons (fun _ => hmay) (.cons (fun _ => hmay) .nil))

end ChildKey

/-! ## What is read in a key -/

namespace Bucket

/-- What a record of these texts says about a child. -/
def child (hash uniqueId name : Option String) : ChildKey where
  hashWithLevel := hash.filter (· != "")
  uniqueId := uniqueId.filter (· != "")
  name := name

variable {key j : Json} {k : ChildKey}

theorem readChild_eq_ok_iff : readChild j = .ok k ↔
    ∃ hash uniqueId name, ChildKey.Describes j hash uniqueId name ∧
      k = child hash uniqueId name := by
  have hread : readChild j = .ok k ↔
      ∃ vs, HasShape (ChildKey.names.map fun name => { name, absence := .null }) j vs ∧
        ∃ h u n hash uniqueId name, vs = [h, u, n] ∧ TextFits h hash ∧ TextFits u uniqueId ∧
          TextFits n name ∧ k = child hash uniqueId name := by
    refine bind_read_eq_ok_iff (by decide) fun r vs hvalues => ?_
    -- The values are what the record has under the three names.
    obtain _ | ⟨rfl, _ | ⟨rfl, _ | ⟨rfl, ⟨⟩⟩⟩⟩ := hvalues
    simp only [bind_eq_ok_iff, may_text_eq_ok_iff]
    constructor
    · rintro ⟨hash, hhash, uniqueId, huniqueId, name, hname, ⟨⟩⟩
      exact ⟨_, _, _, hash, uniqueId, name, rfl, hhash, huniqueId, hname, rfl⟩
    · rintro ⟨_, _, _, hash, uniqueId, name, ⟨⟩, hhash, huniqueId, hname, rfl⟩
      exact ⟨hash, hhash, uniqueId, huniqueId, name, hname, rfl⟩
  rw [hread]
  constructor
  · rintro ⟨-, hshape, h, u, n, hash, uniqueId, name, rfl, hhash, huniqueId, hname, rfl⟩
    exact ⟨hash, uniqueId, name, ⟨h, u, n, hshape, hhash, huniqueId, hname⟩, rfl⟩
  · rintro ⟨hash, uniqueId, name, ⟨h, u, n, hshape, hhash, huniqueId, hname⟩, rfl⟩
    exact ⟨_, hshape, h, u, n, hash, uniqueId, name, rfl, hhash, huniqueId, hname, rfl⟩

/-- A key is read if and only if it is a JSON text of a record. -/
theorem childOf_eq_ok_iff : childOf key = .ok k ↔
    ∃ raw j hash uniqueId name, key = .str raw ∧ IsText (raw.toList.map some) j ∧
      ChildKey.Describes j hash uniqueId name ∧ k = child hash uniqueId name := by
  cases key with
  | str raw =>
    simp only [childOf, mapError_eq_ok_iff, Json.parseText, Json.str.injEq, exists_and_left,
      exists_eq_left', ← Json.parse_eq_some_iff]
    cases Json.parse (raw.toList.map some) with
    | none => simp
    | some j => simp [readChild_eq_ok_iff]
  | _ => simp [childOf]

variable {b : Bucket} {t : Totals}

/-- Grouped by child, a bucket has totals if and only if its key is read. -/
theorem totals_child_eq_ok_iff : b.totals .child = .ok t ↔
    ∃ k, childOf b.key = .ok k ∧
      t = { child := some k, obligations := cents b.obligations, transactions := b.documents
            loans := cents b.loans, loanTransactions := b.loanDocuments } := by
  simp only [totals, if_true]
  cases childOf b.key with
  | error reason =>
    refine iff_of_false (by rintro ⟨⟩) ?_
    rintro ⟨k, ⟨⟩, -⟩
  | ok k =>
    constructor
    · rintro ⟨⟩
      exact ⟨k, rfl, rfl⟩
    · rintro ⟨_, ⟨⟩, rfl⟩
      rfl

/-- The cents of a sum are those of its number, and none where there is no number. -/
theorem value_cents (sum : Option Float) :
    (cents sum).value = ((sum.bind Double.value?).map wholeCents).getD 0 := by
  cases sum with
  | none => rfl
  | some x => exact Cents.value_ofScaledSum x

end Bucket

/-! ## The row of a key -/

/-- What comes before the last hyphen of the text spells the identifier. -/
def ChildKey.NamesHash (text : String) (u : Uuid) : Prop :=
  ∃ spelling level : String, text = spelling ++ "-" ++ level ∧ '-' ∉ level.toList ∧
    Uuid.read? spelling = some u

theorem ChildKey.not_namesHash_empty (u : Uuid) : ¬ NamesHash "" u := by
  rintro ⟨spelling, level, h, -⟩
  have hmem : '-' ∈ "".toList := by simp [h]
  exact List.not_mem_nil hmem

namespace Children

variable {t : Totals} {hash uniqueId name : Option String} {u : Uuid}

/-- A text that is empty names no child, so nothing is lost where it counts as none. -/
theorem names_iff (h : t.key = Bucket.child hash uniqueId name) :
    t.Names u ↔ ∃ text ∈ hash, ChildKey.NamesHash text u := by
  simp only [Totals.Names, h, Bucket.child, Option.filter_eq_some_iff, bne_iff_ne]
  constructor
  · rintro ⟨text, front, back, ⟨htext, -⟩, hcut, hback, hread⟩
    refine ⟨text, htext, String.ofList front, String.ofList back, ?_, ?_, hread⟩
    · apply String.toList_inj.mp
      simp [hcut]
    · rwa [String.toList_ofList]
  · rintro ⟨text, htext, hnames⟩
    -- The reader passes over empty texts, and this one has a hyphen.
    have hne : text ≠ "" := by
      rintro rfl
      exact ChildKey.not_namesHash_empty u hnames
    obtain ⟨spelling, level, rfl, hlevel, hread⟩ := hnames
    exact ⟨_, spelling.toList, level.toList, ⟨htext, hne⟩, by simp, hlevel,
      by rwa [String.ofList_toList]⟩

theorem rowOf_eq_none_iff : rowOf t = none ↔ ∀ u, ¬ t.Names u := by
  rw [← Option.not_isSome_iff_eq_none, ← usable_iff_isSome_rowOf, Totals.Usable, not_exists]

/-- A bucket whose key is the JSON text of an object is read, and makes a row if and only if what
comes before the last hyphen of its hash spells an identifier: the row of the child with this
identifier, and with the sum of the bucket, its whole cents over a hundred. -/
theorem rowOf_written (b : Bucket) (hash uniqueId name : Option String)
    (written : ChildKey.Written b.key hash uniqueId name) :
    ∃ t, b.totals .child = .ok t ∧
      (∀ (u : Uuid) (spelling level : String), Uuid.read? spelling = some u →
        '-' ∉ level.toList → hash = some (spelling ++ "-" ++ level) →
        ∃ r, rowOf t = some r ∧ r.id = u.render ++ "-C" ∧
          r.duns = uniqueId.filter (· != "") ∧ r.name = name ∧
          r.amount =
            Float.ofInt (((b.obligations.bind Double.value?).map wholeCents).getD 0) / 100.0) ∧
      (rowOf t = none ↔ hash = none ∨ hash = some "" ∨
        ∃ text, hash = some text ∧ ∀ u, ¬ ChildKey.NamesHash text u) := by
  obtain ⟨raw, j, hkey, htext, hdescribes⟩ := written.describes
  have hread : Bucket.childOf b.key = .ok (Bucket.child hash uniqueId name) :=
    Bucket.childOf_eq_ok_iff.mpr ⟨raw, j, hash, uniqueId, name, hkey, htext, hdescribes, rfl⟩
  obtain ⟨t, htotals, hchild, hobligations⟩ : ∃ t, b.totals .child = .ok t ∧
      t.key = Bucket.child hash uniqueId name ∧ t.obligations = Bucket.cents b.obligations :=
    ⟨_, Bucket.totals_child_eq_ok_iff.mpr ⟨_, hread, rfl⟩, rfl, rfl⟩
  refine ⟨t, htotals, ?_, ?_⟩
  · intro u spelling level hspelling hlevel hhash
    have hnames : t.Names u :=
      (names_iff hchild).mpr ⟨_, hhash, spelling, level, rfl, hlevel, hspelling⟩
    have hamount : t.obligations.toDollars =
        Float.ofInt (((b.obligations.bind Double.value?).map wholeCents).getD 0) / 100.0 := by
      rw [hobligations, Cents.toDollars, Bucket.value_cents]
    refine ⟨_, rowOf_eq_some_iff.mpr ⟨u, hnames, rfl⟩, ChildRow.id_eq _, ?_, ?_, hamount⟩
    · rw [hchild, Bucket.child]
    · rw [hchild, Bucket.child]
  · simp only [rowOf_eq_none_iff, names_iff hchild]
    cases hash with
    | none => simp
    | some text =>
      simp only [Option.mem_some, exists_eq_left', reduceCtorEq, false_or, Option.some.injEq]
      refine (or_iff_right_of_imp ?_).symm
      rintro rfl
      exact ChildKey.not_namesHash_empty

/-- What a key says about a child, with something unknown among it. -/
def sampleFields : List (String × Json) :=
  [("name", .str ""), ("seen", .arr [.bool true]),
    ("hash_with_level", .str "22222222-2222-2222-2222-222222222222-R")]

def sampleBucket : Bucket where
  key := .str (Json.obj sampleFields).render
  documents := 3
  obligations := some 123456.9
  loanDocuments := 0
  loans := none

/-- Nine tenths of a cent are dropped from the sum of the bucket. -/
theorem rowOf_written_sample :
    ChildKey.Written sampleBucket.key (some "22222222-2222-2222-2222-222222222222-R") none
      (some "") ∧
    ∃ t, sampleBucket.totals .child = .ok t ∧
      ∃ r, rowOf t = some r ∧ r.id = (sampleUuid 2).render ++ "-C" ∧ r.duns = none ∧
        r.name = some "" ∧ r.amount = 1234.56 := by
  have written : ChildKey.Written sampleBucket.key
      (some "22222222-2222-2222-2222-222222222222-R") none (some "") := by
    have htext := (Json.legible_of_numberless (.obj sampleFields) rfl).parseText_render
    refine .object (Json.parse_eq_some_iff.mp htext) ⟨[("seen", .arr [.bool true])], ?_, ?_⟩
      (.text _) .missing (.text _)
    · have hperm : (sampleFields.take 2 ++ sampleFields.drop 2).Perm
          (sampleFields.drop 2 ++ sampleFields.take 2) := List.perm_append_comm
      exact hperm
    · decide
  obtain ⟨t, htotals, hrow, -⟩ := rowOf_written sampleBucket _ _ _ written
  obtain ⟨r, hr, hid, hduns, hname, hamount⟩ :=
    hrow (sampleUuid 2) "22222222-2222-2222-2222-222222222222" "R" rfl (by decide) rfl
  have hdollars : Float.ofInt (Bucket.cents sampleBucket.obligations).value / 100.0 = 1234.56 := by
    decide +kernel
  rw [← Bucket.value_cents, hdollars] at hamount
  exact ⟨written, t, htotals, r, hr, hid, hduns, hname, hamount⟩

end Children

end Outlays

import Mathlib.Data.List.Nodup
import Mathlib.Data.List.Sort
import Outlays.Database.Answering

/-!
# The oldest profile with a UEI

Profiles are numbered as they are put into their table, and several may have one hash. Asked for the
UEIs of some hashes, the database answers the rows of their profiles from the newest to the oldest,
and these are put under their hashes one after the other. So a UEI gives way to each one that comes
later, and what stays is that of the oldest profile that has one: the first that would be found by
going through the table in order.

## Main definitions

* `ProfileRow` — what the table holds about the UEI of a profile
* `ProfileRow.IsOldestUei` — the UEI of the oldest profile of a hash that has one
* `ProfileRow.Selected` — the rows that the database answers about some hashes
* `ProfileRow.SuppliesOldest` — values under hashes, each from the oldest profile

## Main results

* `Database.get?_ueisByHash` — the last row with a UEI counts
* `ProfileRow.findSome?_ueiFor_eq_some_iff` — the first row with a UEI, from the oldest on
* `Database.ueis_from_oldest` — the answer of the database
-/

namespace Outlays

/-- What the table of profiles holds about the UEI of a profile, and the number of the profile. -/
structure ProfileRow where
  number : Int
  hash : Uuid
  uei : Option String
  deriving DecidableEq, Repr

namespace ProfileRow

variable {table rows found : List ProfileRow} {hashes : List Uuid} {hash : Uuid} {uei : String}

/-! ## The table -/

/-- What a row says about the UEI of a hash. -/
def ueiFor (hash : Uuid) (p : ProfileRow) : Option String := if p.hash = hash then p.uei else none

theorem ueiFor_eq_some_iff {p : ProfileRow} :
    p.ueiFor hash = some uei ↔ p.hash = hash ∧ p.uei = some uei := by
  rw [ueiFor, Option.ite_none_right_eq_some]

/-- The UEI is that of the profile with the least number among those of the hash that have one. -/
def IsOldestUei (table : List ProfileRow) (hash : Uuid) (uei : String) : Prop :=
  ∃ p ∈ table, p.hash = hash ∧ p.uei = some uei ∧
    ∀ q ∈ table, q.hash = hash → q.uei ≠ none → p.number ≤ q.number

theorem IsOldestUei.unique {other : String} (distinct : (table.map (·.number)).Nodup)
    (h : IsOldestUei table hash uei) (h' : IsOldestUei table hash other) : uei = other := by
  obtain ⟨p, hp, hhash, huei, hleast⟩ := h
  obtain ⟨q, hq, hhash', huei', hleast'⟩ := h'
  have hnumber : p.number = q.number :=
    le_antisymm (hleast q hq hhash' (by simp [huei'])) (hleast' p hp hhash (by simp [huei]))
  obtain rfl := List.inj_on_of_nodup_map distinct hp hq hnumber
  exact Option.some.inj (huei.symm.trans huei')

/-- Some rows of the table, with all that have a UEI for the hash. -/
structure Covers (rows table : List ProfileRow) (hash : Uuid) : Prop where
  mem_table : ∀ p ∈ rows, p ∈ table
  mem_rows : ∀ p ∈ table, p.hash = hash → p.uei ≠ none → p ∈ rows

/-- A UEI is found if some profile of the hash has one. -/
theorem exists_findSome?_ueiFor_iff (h : Covers rows table hash) :
    (∃ uei, rows.findSome? (ueiFor hash) = some uei) ↔
      ∃ p ∈ table, p.hash = hash ∧ p.uei ≠ none := by
  rw [← Option.isSome_iff_exists, List.findSome?_isSome_iff]
  simp only [Option.isSome_iff_exists, ueiFor_eq_some_iff, Option.ne_none_iff_exists']
  constructor
  · rintro ⟨p, hp, uei, hhash, huei⟩
    exact ⟨p, h.mem_table p hp, hhash, uei, huei⟩
  · rintro ⟨p, hp, hhash, uei, huei⟩
    exact ⟨p, h.mem_rows p hp hhash (by simp [huei]), uei, hhash, huei⟩

/-- From the oldest row on, the first UEI that is found is that of the oldest profile: no row before
it has a UEI for the hash, and those behind it are newer. -/
theorem isOldestUei_of_findSome? (h : Covers rows table hash)
    (ascending : rows.Pairwise fun p q => p.number ≤ q.number)
    (hfound : rows.findSome? (ueiFor hash) = some uei) : IsOldestUei table hash uei := by
  obtain ⟨front, p, back, hrows, hp, hfront⟩ := List.findSome?_eq_some_iff.mp hfound
  obtain ⟨hhash, huei⟩ := ueiFor_eq_some_iff.mp hp
  refine ⟨p, h.mem_table p (by simp [hrows]), hhash, huei, fun q hq hqhash hquei => ?_⟩
  have hmem := h.mem_rows q hq hqhash hquei
  rw [hrows] at hmem ascending
  -- A row with a UEI stands behind the first such row, or it would have been found before it.
  rcases List.mem_append.mp hmem with hbefore | hbehind
  · have hnone := hfront q hbefore
    rw [ueiFor, if_pos hqhash] at hnone
    exact absurd hnone hquei
  · have hpairs := List.pairwise_cons.mp (List.pairwise_append.mp ascending).2.1
    rcases List.mem_cons.mp hbehind with rfl | hbehind
    · exact le_rfl
    · exact hpairs.1 q hbehind

theorem findSome?_ueiFor_eq_some_iff (distinct : (table.map (·.number)).Nodup)
    (h : Covers rows table hash) (ascending : rows.Pairwise fun p q => p.number ≤ q.number) :
    rows.findSome? (ueiFor hash) = some uei ↔ IsOldestUei table hash uei := by
  refine ⟨isOldestUei_of_findSome? h ascending, fun holdest => ?_⟩
  -- Some UEI is found, and that of the oldest profile is the only one that can be.
  have ⟨p, hp, hhash, huei, _⟩ := holdest
  obtain ⟨other, hother⟩ :=
    (exists_findSome?_ueiFor_iff h).mpr ⟨p, hp, hhash, by simp [huei]⟩
  rw [hother, (isOldestUei_of_findSome? h ascending hother).unique distinct holdest]

/-! ## The rows of an answer -/

/-- The rows that the database answers about some hashes: of the profiles of those hashes all that
have a UEI, the newest first. The statement asks for no others, and if it did, it would make no
difference. -/
structure Selected (table : List ProfileRow) (hashes : List Uuid) (found : List ProfileRow) :
    Prop where
  mem_table : ∀ p ∈ found, p ∈ table ∧ p.hash ∈ hashes
  mem_found : ∀ p ∈ table, p.hash ∈ hashes → p.uei ≠ none → p ∈ found
  newestFirst : found.Pairwise fun p q => q.number ≤ p.number

theorem Selected.covers (h : Selected table hashes found) (hhash : hash ∈ hashes) :
    Covers found.reverse table hash where
  mem_table p hp := (h.mem_table p (List.mem_reverse.mp hp)).1
  mem_rows p hp hphash hpuei :=
    List.mem_reverse.mpr (h.mem_found p hp (hphash ▸ hhash) hpuei)

theorem Selected.ascending (h : Selected table hashes found) :
    found.reverse.Pairwise fun p q => p.number ≤ q.number :=
  List.pairwise_reverse.mpr h.newestFirst

/-- Of other hashes nothing is found. -/
theorem Selected.findSome?_eq_none (h : Selected table hashes found) (hhash : hash ∉ hashes) :
    found.reverse.findSome? (ueiFor hash) = none := by
  rw [List.findSome?_eq_none_iff]
  intro p hp
  have hmem := (h.mem_table p (List.mem_reverse.mp hp)).2
  rw [ueiFor, if_neg]
  rintro rfl
  exact hhash hmem

theorem Selected.findSome?_eq_some_iff (distinct : (table.map (·.number)).Nodup)
    (h : Selected table hashes found) :
    found.reverse.findSome? (ueiFor hash) = some uei ↔
      hash ∈ hashes ∧ IsOldestUei table hash uei := by
  by_cases hhash : hash ∈ hashes
  · rw [findSome?_ueiFor_eq_some_iff distinct (h.covers hhash) h.ascending]
    exact (and_iff_right hhash).symm
  · rw [h.findSome?_eq_none hhash]
    exact ⟨nofun, fun hother => absurd hother.1 hhash⟩

theorem Selected.exists_findSome?_iff (h : Selected table hashes found) :
    (∃ uei, found.reverse.findSome? (ueiFor hash) = some uei) ↔
      hash ∈ hashes ∧ ∃ p ∈ table, p.hash = hash ∧ p.uei ≠ none := by
  by_cases hhash : hash ∈ hashes
  · rw [exists_findSome?_ueiFor_iff (h.covers hhash)]
    exact (and_iff_right hhash).symm
  · rw [h.findSome?_eq_none hhash]
    exact ⟨nofun, fun hother => absurd hother.1 hhash⟩

/-- The rows with one of the hashes and a UEI, by descending number. -/
def newestFirst (table : List ProfileRow) (hashes : List Uuid) : List ProfileRow :=
  (table.filter fun p => hashes.contains p.hash && p.uei.isSome).mergeSort fun p q =>
    decide (q.number ≤ p.number)

theorem selected_newestFirst (table : List ProfileRow) (hashes : List Uuid) :
    Selected table hashes (newestFirst table hashes) := by
  have hmem (p : ProfileRow) : p ∈ newestFirst table hashes ↔
      p ∈ table ∧ p.hash ∈ hashes ∧ p.uei ≠ none := by
    rw [newestFirst, List.mem_mergeSort, List.mem_filter, Bool.and_eq_true, List.contains_iff_mem,
      Option.isSome_iff_ne_none]
  refine ⟨fun p hp => ?_, fun p hp hhash huei => (hmem p).mpr ⟨hp, hhash, huei⟩, ?_⟩
  · obtain ⟨htable, hhash, -⟩ := (hmem p).mp hp
    exact ⟨htable, hhash⟩
  · have hsorted : (newestFirst table hashes).Pairwise fun p q =>
        decide (q.number ≤ p.number) = true :=
      List.pairwise_mergeSort (fun a b c => by simpa using fun hab hbc => le_trans hbc hab)
        (fun a b => by simpa using le_total b.number a.number) _
    exact hsorted.imp of_decide_eq_true

/-- Under the hashes that were asked for, as far as some profile of theirs has a UEI, stands that of
the oldest such profile. -/
structure SuppliesOldest (table : List ProfileRow) (hashes : List Uuid)
    (ueis : Keyed Uuid String) : Prop where
  nodup_keys : (ueis.map (·.1)).Nodup
  mem_keys_iff : ∀ hash, hash ∈ ueis.map (·.1) ↔
    hash ∈ hashes ∧ ∃ p ∈ table, p.hash = hash ∧ p.uei ≠ none
  get?_eq_some_iff : ∀ hash uei, Keyed.get? ueis hash = some uei ↔
    hash ∈ hashes ∧ IsOldestUei table hash uei
  /-- Going through the table in order, it is the first UEI of the hash. -/
  get?_eq_first : ∀ ordered : List ProfileRow, ordered.Perm table →
    ordered.Pairwise (fun p q => p.number ≤ q.number) →
    ∀ hash ∈ hashes, Keyed.get? ueis hash = ordered.findSome? (ueiFor hash)

end ProfileRow

namespace Database

open ProfileRow

/-! ## The answer -/

/-- The UEI of a hash is that of its last row with one. -/
theorem get?_ueisByHash (rows : List (Uuid × Option String)) (hash : Uuid) :
    Keyed.get? (ueisByHash rows) hash =
      rows.reverse.findSome? fun r => if r.1 = hash then r.2 else none := by
  -- Rows without a UEI are left out before the search here, and passed over by it there.
  rw [ueisByHash, Keyed.get?_ofList, ← List.filterMap_reverse, ← List.head?_filterMap,
    List.filterMap_filterMap, List.head?_filterMap]
  congr 1
  funext r
  cases r.2 <;> simp

/-- The hash of which every digit is the last hexadecimal digit of a number. -/
def digitHash (n : Nat) : Uuid :=
  ⟨List.replicate 32 ⟨n % 16, Nat.mod_lt n (by decide)⟩, List.length_replicate⟩

example : Keyed.get? (ueisByHash [(digitHash 1, some "LATER"), (digitHash 1, some "FIRST"),
    (digitHash 1, none)]) (digitHash 1) = some "FIRST" := by
  decide

theorem get?_ueisByHash_map (found : List ProfileRow) (hash : Uuid) :
    Keyed.get? (ueisByHash (found.map fun p => (p.hash, p.uei))) hash =
      found.reverse.findSome? (ueiFor hash) := by
  rw [get?_ueisByHash, ← List.map_reverse, List.findSome?_map]
  rfl

theorem suppliesOldest_ueisByHash {table found : List ProfileRow} {hashes : List Uuid}
    (distinct : (table.map (·.number)).Nodup) (selected : Selected table hashes found) :
    SuppliesOldest table hashes (ueisByHash (found.map fun p => (p.hash, p.uei))) := by
  have hget (hash : Uuid) (uei : String) :
      Keyed.get? (ueisByHash (found.map fun p => (p.hash, p.uei))) hash = some uei ↔
        hash ∈ hashes ∧ IsOldestUei table hash uei := by
    rw [get?_ueisByHash_map, selected.findSome?_eq_some_iff distinct]
  refine ⟨Keyed.nodup_keys_ofList _, fun hash => ?_, hget, fun ordered perm ascending hash hhash =>
    Option.ext fun uei => ?_⟩
  · rw [Keyed.mem_keys_iff, get?_ueisByHash_map, selected.exists_findSome?_iff]
  · -- The table in order covers itself, so the search through it finds the same UEI.
    have hcovers : Covers ordered table hash :=
      ⟨fun p => perm.mem_iff.mp, fun p hp _ _ => perm.mem_iff.mpr hp⟩
    rw [hget, findSome?_ueiFor_eq_some_iff distinct hcovers ascending]
    exact and_iff_right hhash

variable {σ : Type}

/-- Where the database answers a statement with rows, what is asked for goes on with them. -/
theorem run_rows_bind {α : Type} {c : Connection σ} {s : σ} {q : Statement} {found : List q.Row}
    (answers : (c q s).1 = .ok found) (f : List q.Row → Answering σ α) :
    (rows c q >>= f).run s = (f found).run (c q s).2 := by
  have hrun : (rows c q).run s = (.ok found, (c q s).2) :=
    congrArg (fun result => (Except.mapError (failure q) result, (c q s).2)) answers
  rw [ExceptT.run_bind]
  simp only [Bind.bind, StateT.bind, hrun]

/-- Asked for the UEIs of some hashes, the database answers for each of them, as far as some profile
has one, the UEI of the oldest such profile, and nothing for any other hash. -/
theorem ueis_from_oldest (c : Connection σ) (s : σ) (table found : List ProfileRow)
    (hashes : List Uuid) (distinct : (table.map (·.number)).Nodup)
    (selected : Selected table hashes found)
    (answers : (c (.profileUeis hashes) s).1 = .ok (found.map fun p => (p.hash, p.uei))) :
    ∃ answering, answer? c (.profileUeis hashes) = some answering ∧
      ∃ ueis : Keyed Uuid String, (answering.run s).1 = .ok ueis ∧
        SuppliesOldest table hashes ueis := by
  refine ⟨_, rfl, _, ?_, suppliesOldest_ueisByHash distinct selected⟩
  rw [run_rows_bind answers]
  rfl

/-- A connection to a table of profiles, and to nothing else. -/
def toProfiles (table : List ProfileRow) : Connection Unit := fun q s =>
  match q with
  | .profileUeis hashes =>
    (.ok ((newestFirst table hashes).map fun p => (p.hash, p.uei)), s)
  | _ => (.error .closed, s)

/-- Four profiles of one hash, the oldest and the newest without a UEI, and one of another. -/
def sampleProfiles : List ProfileRow :=
  [⟨5, digitHash 1, none⟩, ⟨3, digitHash 1, some "LATER"⟩, ⟨1, digitHash 1, none⟩,
    ⟨4, digitHash 2, some "OTHER"⟩, ⟨2, digitHash 1, some "FIRST"⟩]

/-- One of the two hashes, twice, and one without profiles. -/
def sampleHashes : List Uuid := [digitHash 1, digitHash 3, digitHash 1]

theorem ueis_from_oldest_sampleProfiles :
    (sampleProfiles.map (·.number)).Nodup ∧
      Selected sampleProfiles sampleHashes (newestFirst sampleProfiles sampleHashes) ∧
      (toProfiles sampleProfiles (.profileUeis sampleHashes) ()).1 =
        .ok ((newestFirst sampleProfiles sampleHashes).map fun p => (p.hash, p.uei)) ∧
      ∃ answering,
        answer? (toProfiles sampleProfiles) (.profileUeis sampleHashes) = some answering ∧
        ∃ ueis : Keyed Uuid String, (answering.run ()).1 = .ok ueis ∧
          SuppliesOldest sampleProfiles sampleHashes ueis :=
  ⟨by decide, selected_newestFirst _ _, rfl,
    ueis_from_oldest _ _ _ _ _ (by decide) (selected_newestFirst _ _) rfl⟩

end Database

end Outlays

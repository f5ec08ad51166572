import Outlays.Proofs.Recipient.Parents

/-!
# The UEIs of parents

An id is a hash with a level, and profiles of one hash may stand at several levels, each with a UEI
of its own or with none. UEIs are asked for by hash alone: the stores answer the UEI of the first
profile with the hash that has one. So the UEI that the overview of a child shows of its parent need
not be the one that the profile of the parent carries. It is, if and only if the profile that
happens to come first carries the same UEI as some profile of the parent.

That the stores answer so is an assumption here. Stores in memory do.

## Main definitions

* `Stores.supplier?` — the first profile with a hash that has a UEI
* `Overview.AnswersUeis` — the stores answer the UEIs that they are asked for
* `Overview.ShowsOwnUei` — the UEI that is shown of a parent is that of its profile

## Main results

* `Overview.own_ueis_iff` — which UEI the overview of a child shows of each parent, and when it is
  the parent's own
-/

namespace Outlays

/-! ## Profiles with a UEI -/

namespace Stores

variable {w : Stores} {hash : Uuid} {uei : String}

/-- The first profile with the hash that has a UEI, at whatever level. -/
def supplier? (w : Stores) (hash : Uuid) : Option ProfileRecord :=
  w.profiles.find? fun p => p.id.hash = hash && p.uei.isSome

/-- A profile with this id carries this UEI. -/
def Carries (w : Stores) (id : RecipientId) (uei : String) : Prop :=
  ∃ p ∈ w.profiles, p.id = id ∧ p.uei = some uei

instance (w : Stores) (id : RecipientId) (uei : String) : Decidable (w.Carries id uei) :=
  inferInstanceAs (Decidable (∃ p ∈ w.profiles, _))

theorem ueiOf_eq (w : Stores) (hash : Uuid) :
    w.ueiOf hash = (w.supplier? hash).bind (·.uei) := by
  rw [ueiOf, supplier?]
  induction w.profiles with
  | nil => rfl
  | cons p profiles ih =>
    rw [List.findSome?_cons, List.find?_cons]
    by_cases hp : p.id.hash = hash
    · cases huei : p.uei <;> simp [hp, huei, ih]
    · simp [hp, ih]

theorem ueiOf_eq_some_iff :
    w.ueiOf hash = some uei ↔ ∃ p, w.supplier? hash = some p ∧ p.uei = some uei := by
  rw [ueiOf_eq, Option.bind_eq_some_iff]

/-- A supplier has a UEI. -/
theorem exists_uei_of_supplier? {p : ProfileRecord} (h : w.supplier? hash = some p) :
    ∃ uei, p.uei = some uei := by
  have hp := List.find?_some h
  rw [Bool.and_eq_true] at hp
  exact Option.isSome_iff_exists.mp hp.2

theorem ueiOf_eq_none_iff : w.ueiOf hash = none ↔ w.supplier? hash = none := by
  rw [ueiOf_eq, Option.bind_eq_none_iff]
  constructor
  · intro h
    refine Option.eq_none_iff_forall_ne_some.mpr fun p hp => ?_
    obtain ⟨uei, huei⟩ := exists_uei_of_supplier? hp
    exact nomatch (h p hp).symm.trans huei
  · intro h p hp
    exact nomatch h.symm.trans hp

/-- A hash of which some profile carries a UEI has a supplier. -/
theorem supplier?_ne_none {id : RecipientId} (h : w.Carries id uei) :
    w.supplier? id.hash ≠ none := by
  obtain ⟨p, hp, rfl, huei⟩ := h
  intro hnone
  simpa [huei] using List.find?_eq_none.mp hnone p hp

/-- Under each hash that was asked for stands its UEI, if it has one. -/
theorem get?_ueisOf {hashes : List Uuid} (h : hash ∈ hashes) :
    Keyed.get? (w.ueisOf hashes) hash = w.ueiOf hash := by
  -- An entry under the hash is the UEI of the hash, so it does not matter which one is found.
  have hentry (e : Uuid × String) (he : e ∈ w.ueisOf hashes) : w.ueiOf e.1 = some e.2 := by
    obtain ⟨other, -, hother⟩ := List.mem_filterMap.mp he
    obtain ⟨uei, huei, rfl⟩ := Option.map_eq_some_iff.mp hother
    exact huei
  rw [Keyed.get?]
  cases hfound : (w.ueisOf hashes).find? fun e => e.1 == hash with
  | some e =>
    have hkey : e.1 = hash := by simpa using List.find?_some hfound
    rw [← hkey, hentry e (List.mem_of_find?_eq_some hfound), Option.map_some]
  | none =>
    cases huei : w.ueiOf hash with
    | none => rfl
    | some uei =>
      have hmem : (hash, uei) ∈ w.ueisOf hashes :=
        List.mem_filterMap.mpr ⟨hash, h, by rw [huei, Option.map_some]⟩
      exact absurd BEq.rfl (List.find?_eq_none.mp hfound _ hmem)

end Stores

namespace Overview

variable {w : Stores} {log : List Answered}

/-- Asked for the UEIs of some hashes, the stores answer for each of them the one that `w` has. -/
def AnswersUeis (w : Stores) (log : List Answered) : Prop :=
  ∀ hashes ueis, (⟨.profileUeis hashes, ueis⟩ : Answered) ∈ log →
    ∀ hash ∈ hashes, Keyed.get? ueis hash = w.ueiOf hash

end Overview

theorem Memory.answersUeis {use : MemoryUse} {outage : Question → Option Failure} {α : Type}
    (x : Inquiry α) (m : Memory) :
    Overview.AnswersUeis m.stores (x.transcript (backend use outage) m) := by
  intro hashes ueis hmem hash hhash
  obtain ⟨m', hw, hanswer⟩ := exists_respond_of_mem hmem
  obtain rfl := Except.ok.inj hanswer
  rw [hw, Stores.get?_ueisOf hhash]

namespace Overview

/-! ## UEIs in the overview of a child -/

/-- If an item shows a UEI of the parent with this hash, then a profile of the parent carries it. -/
def ShowsOwnUei (w : Stores) (hash : Uuid) (item : Json) : Prop :=
  ∀ uei, item.field? "parent_uei" = some (.str uei) → w.Carries ⟨hash, .parent⟩ uei

/-- An item shows the UEI of the profile that supplies it for the hash of a parent. -/
structure ShowsUeiOf (w : Stores) (hash : Uuid) (item : Json) : Prop where
  shown_iff : ∀ uei, item.field? "parent_uei" = some (.str uei) ↔
    ∃ p, w.supplier? hash = some p ∧ p.uei = some uei
  null_iff : item.field? "parent_uei" = some .null ↔ w.supplier? hash = none
  /-- Where a profile of the parent carries a UEI, some UEI is shown. -/
  ne_null : ∀ uei, w.Carries ⟨hash, .parent⟩ uei → item.field? "parent_uei" ≠ some .null
  own_iff : ShowsOwnUei w hash item ↔
    ∀ p, w.supplier? hash = some p → ∃ q ∈ w.profiles, q.id = ⟨hash, .parent⟩ ∧ q.uei = p.uei

theorem showsUeiOf_of_eq {hash : Uuid} {item : Json}
    (h : item.field? "parent_uei" = some (.option .str (w.ueiOf hash))) :
    ShowsUeiOf w hash item := by
  have hshown (uei : String) : item.field? "parent_uei" = some (.str uei) ↔
      ∃ p, w.supplier? hash = some p ∧ p.uei = some uei := by
    rw [h, ← Stores.ueiOf_eq_some_iff]
    cases w.ueiOf hash <;> simp [Json.option]
  have hnull : item.field? "parent_uei" = some .null ↔ w.supplier? hash = none := by
    rw [h, Option.some.injEq, Children.option_str_eq_null_iff, Stores.ueiOf_eq_none_iff]
  refine ⟨hshown, hnull, fun uei hcarries hitem => ?_, ?_⟩
  · exact Stores.supplier?_ne_none hcarries (hnull.mp hitem)
  constructor
  · intro hown p hp
    obtain ⟨uei, huei⟩ := Stores.exists_uei_of_supplier? hp
    obtain ⟨q, hq, hid, hsame⟩ := hown uei ((hshown uei).mpr ⟨p, hp, huei⟩)
    exact ⟨q, hq, hid, hsame.trans huei.symm⟩
  · intro hsupplier uei hitem
    obtain ⟨p, hp, huei⟩ := (hshown uei).mp hitem
    obtain ⟨q, hq, hid, hsame⟩ := hsupplier p hp
    exact ⟨q, hq, hid, hsame.trans huei⟩

/-- UEIs are asked for every parent that was found. -/
theorem Lineage.get?_ueis {id : RecipientId} {answer : Json} (lineage : Lineage id log answer)
    (answers : AnswersUeis w log) {duns : String} {entry : DirectoryEntry}
    (h : (duns, some entry) ∈ lineage.resolved) :
    Keyed.get? lineage.ueis entry.hash = w.ueiOf entry.hash := by
  -- Something was found, so the question about the parents was put.
  have hmem : entry.hash ∈ hashesOf lineage.resolved := List.mem_filterMap.mpr ⟨_, h, rfl⟩
  have hasked : (hashesOf lineage.resolved, lineage.ueis) ∈ log.filterMap Answered.ueis? := by
    rw [lineage.ueis_eq, if_neg (List.ne_nil_of_mem hmem)]
    exact List.mem_cons_of_mem _ List.mem_cons_self
  obtain ⟨⟨q, answer⟩, ha, hpick⟩ := List.mem_filterMap.mp hasked
  cases q with
  | profileUeis hashes =>
    cases hpick
    exact answers _ _ ha _ hmem
  | _ => cases hpick

/-- The overview of a child shows of each parent that was found the UEI that the first profile with
its hash supplies, and this is the parent's own if and only if a profile of the parent carries the
same. -/
theorem own_ueis_iff {σ : Type} (c : Circumstances) (b : Backend σ) (s : σ) (raw : String)
    (year : Option String) (answer : Json) (hash : Uuid) (w : Stores)
    (child : RecipientId.parse raw = .ok ⟨hash, .child⟩)
    (answers : AnswersUeis w (((Call.overview raw year).inquiry c).transcript b s))
    (answered : (((Call.overview raw year).inquiry c).run b s).result = .ok answer) :
    ∃ items, answer.field? "parents" = some (.arr items) ∧
      List.Forall₂ (fun r item => ∀ entry, r.2 = some entry → ShowsUeiOf w entry.hash item)
        ((((Call.overview raw year).inquiry c).transcript b s).filterMap Answered.entryByDuns?)
        items := by
  obtain ⟨overview, rfl, ⟨course⟩⟩ := exists_course answered
  have hid : course.id = ⟨hash, .child⟩ := Except.ok.inj (course.id_eq.symm.trans child)
  obtain ⟨lineage⟩ := course.exists_lineage (by rw [hid])
  refine ⟨lineage.items, lineage.items_eq, ?_⟩
  rw [lineage.resolved_eq]
  have hresolved : ∀ r ∈ lineage.resolved, r ∈ lineage.resolved := fun _ => id
  refine (List.forall₂_and_left _ _ |>.mpr ⟨hresolved, lineage.shows⟩).imp ?_
  rintro ⟨duns, found⟩ item ⟨hr, hshows⟩ entry rfl
  refine showsUeiOf_of_eq ?_
  rw [hshows.uei_eq, Option.bind_some, lineage.get?_ueis answers hr]

/-- The UEI of the parent in the household is the one that stands first under its hash. -/
theorem own_ueis_iff_household :
    RecipientId.parse "55555555-5555-5555-5555-555555555555-C" =
        .ok ⟨Children.sampleUuid 5, .child⟩ ∧
      AnswersUeis sampleHousehold.stores (householdLog "55555555-5555-5555-5555-555555555555-C") ∧
      ∃ answer,
        (((Call.overview "55555555-5555-5555-5555-555555555555-C" none).inquiry .sample).run
          householdBackend sampleHousehold).result = .ok answer ∧
        ∃ items, answer.field? "parents" = some (.arr items) ∧
          List.Forall₂
            (fun r item => ∀ entry, r.2 = some entry →
              ShowsUeiOf sampleHousehold.stores entry.hash item)
            ((householdLog "55555555-5555-5555-5555-555555555555-C").filterMap
              Answered.entryByDuns?) items :=
  ⟨rfl, Memory.answersUeis _ _, _, rfl,
    own_ueis_iff _ _ _ _ _ _ _ _ rfl (Memory.answersUeis _ _) rfl⟩

/-- In the household the child's overview shows of its parent a UEI that no profile of the parent
carries, although one carries another. -/
theorem not_own_uei_household :
    ∃ answer items,
      (((Call.overview "55555555-5555-5555-5555-555555555555-C" none).inquiry .sample).run
        householdBackend sampleHousehold).result = .ok answer ∧
      answer.field? "parents" = some (.arr items) ∧
      sampleHousehold.stores.Carries ⟨Children.parentHash, .parent⟩ "PARENTUEI" ∧
      ¬ List.Forall₂
        (fun r item => ∀ entry, r.2 = some entry →
          ShowsOwnUei sampleHousehold.stores entry.hash item)
        ((householdLog "55555555-5555-5555-5555-555555555555-C").filterMap Answered.entryByDuns?)
        items := by
  refine ⟨_, _, rfl, rfl, by decide, fun h => ?_⟩
  -- The directory does not know the first affiliation.
  obtain _ | ⟨-, _ | ⟨hown, -⟩⟩ := h
  exact absurd (hown _ rfl "LONEUEI" rfl) (by decide)

end Overview

end Outlays

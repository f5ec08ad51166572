import Mathlib.Data.List.Forall2
import Outlays.Proofs.Recipient.Join
import Outlays.Proofs.Recipient.Overview
import Outlays.Proofs.Results

/-!
# The parents in an overview

The parents of a child are known by DUNS. Each DUNS that its profile is affiliated with is looked up
in the directory, and the UEIs of all that were found are asked for at once, by hash. So a list of
answers by position meets one by key; this file says what each parent shows of either, and that no
affiliation is dropped, merged or moved.

A parent is its own parent. Its id is repeated in the way the client spelled it, while everywhere
else a parent is named in the one written form. The two agree for a client that uses the written
form, and for no other.

## Main definitions

* `Overview.Lineage` — the parents of a child, by what the stores answer
* `Json.ShowsParentId` — an id of a parent in the answer to a call

## Main results

* `Overview.leads_affiliatedParents_iff` — which answers lead to which parents
* `Overview.nonempty_lineage` — the parents in the overview of a child
* `Overview.canonical_parents_iff` — when all parents are named in the written form
-/

namespace Outlays

/-! ## What a log tells about parents -/

namespace Answered

/-- Whose affiliations were asked for, and what they are. -/
def affiliations? : Answered → Option (RecipientId × Option (List String))
  | ⟨.affiliations id, affiliated⟩ => some (id, affiliated)
  | _ => none

/-- Which DUNS was looked up, and its entry in the directory. -/
def entryByDuns? : Answered → Option (String × Option DirectoryEntry)
  | ⟨.findEntryByDuns duns, entry⟩ => some (duns, entry)
  | _ => none

/-- Which hashes UEIs were asked for, and what they are. -/
def ueis? : Answered → Option (List Uuid × Keyed Uuid String)
  | ⟨.profileUeis hashes, ueis⟩ => some (hashes, ueis)
  | _ => none

variable {a : Answered}

theorem affiliations?_eq_none (h : ¬ a.1.About .parents) : a.affiliations? = none := by
  obtain ⟨q, answer⟩ := a
  cases q <;> first | rfl | exact absurd trivial h

theorem entryByDuns?_eq_none (h : ¬ a.1.About .parents) : a.entryByDuns? = none := by
  obtain ⟨q, answer⟩ := a
  cases q <;> first | rfl | exact absurd trivial h

theorem ueis?_eq_none (h : ¬ a.1.About .parents) : a.ueis? = none := by
  obtain ⟨q, answer⟩ := a
  cases q <;> first | rfl | exact absurd trivial h

end Answered

namespace Overview

/-! ## Affiliations, looked up -/

/-- A DUNS that was looked up, with its entry in the directory. -/
def lookedUp (r : String × Option DirectoryEntry) : Answered := ⟨.findEntryByDuns r.1, r.2⟩

/-- The hashes of the entries that were found. -/
def hashesOf (resolved : List (String × Option DirectoryEntry)) : List Uuid :=
  resolved.filterMap fun r => r.2.map (·.hash)

/-- The DUNS are looked up one by one. -/
theorem leads_lookUps_iff {duns : List String} {resolved : List (String × Option DirectoryEntry)}
    {log : List Answered} :
    (duns.mapM fun d => do return (d, ← Inquiry.put (.findEntryByDuns d))).Leads log
        (.ok resolved) ↔
      resolved.map (·.1) = duns ∧ log = resolved.map lookedUp := by
  -- The first DUNS is looked up before the others, so the log is built from its front.
  induction duns generalizing log resolved with
  | nil =>
    rw [List.mapM_nil, Inquiry.pure_eq_done, Inquiry.leads_done_iff, List.map_eq_nil_iff]
    constructor
    · rintro ⟨rfl, h⟩
      obtain rfl := Except.ok.inj h
      exact ⟨rfl, rfl⟩
    · rintro ⟨rfl, rfl⟩
      exact ⟨rfl, rfl⟩
  | cons d duns ih =>
    rw [List.mapM_cons]
    constructor
    · intro h
      obtain ⟨entry, rest, rfl, hrest⟩ := Inquiry.leads_put_bind_iff.mp h
      obtain ⟨later, hlater, rfl⟩ := Inquiry.leads_bind_done_iff.mp hrest
      obtain ⟨rfl, rfl⟩ := ih.mp hlater
      exact ⟨rfl, rfl⟩
    · rintro ⟨hduns, rfl⟩
      obtain ⟨r, later, rfl, rfl, hlater⟩ := List.map_eq_cons_iff.mp hduns
      refine Inquiry.leads_put_bind_iff.mpr ⟨r.2, later.map lookedUp, rfl, ?_⟩
      exact Inquiry.leads_bind_done_iff.mpr ⟨later, ih.mpr ⟨hlater, rfl⟩, rfl⟩

/-- The parents of the DUNS that were looked up, in order. -/
def parentsFrom (ueis : Keyed Uuid String) (resolved : List (String × Option DirectoryEntry)) :
    List Parent :=
  resolved.map fun r => affiliatedParent ueis r.1 r.2

/-- Every affiliated DUNS is looked up, and then the UEIs are asked for the hashes that were found,
if there are any. -/
theorem leads_affiliatedParents_iff {id : RecipientId} {log : List Answered}
    {parents : List Parent} :
    (affiliatedParents id).Leads log (.ok parents) ↔
      ∃ affiliated resolved ueis, resolved.map (·.1) = affiliated.getD [] ∧
        (hashesOf resolved = [] → ueis = []) ∧
        log = ⟨.affiliations id, affiliated⟩ :: (resolved.map lookedUp ++
          Children.askedAbout (hashesOf resolved) (.profileUeis (hashesOf resolved)) ueis) ∧
        parents = parentsFrom ueis resolved := by
  constructor
  · intro h
    obtain ⟨affiliated, rest, rfl, hrest⟩ := Inquiry.leads_put_bind_iff.mp h
    obtain ⟨resolved, first, last, rfl, hresolved, hlast⟩ := Inquiry.leads_bind_ok_iff.mp hrest
    obtain ⟨hduns, rfl⟩ := leads_lookUps_iff.mp hresolved
    -- Whether UEIs are asked for depends on whether anything was found.
    dsimp only at hlast
    split at hlast
    · next hempty =>
      obtain ⟨rfl, hparents⟩ := Inquiry.leads_done_iff.mp hlast
      refine ⟨affiliated, resolved, [], hduns, fun _ => rfl, ?_, Except.ok.inj hparents⟩
      rw [Children.askedAbout, if_pos (show (hashesOf resolved).isEmpty = true from hempty)]
    · next hsome =>
      obtain ⟨ueis, rest, rfl, hdone⟩ := Inquiry.leads_put_bind_iff.mp hlast
      obtain ⟨rfl, hparents⟩ := Inquiry.leads_done_iff.mp hdone
      have hne : (hashesOf resolved).isEmpty ≠ true := hsome
      refine ⟨affiliated, resolved, ueis, hduns, fun h => absurd (by simp [h]) hne, ?_,
        Except.ok.inj hparents⟩
      rw [Children.askedAbout, if_neg hne]
      rfl
  · rintro ⟨affiliated, resolved, ueis, hduns, hnone, rfl, rfl⟩
    refine Inquiry.leads_put_bind_iff.mpr ⟨affiliated, _, rfl, ?_⟩
    refine Inquiry.leads_bind_ok_iff.mpr
      ⟨resolved, _, _, rfl, leads_lookUps_iff.mpr ⟨hduns, rfl⟩, ?_⟩
    dsimp only
    split
    · next hempty =>
      obtain rfl := hnone (List.isEmpty_iff.mp hempty)
      rw [Children.askedAbout, if_pos (show (hashesOf resolved).isEmpty = true from hempty)]
      exact .done _
    · next hsome =>
      rw [Children.askedAbout, if_neg (show (hashesOf resolved).isEmpty ≠ true from hsome)]
      exact .ask (.done _)

/-! ## Parents as JSON -/

/-- The fields in which an overview repeats its first parent. -/
def parentFields : List String := ["parent_id", "parent_name", "parent_duns", "parent_uei"]

theorem field?_parents (o : Overview) :
    o.toJson.field? "parents" = some (.arr (o.parents.map Parent.toJson)) := rfl

/-- An overview repeats its first parent. -/
theorem field?_firstParent (o : Overview) {name : String} (h : name ∈ parentFields) :
    o.toJson.field? name = o.firstParent.toJson.field? name := by
  simp only [parentFields, List.mem_cons, List.not_mem_nil, or_false] at h
  obtain rfl | rfl | rfl | rfl := h <;> rfl

/-- Of a parent that is not there nothing is known. -/
theorem field?_noParent {name : String} (h : name ∈ parentFields) :
    ({} : Parent).toJson.field? name = some .null := by
  simp only [parentFields, List.mem_cons, List.not_mem_nil, or_false] at h
  obtain rfl | rfl | rfl | rfl := h <;> rfl

/-- A parent in an answer shows a DUNS, what the directory has about that DUNS, and the UEI of the
hash that it has there; what is not known is null. -/
structure ShowsParent (ueis : Keyed Uuid String) (r : String × Option DirectoryEntry)
    (item : Json) : Prop where
  duns_eq : item.field? "parent_duns" = some (.str r.1)
  id_eq : item.field? "parent_id" =
    some (.option .str (r.2.map fun entry => RecipientId.render ⟨entry.hash, .parent⟩))
  name_eq : item.field? "parent_name" = some (.option .str (r.2.bind (·.name)))
  uei_eq : item.field? "parent_uei" =
    some (.option .str (r.2.bind fun entry => Keyed.get? ueis entry.hash))
  id_null_iff : item.field? "parent_id" = some .null ↔ r.2 = none
  name_null_iff : item.field? "parent_name" = some .null ↔
    ∀ entry, r.2 = some entry → entry.name = none
  uei_null_iff : item.field? "parent_uei" = some .null ↔
    ∀ entry, r.2 = some entry → Keyed.get? ueis entry.hash = none

theorem showsParent_toJson (ueis : Keyed Uuid String) (r : String × Option DirectoryEntry) :
    ShowsParent ueis r (affiliatedParent ueis r.1 r.2).toJson := by
  obtain ⟨duns, entry⟩ := r
  have hid : (affiliatedParent ueis duns entry).toJson.field? "parent_id" =
      some (.option .str (entry.map fun entry => RecipientId.render ⟨entry.hash, .parent⟩)) := by
    cases entry <;> rfl
  have hname : (affiliatedParent ueis duns entry).toJson.field? "parent_name" =
      some (.option .str (entry.bind (·.name))) := by
    cases entry <;> rfl
  have huei : (affiliatedParent ueis duns entry).toJson.field? "parent_uei" =
      some (.option .str (entry.bind fun entry => Keyed.get? ueis entry.hash)) := by
    cases entry <;> rfl
  refine ⟨?_, hid, hname, huei, ?_, ?_, ?_⟩
  · cases entry <;> rfl
  · rw [hid, Option.some.injEq, Children.option_str_eq_null_iff, Option.map_eq_none_iff]
  · rw [hname, Option.some.injEq, Children.option_str_eq_null_iff, Option.bind_eq_none_iff]
  · rw [huei, Option.some.injEq, Children.option_str_eq_null_iff, Option.bind_eq_none_iff]

/-! ## The parents of a child -/

/-- The parents in the overview of a child, by what the stores answer in `log`: one for each DUNS
that it is affiliated with. -/
structure Lineage (id : RecipientId) (log : List Answered) (answer : Json) where
  affiliated : Option (List String)
  /-- The affiliated DUNS, each with its entry in the directory. -/
  resolved : List (String × Option DirectoryEntry)
  /-- The UEIs of the hashes that were found. -/
  ueis : Keyed Uuid String
  /-- The UEI of the child itself. -/
  own : Keyed Uuid String
  items : List Json
  items_eq : answer.field? "parents" = some (.arr items)
  affiliations_eq : log.filterMap Answered.affiliations? = [(id, affiliated)]
  duns_eq : resolved.map (·.1) = affiliated.getD []
  resolved_eq : log.filterMap Answered.entryByDuns? = resolved
  shows : List.Forall₂ (ShowsParent ueis) resolved items
  /-- UEIs are asked for the child, and then once for all parents that were found. -/
  ueis_eq : log.filterMap Answered.ueis? =
    ([id.hash], own) :: if hashesOf resolved = [] then [] else [(hashesOf resolved, ueis)]
  first_eq : ∀ item, items.head? = some item →
    ∀ name ∈ parentFields, answer.field? name = item.field? name
  nothing_eq : items = [] → ∀ name ∈ parentFields, answer.field? name = some .null

theorem filterMap_entryByDuns?_lookedUp (resolved : List (String × Option DirectoryEntry)) :
    (resolved.map lookedUp).filterMap Answered.entryByDuns? = resolved := by
  rw [List.filterMap_map]
  exact List.filterMap_some

section Course

variable {now : Instant} {raw : String} {year : Option String} {log : List Answered}
  {overview : Overview}

theorem Course.parents_eq (course : Course now raw year log overview) :
    overview.parents = course.parents :=
  congrArg Overview.parents course.overview_eq

/-- The first step of the overview of a child is about the affiliations of that child. -/
theorem Course.leads_affiliatedParents (course : Course now raw year log overview)
    (hlevel : course.id.level = .child) :
    (affiliatedParents course.id).Leads course.aboutParents (.ok course.parents) := by
  have h := course.parents_led
  rw [parentsOf, hlevel] at h
  exact h

/-- The parents in the overview of a child are those that it is affiliated with. -/
theorem Course.exists_lineage (course : Course now raw year log overview)
    (hlevel : course.id.level = .child) :
    Nonempty (Lineage course.id log overview.toJson) := by
  obtain ⟨affiliated, resolved, ueis, hduns, -, hlog, hparents⟩ :=
    leads_affiliatedParents_iff.mp (course.leads_affiliatedParents hlevel)
  have hoverview : overview.parents = parentsFrom ueis resolved := course.parents_eq.trans hparents
  refine ⟨{
    affiliated, resolved, ueis
    own := course.ueis
    items := (parentsFrom ueis resolved).map Parent.toJson
    items_eq := by rw [field?_parents, hoverview]
    affiliations_eq := ?affiliations
    duns_eq := hduns
    resolved_eq := ?entries
    shows := ?shows
    ueis_eq := ?ueis
    first_eq := ?first
    nothing_eq := ?nothing }⟩
  case affiliations =>
    have hnone : (resolved.map lookedUp).filterMap Answered.affiliations? = [] :=
      filterMap_map_eq_nil (fun _ => rfl) resolved
    rw [course.filterMap_parents fun _ => Answered.affiliations?_eq_none, hlog]
    simp only [List.filterMap_cons, List.filterMap_append, hnone, Children.filterMap_askedAbout,
      Answered.affiliations?, Option.toList_none, ite_self, List.append_nil]
  case entries =>
    rw [course.filterMap_parents fun _ => Answered.entryByDuns?_eq_none, hlog]
    simp only [List.filterMap_cons, List.filterMap_append, filterMap_entryByDuns?_lookedUp,
      Children.filterMap_askedAbout, Answered.entryByDuns?, Option.toList_none, ite_self,
      List.append_nil]
  case ueis =>
    have hnone : (resolved.map lookedUp).filterMap Answered.ueis? = [] :=
      filterMap_map_eq_nil (fun _ => rfl) resolved
    rw [course.filterMap_parents fun _ => Answered.ueis?_eq_none, hlog]
    simp only [List.filterMap_cons, List.filterMap_append, hnone, Children.filterMap_askedAbout,
      Answered.ueis?, Option.toList_some, List.nil_append]
  case shows =>
    rw [parentsFrom, List.map_map, List.forall₂_map_right_iff, List.forall₂_same]
    exact fun r _ => showsParent_toJson ueis r
  case first =>
    intro item hitem name hname
    rw [List.head?_map, Option.map_eq_some_iff] at hitem
    obtain ⟨p, hp, rfl⟩ := hitem
    rw [field?_firstParent overview hname, firstParent, hoverview, hp, Option.getD_some]
  case nothing =>
    intro hnil name hname
    rw [List.map_eq_nil_iff] at hnil
    rw [field?_firstParent overview hname, firstParent, hoverview, hnil, List.head?_nil,
      Option.getD_none, field?_noParent hname]

end Course

/-- The overview of a child that is answered shows its parents: one for each affiliation. -/
theorem nonempty_lineage {σ : Type} (c : Circumstances) (b : Backend σ) (s : σ) (raw : String)
    (year : Option String) (answer : Json) (hash : Uuid)
    (child : RecipientId.parse raw = .ok ⟨hash, .child⟩)
    (answered : (((Call.overview raw year).inquiry c).run b s).result = .ok answer) :
    Nonempty (Lineage ⟨hash, .child⟩ (((Call.overview raw year).inquiry c).transcript b s)
      answer) := by
  obtain ⟨overview, rfl, ⟨course⟩⟩ := exists_course answered
  have hid : course.id = ⟨hash, .child⟩ := Except.ok.inj (course.id_eq.symm.trans child)
  rw [← hid]
  exact course.exists_lineage (by rw [hid])

open Children (parentHash sampleUuid)

/-- A child that is affiliated with a DUNS which the directory does not know, and twice with its
parent. The hash of the parent has another profile, as a recipient that stands alone. -/
def sampleHousehold : Memory where
  stores := {
    entries := [
      { hash := parentHash, name := some "PARENT CORP", duns := some "987654321",
        alternateNames := [], location := {} },
      { hash := sampleUuid 5, name := some "CHILD CORP", duns := some "555555555",
        alternateNames := [], location := {} }]
    profiles := [
      { id := ⟨parentHash, .recipient⟩, duns := some "987654321", uei := some "LONEUEI",
        affiliations := [], name := some "PARENT CORP" },
      { id := ⟨parentHash, .parent⟩, duns := some "987654321", uei := some "PARENTUEI",
        affiliations := ["555555555"], name := some "PARENT CORP" },
      { id := ⟨sampleUuid 5, .child⟩, duns := some "555555555", uei := some "CHILDUEI",
        affiliations := ["777777777", "987654321", "987654321"], name := some "CHILD CORP" }] }

/-- The stores of the household. -/
abbrev householdBackend : Backend Memory := Memory.backend {} fun _ => none

/-- What a call for an overview is answered by the stores of the household. -/
abbrev householdLog (raw : String) : List Answered :=
  ((Call.overview raw none).inquiry .sample).transcript householdBackend sampleHousehold

/-- The parents of the child in the household: one of whom only the DUNS is known, and twice the
other. -/
theorem nonempty_lineage_household :
    RecipientId.parse "55555555-5555-5555-5555-555555555555-C" = .ok ⟨sampleUuid 5, .child⟩ ∧
      ∃ answer,
        (((Call.overview "55555555-5555-5555-5555-555555555555-C" none).inquiry .sample).run
          householdBackend sampleHousehold).result = .ok answer ∧
        Nonempty (Lineage ⟨sampleUuid 5, .child⟩
          (householdLog "55555555-5555-5555-5555-555555555555-C") answer) :=
  ⟨rfl, _, rfl, nonempty_lineage _ _ _ _ _ _ _ rfl rfl⟩

end Overview

/-! ## Ids of parents -/

namespace Json

/-- An id of a parent in an answer, at the top or in the list of parents. -/
def ShowsParentId (answer id : Json) : Prop :=
  id ≠ .null ∧ (answer.field? "parent_id" = some id ∨
    ∃ items, answer.field? "parents" = some (.arr items) ∧
      ∃ item ∈ items, item.field? "parent_id" = some id)

/-- The id of a parent in its written form. -/
def IsParentId (id : Json) : Prop := ∃ hash, id = .str (RecipientId.render ⟨hash, .parent⟩)

theorem option_str_ne_null_iff {text : Option String} {j : Json} :
    some (Json.option .str text) = some j ∧ j ≠ .null ↔ ∃ t, text = some t ∧ j = .str t := by
  constructor
  · rintro ⟨h, hj⟩
    obtain rfl := Option.some.inj h
    cases text with
    | none => exact absurd rfl hj
    | some t => exact ⟨t, rfl, rfl⟩
  · rintro ⟨t, rfl, rfl⟩
    exact ⟨rfl, nofun⟩

end Json

namespace Overview

/-- The ids that an overview shows are those of its parents. The one at the top is among them. -/
theorem showsParentId_toJson_iff {o : Overview} {j : Json} :
    o.toJson.ShowsParentId j ↔ ∃ p ∈ o.parents, ∃ t, p.id = some t ∧ j = .str t := by
  have htop : o.toJson.field? "parent_id" = some (.option .str o.firstParent.id) := rfl
  have hitem (p : Parent) : p.toJson.field? "parent_id" = some (.option .str p.id) := rfl
  constructor
  · rintro ⟨hj, h | ⟨items, hitems, item, hmem, h⟩⟩
    · rw [htop] at h
      obtain ⟨t, ht, rfl⟩ := Json.option_str_ne_null_iff.mp ⟨h, hj⟩
      rw [firstParent] at ht
      cases hparents : o.parents with
      | nil => simp [hparents] at ht
      | cons p parents =>
        rw [hparents, List.head?_cons, Option.getD_some] at ht
        exact ⟨p, List.mem_cons_self, t, ht, rfl⟩
    · rw [field?_parents] at hitems
      obtain rfl := Json.arr.inj (Option.some.inj hitems)
      obtain ⟨p, hp, rfl⟩ := List.mem_map.mp hmem
      rw [hitem] at h
      exact ⟨p, hp, Json.option_str_ne_null_iff.mp ⟨h, hj⟩⟩
  · rintro ⟨p, hp, hid⟩
    obtain ⟨h, hj⟩ := Json.option_str_ne_null_iff.mpr hid
    exact ⟨hj, .inr ⟨_, field?_parents o, p.toJson, List.mem_map_of_mem hp, h⟩⟩

/-- A text that stands for a parent is its written form if and only if it is the written form of
some parent. -/
theorem isParentId_str_iff {raw : String} {id : RecipientId} (hid : RecipientId.parse raw = .ok id)
    (hlevel : id.level = .parent) : (Json.str raw).IsParentId ↔ raw = id.render := by
  constructor
  · rintro ⟨hash, h⟩
    obtain rfl := Json.str.inj h
    rw [RecipientId.parse_render] at hid
    rw [Except.ok.inj hid]
  · intro h
    obtain ⟨hash, level⟩ := id
    obtain rfl : level = .parent := hlevel
    exact ⟨hash, congrArg Json.str h⟩

/-- A child's overview names the parents that were found in the directory, each in the written form
by the hash that it has there. -/
theorem Lineage.showsParentId_iff {id : RecipientId} {log : List Answered} {answer j : Json}
    (lineage : Lineage id log answer) :
    answer.ShowsParentId j ↔ ∃ duns entry, (duns, some entry) ∈ lineage.resolved ∧
      j = .str (RecipientId.render ⟨entry.hash, .parent⟩) := by
  -- The id at the top is that of the first item.
  have hitems : answer.ShowsParentId j ↔
      ∃ item ∈ lineage.items, item.field? "parent_id" = some j ∧ j ≠ .null := by
    constructor
    · rintro ⟨hj, h | ⟨items, hitems, item, hmem, h⟩⟩
      · cases hhead : lineage.items.head? with
        | none =>
          have hnull := lineage.nothing_eq (List.head?_eq_none_iff.mp hhead) "parent_id" (by decide)
          exact absurd (Option.some.inj (h.symm.trans hnull)) hj
        | some item =>
          have hsame := lineage.first_eq item hhead "parent_id" (by decide)
          exact ⟨item, List.mem_of_head? hhead, hsame.symm.trans h, hj⟩
      · obtain rfl := Json.arr.inj (Option.some.inj (lineage.items_eq.symm.trans hitems))
        exact ⟨item, hmem, h, hj⟩
    · rintro ⟨item, hmem, h, hj⟩
      exact ⟨hj, .inr ⟨_, lineage.items_eq, item, hmem, h⟩⟩
  rw [hitems]
  constructor
  · rintro ⟨item, hmem, h, hj⟩
    obtain ⟨⟨duns, entry⟩, hr, hshows⟩ := exists_left_of_forall₂ lineage.shows hmem
    rw [hshows.id_eq] at h
    obtain ⟨t, ht, rfl⟩ := Json.option_str_ne_null_iff.mp ⟨h, hj⟩
    obtain ⟨entry, rfl, rfl⟩ := Option.map_eq_some_iff.mp ht
    exact ⟨duns, entry, hr, rfl⟩
  · rintro ⟨duns, entry, hr, rfl⟩
    obtain ⟨item, hmem, hshows⟩ := exists_right_of_forall₂ lineage.shows hr
    exact ⟨item, hmem, hshows.id_eq, nofun⟩

section Course

variable {now : Instant} {raw : String} {year : Option String} {log : List Answered}
  {overview : Overview} {j : Json}

/-- A recipient that stands alone has no parents. -/
theorem Course.not_showsParentId (course : Course now raw year log overview)
    (hlevel : course.id.level = .recipient) : ¬ overview.toJson.ShowsParentId j := by
  have hparents := course.parents_led
  rw [parentsOf, hlevel] at hparents
  obtain ⟨-, hnil⟩ := Inquiry.leads_done_iff.mp hparents
  rw [showsParentId_toJson_iff, course.parents_eq, Except.ok.inj hnil]
  simp

/-- The overview of a parent names it as the client does. -/
theorem Course.showsParentId_iff_raw (course : Course now raw year log overview)
    (hlevel : course.id.level = .parent) : overview.toJson.ShowsParentId j ↔ j = .str raw := by
  have hparents := course.parents_led
  rw [parentsOf, hlevel] at hparents
  obtain ⟨-, hself⟩ := Inquiry.leads_done_iff.mp hparents
  rw [showsParentId_toJson_iff, course.parents_eq, Except.ok.inj hself]
  simp

end Course

/-- All parents in an overview are named in the written form, unless it is the overview of a parent
that the client spells otherwise. -/
theorem canonical_parents_iff {σ : Type} (c : Circumstances) (b : Backend σ) (s : σ) (raw : String)
    (year : Option String) (answer : Json)
    (answered : (((Call.overview raw year).inquiry c).run b s).result = .ok answer) :
    ∃ id, RecipientId.parse raw = .ok id ∧
      (id.level = .parent → ∀ j, answer.ShowsParentId j ↔ j = .str raw) ∧
      (id.level = .child → ∀ j, answer.ShowsParentId j ↔ ∃ duns entry,
        (duns, some entry) ∈
          (((Call.overview raw year).inquiry c).transcript b s).filterMap Answered.entryByDuns? ∧
        j = .str (RecipientId.render ⟨entry.hash, .parent⟩)) ∧
      (id.level = .recipient → ∀ j, ¬ answer.ShowsParentId j) ∧
      ((∀ j, answer.ShowsParentId j → j.IsParentId) ↔ (id.level = .parent → raw = id.render)) := by
  obtain ⟨overview, rfl, ⟨course⟩⟩ := exists_course answered
  have hparent (hlevel : course.id.level = .parent) (j : Json) :
      overview.toJson.ShowsParentId j ↔ j = .str raw := course.showsParentId_iff_raw hlevel
  have hchild (hlevel : course.id.level = .child) (j : Json) :
      overview.toJson.ShowsParentId j ↔ ∃ duns entry,
        (duns, some entry) ∈
          (((Call.overview raw year).inquiry c).transcript b s).filterMap Answered.entryByDuns? ∧
        j = .str (RecipientId.render ⟨entry.hash, .parent⟩) := by
    obtain ⟨lineage⟩ := course.exists_lineage hlevel
    rw [lineage.resolved_eq]
    exact lineage.showsParentId_iff
  have halone (hlevel : course.id.level = .recipient) (j : Json) :
      ¬ overview.toJson.ShowsParentId j := course.not_showsParentId hlevel
  refine ⟨course.id, course.id_eq, hparent, hchild, halone, ?_⟩
  -- Only a parent can be named otherwise, and only by the text of the client.
  cases hlevel : course.id.level with
  | parent =>
    rw [← isParentId_str_iff course.id_eq hlevel]
    simp [hparent hlevel]
  | child =>
    refine iff_of_true (fun j hj => ?_) nofun
    obtain ⟨-, entry, -, rfl⟩ := (hchild hlevel j).mp hj
    exact ⟨entry.hash, rfl⟩
  | recipient => exact iff_of_true (fun j hj => absurd hj (halone hlevel j)) nofun

/-- The parent of the household is named in the written form, as the client spells it. -/
theorem canonical_parents_household :
    ∃ answer, (((Call.overview "11111111-1111-1111-1111-111111111111-P" none).inquiry .sample).run
        householdBackend sampleHousehold).result = .ok answer ∧
      ∃ id, RecipientId.parse "11111111-1111-1111-1111-111111111111-P" = .ok id ∧
        (id.level = .parent →
          ∀ j, answer.ShowsParentId j ↔ j = .str "11111111-1111-1111-1111-111111111111-P") ∧
        (id.level = .child → ∀ j, answer.ShowsParentId j ↔ ∃ duns entry,
          (duns, some entry) ∈ (householdLog "11111111-1111-1111-1111-111111111111-P").filterMap
            Answered.entryByDuns? ∧
          j = .str (RecipientId.render ⟨entry.hash, .parent⟩)) ∧
        (id.level = .recipient → ∀ j, ¬ answer.ShowsParentId j) ∧
        ((∀ j, answer.ShowsParentId j → j.IsParentId) ↔
          (id.level = .parent → "11111111-1111-1111-1111-111111111111-P" = id.render)) :=
  ⟨_, rfl, canonical_parents_iff _ _ _ _ _ _ rfl⟩

/-- Spelled without hyphens the parent is named so in its own overview, in no written form of any
parent. -/
theorem not_canonical_parents_unhyphenated :
    ∃ answer, (((Call.overview "11111111111111111111111111111111-P" none).inquiry .sample).run
        householdBackend sampleHousehold).result = .ok answer ∧
      ¬ ∀ j, answer.ShowsParentId j → j.IsParentId := by
  refine ⟨_, rfl, fun h => ?_⟩
  have hid : RecipientId.parse "11111111111111111111111111111111-P" =
      .ok ⟨Children.parentHash, .parent⟩ := rfl
  have hraw := h (.str "11111111111111111111111111111111-P") ⟨nofun, .inl rfl⟩
  exact absurd ((isParentId_str_iff hid rfl).mp hraw) (by decide)

end Overview

end Outlays

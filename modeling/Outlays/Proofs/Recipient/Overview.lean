import Outlays.Call
import Outlays.Proofs.Inquiry.Questions
import Outlays.Proofs.Recipient.Children

/-!
# How an overview is made

A call for the overview of a recipient checks the year and the id, makes sure that the recipient is
known, and then puts its overview together in four steps: the parents, the location, the business
types and the totals. This file says, once, in which order the stores are asked and what comes of
their answers. Each of the first three steps keeps its own part of the log, and the files about
parents, locations and business types go on from there.

## Main definitions

* `Overview.Course` — the course of a call for an overview that succeeds

## Main results

* `Overview.leads_ask_iff` — the answers in a log lead a call to this overview if and only if they
  are the course of such a call
* `Overview.leads_call_iff`, `Overview.exists_course` — the answer to a call is the overview of its
  course, as JSON
-/

namespace Outlays

namespace Overview

/-- The directory knows a name or a DUNS of the recipient. -/
def Listed (entry : DirectoryEntry) : Prop := (entry.name.isSome || entry.duns.isSome) = true

theorem leads_entryOf_iff {hash : Uuid} {entry : DirectoryEntry} {log : List Answered} :
    (entryOf hash).Leads log (.ok entry) ↔
      Listed entry ∧ log = [⟨.findEntry hash, some entry⟩] := by
  constructor
  · intro h
    obtain ⟨found, rest, rfl, hrest⟩ := Inquiry.leads_put_bind_iff.mp h
    cases found with
    | none => exact absurd hrest Inquiry.not_leads_refuse_ok
    | some found =>
      dsimp only at hrest
      split at hrest
      · next hlisted =>
        obtain ⟨rfl, hentry⟩ := Inquiry.leads_done_iff.mp hrest
        obtain rfl := Except.ok.inj hentry
        exact ⟨hlisted, rfl⟩
      · exact absurd hrest Inquiry.not_leads_refuse_ok
  · rintro ⟨hlisted, rfl⟩
    refine Inquiry.leads_put_bind_iff.mpr ⟨some entry, [], rfl, ?_⟩
    dsimp only
    rw [if_pos (show (entry.name.isSome || entry.duns.isSome) = true from hlisted)]
    exact .done entry

/-- The course of a call for an overview that succeeds: what it chooses, what the stores answer in
`log`, and the overview that comes of it. -/
structure Course (now : Instant) (raw : String) (year : Option String) (log : List Answered)
    (overview : Overview) where
  chosen : YearFilter
  id : RecipientId
  window : TimePeriod
  entry : DirectoryEntry
  ueis : Keyed Uuid String
  parents : List Parent
  location : Location
  types : List String
  totals : List Totals
  /-- The questions about parents, answered. -/
  aboutParents : List Answered
  /-- The questions about the location, answered. -/
  aboutLocation : List Answered
  /-- The questions about business types, answered. -/
  aboutTypes : List Answered
  year_eq : YearFilter.parse year = .ok chosen
  id_eq : RecipientId.parse raw = .ok id
  window_eq : chosen.window now.date = .ok window
  listed : Listed entry
  parents_led :
    (parentsOf id raw entry (Keyed.get? ueis id.hash)).Leads aboutParents (.ok parents)
  location_led : (locationOf entry.location).Leads aboutLocation (.ok location)
  types_led : (businessTypesOf entry).Leads aboutTypes (.ok types)
  log_eq : log =
    ⟨.profileExists id, true⟩ :: ⟨.findEntry id.hash, some entry⟩ ::
      ⟨.profileUeis [id.hash], ueis⟩ ::
      (aboutParents ++ (aboutLocation ++ (aboutTypes ++
        [⟨.recipientTotals { timePeriods := [window], recipientId := some id }
          (groupingOf id.level), totals⟩])))
  overview_eq : overview =
    { name := entry.name
      alternateNames := Text.sorted entry.alternateNames
      duns := entry.duns
      uei := Keyed.get? ueis id.hash
      recipientId := raw
      level := id.level
      parents
      businessTypes := types
      location
      totals := totals.head?.getD {} }

/-- The answers in a log lead a call to this overview if and only if they are the course of such a
call. -/
theorem leads_ask_iff {now : Instant} {raw : String} {year : Option String} {log : List Answered}
    {overview : Overview} :
    (ask now raw year).Leads log (.ok overview) ↔
      Nonempty (Course now raw year log overview) := by
  constructor
  · intro h
    obtain ⟨chosen, hchosen, hrest⟩ := Inquiry.leads_ofExcept_bind_iff.mp h
    obtain ⟨id, hid, hrest⟩ := Inquiry.leads_ofExcept_bind_iff.mp hrest
    obtain ⟨known, rest, rfl, hknown⟩ := Inquiry.leads_put_bind_iff.mp hrest
    clear h hrest
    cases known with
    | false => exact absurd hknown Inquiry.not_leads_refuse_ok
    | true =>
      -- Each step takes its own part off the log.
      obtain ⟨entry, first, afterEntry, rfl, hentry, hrest⟩ := Inquiry.leads_bind_ok_iff.mp hknown
      obtain ⟨ueis, afterUeis, rfl, hueis⟩ := Inquiry.leads_put_bind_iff.mp hrest
      obtain ⟨parents, aboutParents, afterParents, rfl, hparents, hlocated⟩ :=
        Inquiry.leads_bind_ok_iff.mp hueis
      obtain ⟨location, aboutLocation, afterLocation, rfl, hlocation, htyped⟩ :=
        Inquiry.leads_bind_ok_iff.mp hlocated
      obtain ⟨types, aboutTypes, last, rfl, htypes, hlast⟩ := Inquiry.leads_bind_ok_iff.mp htyped
      obtain ⟨totals, htotals, rfl⟩ := Inquiry.leads_bind_done_iff.mp hlast
      obtain ⟨hlisted, rfl⟩ := leads_entryOf_iff.mp hentry
      obtain ⟨window, hwindow, rfl⟩ := Children.leads_totalsOf_iff.mp htotals
      exact ⟨⟨chosen, id, window, entry, ueis, parents, location, types, totals, aboutParents,
        aboutLocation, aboutTypes, hchosen, hid, hwindow, hlisted, hparents, hlocation, htypes,
        rfl, rfl⟩⟩
  · rintro ⟨course⟩
    obtain ⟨chosen, id, window, entry, ueis, parents, location, types, totals, aboutParents,
      aboutLocation, aboutTypes, hchosen, hid, hwindow, hlisted, hparents, hlocation, htypes, rfl,
      rfl⟩ := course
    refine Inquiry.leads_ofExcept_bind_iff.mpr ⟨chosen, hchosen, ?_⟩
    refine Inquiry.leads_ofExcept_bind_iff.mpr ⟨id, hid, ?_⟩
    refine Inquiry.leads_put_bind_iff.mpr ⟨true, _, rfl, ?_⟩
    refine Inquiry.leads_bind_ok_iff.mpr ⟨entry, [_], _, rfl,
      leads_entryOf_iff.mpr ⟨hlisted, rfl⟩, ?_⟩
    refine Inquiry.leads_put_bind_iff.mpr ⟨ueis, _, rfl, ?_⟩
    refine Inquiry.leads_bind_ok_iff.mpr ⟨parents, _, _, rfl, hparents, ?_⟩
    refine Inquiry.leads_bind_ok_iff.mpr ⟨location, _, _, rfl, hlocation, ?_⟩
    refine Inquiry.leads_bind_ok_iff.mpr ⟨types, _, _, rfl, htypes, ?_⟩
    exact Inquiry.leads_bind_done_iff.mpr ⟨totals,
      Children.leads_totalsOf_iff.mpr ⟨window, hwindow, rfl⟩, rfl⟩

/-! ## The parts of a log -/

section Course

variable {now : Instant} {raw : String} {year : Option String} {log : List Answered}
  {overview : Overview} {γ : Type} {pick : Answered → Option γ}

/-- What is told by the answers about one topic is not told by those about another. -/
theorem filterMap_eq_nil {topic topic' : Topic} (hpick : ∀ a, ¬ a.1.About topic → pick a = none)
    (hlog : ∀ a ∈ log, a.1.About topic') (hne : topic' ≠ topic) : log.filterMap pick = [] := by
  rw [List.filterMap_eq_nil_iff]
  intro a ha
  exact hpick a fun h => hne ((hlog a ha).eq h)

/-- Answers of a kind that tells nothing tell nothing, however many. -/
theorem filterMap_map_eq_nil {α : Type} {answered : α → Answered}
    (h : ∀ a, pick (answered a) = none) (xs : List α) :
    (xs.map answered).filterMap pick = [] := by
  rw [List.filterMap_map]
  exact List.filterMap_eq_nil_iff.mpr fun a _ => h a

theorem Course.about_parents (course : Course now raw year log overview) :
    ∀ a ∈ course.aboutParents, a.1.About .parents :=
  (asks_parentsOf _ _ _ _).forall_mem_of_leads course.parents_led

theorem Course.about_location (course : Course now raw year log overview) :
    ∀ a ∈ course.aboutLocation, a.1.About .location :=
  (asks_locationOf _).forall_mem_of_leads course.location_led

theorem Course.about_types (course : Course now raw year log overview) :
    ∀ a ∈ course.aboutTypes, a.1.About .types :=
  (asks_businessTypesOf _).forall_mem_of_leads course.types_led

/-- What a log tells about these topics is told by the answer about the recipient's own UEI and in
the first three steps. -/
theorem Course.filterMap_eq (course : Course now raw year log overview)
    (hpick : ∀ a, (∀ topic, ¬ a.1.About topic) → pick a = none) :
    log.filterMap pick =
      (⟨.profileUeis [course.id.hash], course.ueis⟩ :: course.aboutParents).filterMap pick ++
        (course.aboutLocation.filterMap pick ++ course.aboutTypes.filterMap pick) := by
  -- Questions about the recipient itself and about its totals are about none of the topics.
  have hknown : pick ⟨.profileExists course.id, true⟩ = none :=
    hpick _ (by rintro (_ | _ | _) h <;> exact h)
  have hentry : pick ⟨.findEntry course.id.hash, some course.entry⟩ = none :=
    hpick _ (by rintro (_ | _ | _) h <;> exact h)
  have htotals (filters : TransactionFilters) (grouping : Grouping) :
      pick ⟨.recipientTotals filters grouping, course.totals⟩ = none :=
    hpick _ (by rintro (_ | _ | _) h <;> exact h)
  refine (congrArg (List.filterMap pick) course.log_eq).trans ?_
  rw [List.filterMap_cons_none hknown, List.filterMap_cons_none hentry, ← List.cons_append,
    List.filterMap_append, List.filterMap_append, List.filterMap_append,
    List.filterMap_cons_none (htotals _ _), List.filterMap_nil, List.append_nil]

theorem Course.filterMap_parents (course : Course now raw year log overview)
    (hpick : ∀ a, ¬ a.1.About .parents → pick a = none) :
    log.filterMap pick =
      (⟨.profileUeis [course.id.hash], course.ueis⟩ :: course.aboutParents).filterMap pick := by
  rw [course.filterMap_eq fun a h => hpick a (h .parents),
    filterMap_eq_nil hpick course.about_location nofun,
    filterMap_eq_nil hpick course.about_types nofun, List.append_nil, List.append_nil]

theorem Course.filterMap_types (course : Course now raw year log overview)
    (hpick : ∀ a, ¬ a.1.About .types → pick a = none) :
    log.filterMap pick = course.aboutTypes.filterMap pick := by
  have hueis : pick ⟨.profileUeis [course.id.hash], course.ueis⟩ = none := hpick _ fun h => h
  rw [course.filterMap_eq fun a h => hpick a (h .types), List.filterMap_cons_none hueis,
    filterMap_eq_nil hpick course.about_parents nofun,
    filterMap_eq_nil hpick course.about_location nofun, List.nil_append, List.nil_append]

theorem Course.filterMap_location (course : Course now raw year log overview)
    (hpick : ∀ a, ¬ a.1.About .location → pick a = none) :
    log.filterMap pick = course.aboutLocation.filterMap pick := by
  have hueis : pick ⟨.profileUeis [course.id.hash], course.ueis⟩ = none := hpick _ fun h => h
  rw [course.filterMap_eq fun a h => hpick a (h .location), List.filterMap_cons_none hueis,
    filterMap_eq_nil hpick course.about_parents nofun,
    filterMap_eq_nil hpick course.about_types nofun, List.nil_append, List.append_nil]

end Course

/-- The answer to a call for an overview is the overview, as JSON. -/
theorem leads_call_iff {c : Circumstances} {raw : String} {year : Option String}
    {log : List Answered} {answer : Json} :
    ((Call.overview raw year).inquiry c).Leads log (.ok answer) ↔
      ∃ overview, (ask c.now raw year).Leads log (.ok overview) ∧ answer = overview.toJson :=
  Inquiry.leads_bind_done_iff

/-- A call for an overview that succeeds has run its course. -/
theorem exists_course {σ : Type} {b : Backend σ} {c : Circumstances} {s : σ} {raw : String}
    {year : Option String} {answer : Json}
    (answered : (((Call.overview raw year).inquiry c).run b s).result = .ok answer) :
    ∃ overview : Overview, answer = overview.toJson ∧
      Nonempty (Course c.now raw year (((Call.overview raw year).inquiry c).transcript b s)
        overview) := by
  obtain ⟨overview, hoverview, rfl⟩ := leads_call_iff.mp (Inquiry.leads_transcript b answered)
  exact ⟨overview, rfl, leads_ask_iff.mp hoverview⟩

end Overview

end Outlays

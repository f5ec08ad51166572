import Outlays.Proofs.Recipient.Join
import Outlays.Proofs.Recipient.Overview
import Outlays.Proofs.Text.Sorted

/-!
# The business types in an overview

Codes set flags, and flags put a business into categories. Several codes may set one flag and
several flags may stand for one category; but each step looks at single codes and flags only, so the
categories of a registration are those of its codes, each taken alone. The overview puts those of
the latest transaction with them, in a sorted set. Therefore neither the order of codes counts, nor
how often or in which place a code stands, nor one that is not known; and a code more can only add.

## Main definitions

* `BusinessFlag.categoriesOf` — the categories of a code taken alone
* `Overview.Merged` — business types put together from a registration and a transaction
* `Overview.reregister` — answers with registrations that are changed

## Main results

* `Overview.mem_registeredCategories_iff` — the categories of a registration are those of its codes
* `Overview.leads_businessTypesOf_iff` — which answers lead to which business types
* `Overview.exists_businessTypes` — the business types in an overview, and what they depend on
-/

namespace Outlays

/-! ## Categories of codes -/

namespace BusinessFlag

variable {flag : BusinessFlag} {flags : List BusinessFlag} {category code : String}

theorem mem_all (flag : BusinessFlag) : flag ∈ all := by
  cases flag <;> decide

theorem mem_ofRegistration_iff {typeCodes : List String} {structureCode : Option String} :
    flag ∈ ofRegistration typeCodes structureCode ↔
      ∃ code ∈ typeCodes ++ structureCode.toList, ofCode? code = some flag := by
  rw [ofRegistration, List.mem_filter, List.contains_iff_mem, List.mem_filterMap]
  exact and_iff_right (mem_all flag)

theorem mem_categories_iff :
    category ∈ categories flags ↔
      ∃ flag ∈ flags, ∃ rule ∈ rules, rule.1 = category ∧ flag ∈ rule.2 := by
  rw [categories, Text.mem_sortedSet, List.mem_map]
  constructor
  · rintro ⟨rule, hrule, rfl⟩
    obtain ⟨hmem, hany⟩ := List.mem_filter.mp hrule
    obtain ⟨flag, hflag, hin⟩ := List.any_eq_true.mp hany
    exact ⟨flag, List.contains_iff_mem.mp hin, rule, hmem, rfl, hflag⟩
  · rintro ⟨flag, hin, rule, hmem, rfl, hflag⟩
    refine ⟨rule, List.mem_filter.mpr ⟨hmem, ?_⟩, rfl⟩
    exact List.any_eq_true.mpr ⟨flag, hflag, List.contains_iff_mem.mpr hin⟩

/-- The categories of a code taken alone. -/
def categoriesOf (code : String) : List String := categories (ofRegistration [code] none)

theorem mem_categoriesOf_iff :
    category ∈ categoriesOf code ↔
      ∃ flag, ofCode? code = some flag ∧ ∃ rule ∈ rules, rule.1 = category ∧ flag ∈ rule.2 := by
  simp [categoriesOf, mem_categories_iff, mem_ofRegistration_iff]

end BusinessFlag

namespace Registration

/-- All codes of a registration. -/
def codes (r : Registration) : List String := r.typeCodes ++ r.structureCode.toList

/-- The codes of a registration that set a flag. -/
def knownCodes (r : Registration) : List String :=
  r.codes.filter fun code => (BusinessFlag.ofCode? code).isSome

end Registration

namespace Overview

variable {registration : Option Registration}

/-- The categories of a registration are those of its codes, each taken alone. -/
theorem mem_registeredCategories_iff {category : String} :
    category ∈ registeredCategories registration ↔
      ∃ r, registration = some r ∧ ∃ code ∈ r.codes, category ∈ BusinessFlag.categoriesOf code := by
  cases registration with
  | none => simp [registeredCategories]
  | some r =>
    simp only [registeredCategories, BusinessFlag.mem_categories_iff,
      BusinessFlag.mem_ofRegistration_iff, BusinessFlag.mem_categoriesOf_iff, Registration.codes,
      Option.some.injEq, exists_eq_left']
    -- Either side names a code, a flag that it sets and a rule for the flag.
    constructor
    · rintro ⟨flag, ⟨code, hcode, hflag⟩, hrule⟩
      exact ⟨code, hcode, flag, hflag, hrule⟩
    · rintro ⟨code, hcode, flag, hflag, hrule⟩
      exact ⟨flag, ⟨code, hcode, hflag⟩, hrule⟩

/-- Only codes that are known put a business into categories. -/
theorem registeredCategories_subset {other : Option Registration}
    (h : ∀ r ∈ registration, ∃ r' ∈ other, r.knownCodes ⊆ r'.knownCodes) :
    registeredCategories registration ⊆ registeredCategories other := by
  intro category hcategory
  obtain ⟨r, hr, code, hcode, hof⟩ := mem_registeredCategories_iff.mp hcategory
  obtain ⟨flag, hflag, -⟩ := BusinessFlag.mem_categoriesOf_iff.mp hof
  have hknown : code ∈ r.knownCodes :=
    List.mem_filter.mpr ⟨hcode, by rw [hflag, Option.isSome_some]⟩
  obtain ⟨r', hr', hsub⟩ := h r hr
  have hkept : code ∈ r'.codes := (List.mem_filter.mp (hsub hknown)).1
  exact mem_registeredCategories_iff.mpr ⟨r', hr', code, hkept, hof⟩

end Overview

/-! ## What a log tells about business types -/

namespace Answered

/-- Under which name and DUNS a registration was looked for, and what was found. -/
def registration? : Answered → Option ((String × String) × Option Registration)
  | ⟨.latestRegistration name duns, registration⟩ => some ((name, duns), registration)
  | _ => none

/-- Of which hash the latest transaction was looked for, from which day on, and its categories. -/
def traded? : Answered → Option ((Uuid × Date) × List String)
  | ⟨.latestCategories hash since, categories⟩ => some ((hash, since), categories)
  | _ => none

variable {a : Answered}

theorem registration?_eq_none (h : ¬ a.1.About .types) : a.registration? = none := by
  obtain ⟨q, answer⟩ := a
  cases q <;> first | rfl | exact absurd trivial h

theorem traded?_eq_none (h : ¬ a.1.About .types) : a.traded? = none := by
  obtain ⟨q, answer⟩ := a
  cases q <;> first | rfl | exact absurd trivial h

end Answered

/-- The name and the DUNS of an entry, where both are known. -/
def DirectoryEntry.nameAndDuns? (entry : DirectoryEntry) : Option (String × String) :=
  entry.name.bind fun name => entry.duns.map (name, ·)

namespace Overview

variable {entry : DirectoryEntry} {types : List String} {log : List Answered}

/-- The question after a registration, answered, where there is a name and a DUNS to ask with. -/
def aboutRegistration (entry : DirectoryEntry) (registration : Option Registration) :
    List Answered :=
  entry.nameAndDuns?.toList.map fun key => ⟨.latestRegistration key.1 key.2, registration⟩

theorem categoriesByRegistration_eq (entry : DirectoryEntry) :
    categoriesByRegistration entry =
      match entry.nameAndDuns? with
      | some key => do
        return registeredCategories (← Inquiry.put (.latestRegistration key.1 key.2))
      | none => return [] := by
  rw [categoriesByRegistration, DirectoryEntry.nameAndDuns?]
  cases entry.name <;> cases entry.duns <;> rfl

theorem leads_categoriesByRegistration_iff {categories : List String} :
    (categoriesByRegistration entry).Leads log (.ok categories) ↔
      ∃ registration, (entry.nameAndDuns? = none → registration = none) ∧
        log = aboutRegistration entry registration ∧
        categories = registeredCategories registration := by
  rw [categoriesByRegistration_eq]
  simp only [aboutRegistration]
  -- Nothing is asked where the name or the DUNS is missing.
  cases entry.nameAndDuns? with
  | none =>
    constructor
    · intro h
      obtain ⟨rfl, hnil⟩ := Inquiry.leads_done_iff.mp h
      exact ⟨none, fun _ => rfl, rfl, Except.ok.inj hnil⟩
    · rintro ⟨registration, hnone, rfl, rfl⟩
      obtain rfl := hnone rfl
      exact .done []
  | some key =>
    constructor
    · intro h
      obtain ⟨registration, hput, rfl⟩ := Inquiry.leads_bind_done_iff.mp h
      exact ⟨registration, nofun, Inquiry.leads_put_iff.mp hput, rfl⟩
    · rintro ⟨registration, -, rfl, rfl⟩
      exact Inquiry.leads_bind_done_iff.mpr ⟨registration, Inquiry.leads_put_iff.mpr rfl, rfl⟩

/-- A special name ends the step. Otherwise the latest transaction is asked for after the
registration. -/
theorem leads_businessTypesOf_iff :
    (businessTypesOf entry).Leads log (.ok types) ↔
      (entry.name.any isSpecialCase = true ∧ log = [] ∧ types = []) ∨
      (entry.name.any isSpecialCase = false ∧ ∃ registration traded,
        (entry.nameAndDuns? = none → registration = none) ∧
        log = aboutRegistration entry registration ++
          [⟨.latestCategories entry.hash searchStart, traded⟩] ∧
        types = Text.sortedSet (registeredCategories registration ++ traded)) := by
  rw [businessTypesOf]
  cases entry.name.any isSpecialCase with
  | true => simp
  | false =>
    simp only [Bool.false_eq_true, if_false, false_and, false_or, true_and]
    constructor
    · intro h
      obtain ⟨categories, first, rest, rfl, hfirst, hrest⟩ := Inquiry.leads_bind_ok_iff.mp h
      obtain ⟨registration, hnone, rfl, rfl⟩ := leads_categoriesByRegistration_iff.mp hfirst
      obtain ⟨traded, hput, rfl⟩ := Inquiry.leads_bind_done_iff.mp hrest
      exact ⟨registration, traded, hnone, by rw [Inquiry.leads_put_iff.mp hput], rfl⟩
    · rintro ⟨registration, traded, hnone, rfl, rfl⟩
      refine Inquiry.leads_bind_ok_iff.mpr ⟨_, _, _, rfl,
        leads_categoriesByRegistration_iff.mpr ⟨registration, hnone, rfl, rfl⟩, ?_⟩
      exact Inquiry.leads_bind_done_iff.mpr ⟨traded, Inquiry.leads_put_iff.mpr rfl, rfl⟩

theorem filterMap_registration?_aboutRegistration (registration : Option Registration) :
    (aboutRegistration entry registration).filterMap Answered.registration? =
      entry.nameAndDuns?.toList.map (·, registration) := by
  rw [aboutRegistration, List.filterMap_map]
  exact congrFun (List.filterMap_eq_map (f := (·, registration))) _

/-! ## The business types of an overview -/

/-- Business types put together from a registration and the latest transaction, by what the stores
answer in `log`. -/
structure Merged (entry : DirectoryEntry) (log : List Answered) (types : List String) where
  registration : Option Registration
  /-- The categories of the latest transaction. -/
  traded : List String
  registration_eq : log.filterMap Answered.registration? =
    entry.nameAndDuns?.toList.map (·, registration)
  unregistered : entry.nameAndDuns? = none → registration = none
  traded_eq : log.filterMap Answered.traded? = [((entry.hash, searchStart), traded)]
  mem_iff : ∀ t, t ∈ types ↔ t ∈ traded ∨
    ∃ r, registration = some r ∧ ∃ code ∈ r.codes, t ∈ BusinessFlag.categoriesOf code
  increasing : types.Pairwise (· < ·)

/-- The business types of the recipient that a call is about. -/
structure Typing (raw : String) (log : List Answered) (types : List String) where
  id : RecipientId
  entry : DirectoryEntry
  id_eq : RecipientId.parse raw = .ok id
  entry_mem : ⟨.findEntry id.hash, some entry⟩ ∈ log
  special : entry.name.any isSpecialCase = true → types = [] ∧
    log.filterMap Answered.registration? = [] ∧ log.filterMap Answered.traded? = []
  ordinary : entry.name.any isSpecialCase = false → Nonempty (Merged entry log types)

theorem Course.types_eq {now : Instant} {raw : String} {year : Option String}
    {overview : Overview} (course : Course now raw year log overview) :
    overview.businessTypes = course.types :=
  congrArg Overview.businessTypes course.overview_eq

theorem Course.exists_typing {now : Instant} {raw : String} {year : Option String}
    {overview : Overview} (course : Course now raw year log overview) :
    Nonempty (Typing raw log overview.businessTypes) := by
  have hregistration := course.filterMap_types fun _ => Answered.registration?_eq_none
  have htraded := course.filterMap_types fun _ => Answered.traded?_eq_none
  have hled := leads_businessTypesOf_iff.mp course.types_led
  refine ⟨{
    id := course.id
    entry := course.entry
    id_eq := course.id_eq
    entry_mem := by simp [course.log_eq]
    special := fun hspecial => ?_
    ordinary := fun hordinary => ?_ }⟩
  · obtain ⟨-, hlog, hnil⟩ | ⟨hordinary, -⟩ := hled
    · rw [hregistration, htraded, hlog]
      exact ⟨course.types_eq.trans hnil, rfl, rfl⟩
    · exact absurd (hspecial.symm.trans hordinary) nofun
  · obtain ⟨hspecial, -⟩ | ⟨-, registration, traded, hnone, hlog, hset⟩ := hled
    · exact absurd (hspecial.symm.trans hordinary) nofun
    refine ⟨{
      registration, traded
      registration_eq := ?_
      unregistered := hnone
      traded_eq := ?_
      mem_iff := fun t => ?_
      increasing := ?_ }⟩
    · rw [hregistration, hlog, List.filterMap_append, filterMap_registration?_aboutRegistration]
      exact List.append_nil _
    · have hnone : (aboutRegistration course.entry registration).filterMap Answered.traded? = [] :=
        filterMap_map_eq_nil (fun _ => rfl) _
      rw [htraded, hlog, List.filterMap_append, hnone]
      rfl
    · rw [course.types_eq, hset, Text.mem_sortedSet, List.mem_append, or_comm,
        mem_registeredCategories_iff]
    · rw [course.types_eq, hset]
      exact Text.sortedSet_pairwise _

/-! ## Registrations that are changed -/

/-- Answers in which every registration is changed. -/
def reregister (f : Registration → Registration) : (q : Question) → q.Answer → q.Answer
  | .latestRegistration _ _, registration => Option.map f registration
  | _, answer => answer

variable {f : Registration → Registration}

theorem reregister_eq {q : Question} (h : ¬ q.About .types) (answer : q.Answer) :
    reregister f q answer = answer := by
  cases q <;> first | rfl | exact absurd trivial h

theorem map_reregister_eq (h : ∀ a ∈ log, ¬ a.1.About .types) :
    log.map (Answered.revise (reregister f)) = log := by
  refine (List.map_congr_left fun a ha => ?_).trans (List.map_id log)
  rw [Answered.revise, reregister_eq (h a ha), id]

theorem map_reregister_aboutRegistration (entry : DirectoryEntry)
    (registration : Option Registration) :
    (aboutRegistration entry registration).map (Answered.revise (reregister f)) =
      aboutRegistration entry (registration.map f) :=
  List.map_map

/-- Where no registration loses a known code, business types are only added; where none gains one
either, they are the same. -/
theorem exists_leads_reregister (keeps : ∀ r, r.knownCodes ⊆ (f r).knownCodes)
    (h : (businessTypesOf entry).Leads log (.ok types)) :
    ∃ types', types ⊆ types' ∧ ((∀ r, (f r).knownCodes ⊆ r.knownCodes) → types' = types) ∧
      (businessTypesOf entry).Leads (log.map (Answered.revise (reregister f))) (.ok types') := by
  obtain ⟨hspecial, rfl, rfl⟩ | ⟨hspecial, registration, traded, hnone, rfl, rfl⟩ :=
    leads_businessTypesOf_iff.mp h
  -- A special name has no business types, whatever is registered under it.
  · exact ⟨[], List.Subset.refl _, fun _ => rfl, h⟩
  have hsub : registeredCategories registration ⊆ registeredCategories (registration.map f) :=
    registeredCategories_subset fun r hr => ⟨f r, Option.mem_map_of_mem f hr, keeps r⟩
  have hback (gainless : ∀ r, (f r).knownCodes ⊆ r.knownCodes) :
      registeredCategories (registration.map f) ⊆ registeredCategories registration := by
    refine registeredCategories_subset fun r' hr' => ?_
    obtain ⟨r, hr, rfl⟩ := Option.map_eq_some_iff.mp hr'
    exact ⟨r, hr, gainless r⟩
  refine ⟨Text.sortedSet (registeredCategories (registration.map f) ++ traded), ?_, ?_, ?_⟩
  · intro t ht
    rw [Text.mem_sortedSet, List.mem_append] at ht ⊢
    exact ht.imp (fun h => hsub h) id
  · intro gainless
    refine Text.sortedSet_eq_iff.mpr fun t => ?_
    rw [List.mem_append, List.mem_append]
    exact or_congr_left ⟨fun h => hback gainless h, fun h => hsub h⟩
  · refine leads_businessTypesOf_iff.mpr (.inr ⟨hspecial, registration.map f, traded, ?_, ?_, rfl⟩)
    · intro hunnamed
      rw [hnone hunnamed, Option.map_none]
    rw [List.map_append, map_reregister_aboutRegistration]
    rfl

/-- The rest of an overview does not depend on registrations. -/
theorem Course.exists_reregistered {now : Instant} {raw : String} {year : Option String}
    {overview : Overview} (course : Course now raw year log overview)
    (h : (businessTypesOf course.entry).Leads
      (course.aboutTypes.map (Answered.revise (reregister f))) (.ok types)) :
    Nonempty (Course now raw year (log.map (Answered.revise (reregister f)))
      { overview with businessTypes := types }) := by
  refine ⟨{
    chosen := course.chosen
    id := course.id
    window := course.window
    entry := course.entry
    ueis := course.ueis
    parents := course.parents
    location := course.location
    types
    totals := course.totals
    aboutParents := course.aboutParents
    aboutLocation := course.aboutLocation
    aboutTypes := course.aboutTypes.map (Answered.revise (reregister f))
    year_eq := course.year_eq
    id_eq := course.id_eq
    window_eq := course.window_eq
    listed := course.listed
    parents_led := course.parents_led
    location_led := course.location_led
    types_led := h
    log_eq := ?log
    overview_eq := congrArg (fun o => { o with businessTypes := types }) course.overview_eq }⟩
  -- The answers about parents and about the location stay, and so do those of no topic.
  refine (congrArg (List.map _) course.log_eq).trans ?_
  have hparents := map_reregister_eq (f := f) fun a ha htypes =>
    nomatch (course.about_parents a ha).eq htypes
  have hlocation := map_reregister_eq (f := f) fun a ha htypes =>
    nomatch (course.about_location a ha).eq htypes
  rw [List.map_cons, List.map_cons, List.map_cons, List.map_append, List.map_append,
    List.map_append, hparents, hlocation]
  rfl

/-- The business types in an overview are those of the codes of the latest registration, each code
taken alone, and of the latest transaction. Other answers about registrations change nothing else;
and business types are only added where no known code is lost, and the same where none is gained. -/
theorem exists_businessTypes {σ : Type} (c : Circumstances) (b : Backend σ) (s : σ) (raw : String)
    (year : Option String) (answer : Json)
    (answered : (((Call.overview raw year).inquiry c).run b s).result = .ok answer) :
    ∃ overview : Overview, answer = overview.toJson ∧
      answer.field? "business_types" = some (.texts overview.businessTypes) ∧
      Nonempty (Typing raw (((Call.overview raw year).inquiry c).transcript b s)
        overview.businessTypes) ∧
      ∀ f : Registration → Registration, (∀ r, r.knownCodes ⊆ (f r).knownCodes) →
        ∃ types, overview.businessTypes ⊆ types ∧
          ((∀ r, (f r).knownCodes ⊆ r.knownCodes) → types = overview.businessTypes) ∧
          (((Call.overview raw year).inquiry c).run (b.revise (reregister f)) s).result =
            .ok { overview with businessTypes := types }.toJson := by
  obtain ⟨overview, rfl, ⟨course⟩⟩ := exists_course answered
  refine ⟨overview, rfl, rfl, course.exists_typing, fun f keeps => ?_⟩
  obtain ⟨types, hsub, hsame, hled⟩ := exists_leads_reregister keeps course.types_led
  rw [course.types_eq]
  refine ⟨types, hsub, hsame, ?_⟩
  -- The stores give the revised answers of the run, and these are the course of this overview.
  have hask := leads_ask_iff.mpr (course.exists_reregistered hled)
  have hcall := leads_call_iff.mpr ⟨_, hask, rfl⟩
  exact hcall.result_eq _ ((Inquiry.gives_transcript b _ s).revise _)

/-- A mill that is registered with three codes, one of which is not known, and a structure. -/
def sampleMill : Memory where
  stores := {
    entries := [{ hash := Children.sampleUuid 4, name := some "MILL CORP", duns := some "444444444",
                  alternateNames := [], location := {} }]
    profiles := [{ id := ⟨Children.sampleUuid 4, .recipient⟩, duns := some "444444444", uei := none,
                   affiliations := [], name := some "MILL CORP" }]
    registrations := [{ name := "MILL CORP", duns := "444444444",
                        registration := ⟨["MF", "2X", "??"], some "2L"⟩ }]
    transactions := [{ hash := Children.sampleUuid 4, day := searchStart,
                       categories := ["small_business", "category_business"] }] }

theorem exists_businessTypes_mill :
    ∃ answer, (((Call.overview "44444444-4444-4444-4444-444444444444-R" none).inquiry .sample).run
        (Memory.backend {} fun _ => none) sampleMill).result = .ok answer ∧
      ∃ overview : Overview, answer = overview.toJson ∧
        answer.field? "business_types" = some (.texts overview.businessTypes) ∧
        Nonempty (Typing "44444444-4444-4444-4444-444444444444-R"
          (((Call.overview "44444444-4444-4444-4444-444444444444-R" none).inquiry
            .sample).transcript (Memory.backend {} fun _ => none) sampleMill)
          overview.businessTypes) ∧
        ∀ f : Registration → Registration, (∀ r, r.knownCodes ⊆ (f r).knownCodes) →
          ∃ types, overview.businessTypes ⊆ types ∧
            ((∀ r, (f r).knownCodes ⊆ r.knownCodes) → types = overview.businessTypes) ∧
            (((Call.overview "44444444-4444-4444-4444-444444444444-R" none).inquiry .sample).run
                ((Memory.backend {} fun _ => none).revise (reregister f)) sampleMill).result =
              .ok { overview with businessTypes := types }.toJson :=
  ⟨_, rfl, exists_businessTypes _ _ _ _ _ _ rfl⟩

end Overview

end Outlays

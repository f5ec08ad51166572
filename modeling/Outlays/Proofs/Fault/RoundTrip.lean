import Outlays.Proofs.Fault.Building

/-!
# Faults go there and back

Whatever way a fault was made and changed, it is read back from what is written of it, wherever that
is read: the identifier in scope there does not get into it. Only details that are null are not
there again, since they are written as if there were none to say.

What others write may name the identifier in either of two ways, which makes no difference. An
identifier that is left out or null is none.

## Main definitions

* `Fault.Respelt` — the same fields, with either name of the identifier

## Main results

* `Fault.readIn_respelt`, `Fault.trace_eq_none` — names of the identifier, and none at all
* `Fault.goes_there_and_back` — all of it
-/

namespace Outlays

namespace Fault

variable {request : Option Uuid} {origin : Origin} {changes : List Change} {f : Fault}
  {scope : Scope} {bound : Nat}

/-! ## Faults that were built -/

theorem notBlank_of_build? (built : build? request origin changes = .ok f) : f.NotBlank := by
  rw [build?, bind_eq_ok_iff] at built
  obtain ⟨g, hg, hf⟩ := built
  exact (notBlank_of_gives (start?_eq_ok_iff.mp hg)).changes? hf

/-- Details are kept from the start, or are given later. -/
theorem kept_details_of_build? (built : build? request origin changes = .ok f)
    (kept : ∀ c ∈ changes, ∀ d ∈ c.details?, d.Kept) : ∀ d ∈ f.details, d.Kept := by
  intro d hd
  rw [build?, bind_eq_ok_iff] at built
  obtain ⟨g, hg, hf⟩ := built
  obtain ⟨-, rfl⟩ := changes?_eq_ok_iff.mp hf
  obtain hgiven | ⟨-, hfirst⟩ := Option.or_eq_some_iff.mp hd
  · obtain ⟨c, hc, hdetails⟩ := List.exists_of_findSome?_eq_some hgiven
    exact kept c (List.mem_reverse.mp hc) d hdetails
  · -- Only a fault that was read has details at first, and those are settled.
    cases start?_eq_ok_iff.mp hg with
    | made _ | usual _ | checked _ => cases hfirst
    | read fits _ =>
      obtain ⟨_, _, details, -, -, -, hdetails⟩ := fits
      rw [hfirst] at hdetails
      cases hdetails with
      | given _ readable _ => exact Json.kept_settled readable

/-! ## The name of the identifier -/

/-- The names of the identifier in a written fault. -/
def traceNames : List String := ["traceId", "trace_id"]

/-- The fields are the same, but the identifier may go by either name in each of them. -/
def Respelt (fields others : List (String × Json)) : Prop :=
  List.Forall₂ (fun f g => f.2 = g.2 ∧ (f.1 = g.1 ∨ f.1 ∈ traceNames ∧ g.1 ∈ traceNames))
    fields others

/-- No declared field tells the two names apart. -/
theorem accepts_traceNames :
    ∀ slot ∈ shape, ∀ name ∈ traceNames, ∀ other ∈ traceNames,
      slot.accepts name = slot.accepts other := by
  simp [shape, traceNames, Json.Slot.accepts]

theorem valuesFor_respelt {fields others : List (String × Json)} (h : Respelt fields others)
    {slot : Json.Slot} (hslot : slot ∈ shape) :
    Json.Record.valuesFor fields slot = Json.Record.valuesFor others slot := by
  induction h with
  | nil => rfl
  | @cons f g fields others hfg _ ih =>
    obtain ⟨hvalue, hname⟩ := hfg
    have haccepts : slot.accepts f.1 = slot.accepts g.1 := by
      obtain heq | ⟨hf, hg⟩ := hname
      · rw [heq]
      · exact accepts_traceNames slot hslot f.1 hf g.1 hg
    rw [Json.Record.valuesFor, Json.Record.valuesFor] at ih ⊢
    rw [List.filter_cons, List.filter_cons, haccepts]
    split
    · rw [List.map_cons, List.map_cons, hvalue, ih]
    · exact ih

/-- Either name of the identifier is read alike. -/
theorem readIn_respelt {fields others : List (String × Json)} (h : Respelt fields others) :
    readIn scope bound (.obj fields) = readIn scope bound (.obj others) := by
  have hfields : shape.mapM (Json.Record.fromFields fields) =
      shape.mapM (Json.Record.fromFields others) := by
    refine mapM_congr fun slot hslot => ?_
    rw [Json.Record.fromFields, Json.Record.fromFields, valuesFor_respelt h hslot]
  rw [readIn, readIn, parts, parts, Json.Record.read, Json.Record.read, hfields]

/-- The names of the identifier are those of one declared field. -/
theorem accepts_iff_mem_traceNames {name : String} : Json.Slot.accepts
    { name := "traceId", others := ["trace_id"], absence := .filled } name = true ↔
      name ∈ traceNames := by
  rw [Json.Slot.accepts, Bool.or_eq_true, beq_iff_eq, List.contains_iff_mem, traceNames,
    List.mem_cons (b := "traceId"), eq_comm]

/-- An identifier that is left out or null is none, whatever is in scope. -/
theorem trace_eq_none {fields : List (String × Json)}
    (unnamed : ∀ field ∈ fields, field.1 ∈ traceNames → field.2 = .null)
    (h : readIn scope bound (.obj fields) = .ok f) : f.trace = none := by
  obtain ⟨⟨_, trace, _, ⟨hfills⟩, -, htrace, -⟩, -⟩ := readIn_eq_ok_iff.mp h
  obtain _ | ⟨-, _ | ⟨-, _ | ⟨htraceFills, -⟩⟩⟩ := hfills
  have hnull : ∀ v ∈ trace, v = .null := by
    rintro v rfl
    -- The value is that of a field with a name of the identifier.
    obtain ⟨once⟩ := htraceFills
    have hmem := List.mem_singleton_self v
    rw [← once] at hmem
    obtain ⟨field, hfield, rfl⟩ := List.mem_map.mp hmem
    obtain ⟨hfield, haccepts⟩ := List.mem_filter.mp hfield
    exact unnamed field hfield (accepts_iff_mem_traceNames.mp haccepts)
  generalize f.trace = given at htrace
  cases htrace with
  | text t => exact absurd (hnull _ rfl) nofun
  | null | missing => rfl

/-! ## All of it -/

/-- The details that a service makes are read back from their bytes. -/
theorem legible_details_fault (hscope : scope.NotBlank) (cause : Cause) :
    ∀ d ∈ (cause.fault scope).details, d.Legible :=
  fun d hd => Json.legible_of_numberless d ((cause.sound_fault hscope).details d hd).1

/-- A fault that was built is read back from its written form, in any scope and by any reader that
goes down to its details, without details that are null; and from the bytes of its written form,
if the details are. Either name of the identifier is read alike, and one that is left out or null is
none. A value is read as a fault exactly if it is a record of it and no part is blank; a record is
turned down for its message if that is blank, and else for its identifier if that is. Whatever makes
a request fail, its details are read back from their bytes, and so is the fault. -/
theorem goes_there_and_back (scope : Scope) (bound : Nat) :
    (∀ request origin changes f, build? request origin changes = .ok f →
      (∀ c ∈ changes, ∀ d ∈ c.details?, d.Kept) → (∀ d ∈ f.details, d.depth < bound) →
        readIn scope bound f.toJson = .ok { f with details := f.details.filter (· ≠ .null) } ∧
        ((∀ d ∈ f.details, d.Legible) → Json.parseBytes f.toJson.renderBytes = some f.toJson)) ∧
    (∀ fields others, Respelt fields others →
      readIn scope bound (.obj fields) = readIn scope bound (.obj others)) ∧
    (∀ fields f, (∀ field ∈ fields, field.1 ∈ traceNames → field.2 = .null) →
      readIn scope bound (.obj fields) = .ok f → f.trace = none) ∧
    (∀ j f, readIn scope bound j = .ok f ↔ f.FitsWithin bound j ∧ f.NotBlank) ∧
    (∀ j part, readIn scope bound j = .error (.blank part) ↔
      ∃ f : Fault, f.FitsWithin bound j ∧ f.FirstBlank part) ∧
    ∀ request : Scope, request.NotBlank → ∀ cause : Cause,
      (∀ d ∈ (cause.fault request).details, d.Legible) ∧
        ofBytes? (cause.fault request).toJson.renderBytes = some (cause.fault request) := by
  refine ⟨fun request origin changes f built kept depth => ⟨?_, fun legible => ?_⟩,
    fun _ _ => readIn_respelt, fun _ _ => trace_eq_none, fun _ _ => readIn_eq_ok_iff,
    fun _ _ => readIn_eq_blank_iff, fun request hrequest cause =>
      ⟨legible_details_fault hrequest cause, (cause.sound_fault hrequest).ofBytes?_renderBytes⟩⟩
  · exact readIn_toJson (notBlank_of_build? built) (kept_details_of_build? built kept) depth
  · exact (legible_toJson legible).parseBytes_renderBytes

/-- The fault that a request was made with a year that is none, read while another is served. -/
theorem goes_there_and_back_year :
    let f : Fault := ⟨.invalidRequest, "Invalid year", some "a", some (.obj [("field", .str "year")])⟩
    build? none (.made .invalidRequest "Invalid year")
        [.trace "a", .details (.obj [("field", .str "year")])] = .ok f ∧
      readIn (some "b") 2 f.toJson = .ok f ∧ Json.parseBytes f.toJson.renderBytes = some f.toJson := by
  intro f
  have built : build? none (.made .invalidRequest "Invalid year")
      [.trace "a", .details (.obj [("field", .str "year")])] = .ok f := rfl
  have kept : (Json.obj [("field", .str "year")]).Kept := ⟨rfl, rfl⟩
  obtain ⟨hread, hbytes⟩ := (goes_there_and_back (some "b") 2).1 none _ _ f built
    (by rintro c hc d hd
        obtain rfl | rfl : c = .trace "a" ∨ c = .details (.obj [("field", .str "year")]) := by
          simpa using hc
        · cases hd
        · exact Option.some.inj hd ▸ kept)
    (by rintro d ⟨⟩
        decide)
  refine ⟨built, hread, hbytes ?_⟩
  rintro d ⟨⟩
  exact Json.legible_of_numberless _ rfl

end Fault

end Outlays

import Outlays.Proofs.Calendar.Written
import Outlays.Proofs.Download.Schema
import Outlays.Proofs.Json.Written
import Outlays.Proofs.Web.ClientFaults

/-!
# Filters as clients write them

A client writes filters as JSON, and has much freedom in it: fields stand in any order and among
others, empty lists may be left out, a recipient id has many spellings, and JSON itself has blanks
and escapes. Whatever of this a client makes use of, the filters are read as they were meant.

A body that stands for no filters is refused before anything is asked: neither the response cache
nor the index comes to know of the request.

## Main definitions

* `TransactionFilters.WrittenAs`, `Body.Renders` — the ways to write filters
* `Body.Refused` — a body that is refused before anything is asked

## Main results

* `Body.valid_of_renders`, `Body.renders_renderBytes` — what is written fits the schema, and there
  is a way to write all filters
* `Body.filters_survive` — filters are read as they were written, and nothing else is read
-/

namespace Outlays

open Json (HasShape Mixed given)

/-! ## Ways to write filters -/

/-- The value is the period as an object, with its fields in any order and among others. -/
def TimePeriod.WrittenAs (p : TimePeriod) (j : Json) : Prop :=
  ∃ fields, j = .obj fields ∧ Mixed ["start_date", "end_date"]
    [("start_date", .str p.start.render), ("end_date", .str p.finish.render)] fields

/-- The value is the agency as an object, with its fields in any order and among others. -/
def AgencyFilter.WrittenAs (a : AgencyFilter) (j : Json) : Prop :=
  ∃ fields, j = .obj fields ∧ Mixed ["type", "tier", "name"]
    [("type", .str a.role.name), ("tier", .str a.tier.name), ("name", .str a.name)] fields

/-- A part of filters is the list of its items, in order; an empty one may be left out. -/
inductive ListWritten {α : Type} (item : α → Json → Prop) : List α → Option Json → Prop where
  | given {as : List α} {items : List Json} (each : List.Forall₂ item as items) :
      ListWritten item as (some (.arr items))
  | leftOut : ListWritten item [] none

/-- A recipient id is any text that is read as it; none is null or left out. -/
inductive IdWritten : Option RecipientId → Option Json → Prop where
  | given {id : RecipientId} {raw : String} (reads : RecipientId.Reads raw (.ok id)) :
      IdWritten (some id) (some (.str raw))
  | null : IdWritten none (some .null)
  | leftOut : IdWritten none none

/-- The value is the filters as an object, with the parts that are given in any order and among
others. -/
def TransactionFilters.WrittenAs (f : TransactionFilters) (j : Json) : Prop :=
  ∃ periods agencies types keywords codes id fields, j = .obj fields ∧
    Mixed partNames (given [("time_period", periods), ("agencies", agencies),
      ("award_type_codes", types), ("keywords", keywords), ("def_codes", codes),
      ("recipient_id", id)]) fields ∧
    ListWritten TimePeriod.WrittenAs f.timePeriods periods ∧
    ListWritten AgencyFilter.WrittenAs f.agencies agencies ∧
    ListWritten (fun t j => j = .str t) f.awardTypeCodes types ∧
    ListWritten (fun t j => j = .str t) f.keywords keywords ∧
    ListWritten (fun t j => j = .str t) f.defCodes codes ∧ IdWritten f.recipientId id

/-- The body is a JSON text of the filters, under their name and among other fields. -/
def Body.Renders (f : TransactionFilters) (body : List UInt8) : Prop :=
  ∃ j fields, f.WrittenAs j ∧ Mixed ["filters"] [("filters", j)] fields ∧
    Json.IsText (Json.symbols body) (.obj fields)

/-! ## What is written fits the schema -/

theorem Date.fits_render (d : Date) : Date.Fits (.str d.render) d := ⟨_, rfl, d.read?_render⟩

theorem TimePeriod.WrittenAs.fits {p : TimePeriod} {j : Json} (h : p.WrittenAs j) :
    Fits j p := by
  obtain ⟨fields, rfl, hmixed⟩ := h
  have hshape : HasShape [{ name := "start_date" }, { name := "end_date" }] (.obj fields)
      [some (.str p.start.render), some (.str p.finish.render)] :=
    Mixed.hasShape hmixed (by simp) (by simp) (by simp)
  exact ⟨_, _, hshape, p.start.fits_render, p.finish.fits_render⟩

theorem AgencyFilter.WrittenAs.fits {a : AgencyFilter} {j : Json} (h : a.WrittenAs j) :
    Fits j a := by
  obtain ⟨fields, rfl, hmixed⟩ := h
  have hshape : HasShape [{ name := "type" }, { name := "tier" }, { name := "name" }] (.obj fields)
      [some (.str a.role.name), some (.str a.tier.name), some (.str a.name)] :=
    Mixed.hasShape hmixed (by simp) (by simp) (by simp)
  exact ⟨_, _, hshape, .inl rfl, .inl rfl⟩

theorem ListWritten.fits {α : Type} {written : α → Json → Prop} {item : Json → α → Prop}
    (hitem : ∀ a j, written a j → item j a) {as : List α} {v : Option Json}
    (h : ListWritten written as v) : ListFits item v as := by
  cases h with
  | given each =>
    refine .given (List.Forall₂.flip ?_)
    exact each.imp hitem
  | leftOut => exact .missing

theorem IdWritten.exists_raw {id : Option RecipientId} {v : Option Json} (h : IdWritten id v) :
    ∃ raw, TextFits v raw ∧ Body.IdOf raw id := by
  cases h with
  | given reads => exact ⟨_, .text _, .some reads⟩
  | null => exact ⟨none, .null, .none⟩
  | leftOut => exact ⟨none, .missing, .none⟩

theorem TransactionFilters.WrittenAs.exists_raw {f : TransactionFilters} {j : Json}
    (h : f.WrittenAs j) :
    ∃ raw, Fits j { f with recipientId := none } raw ∧ Body.IdOf raw f.recipientId := by
  obtain ⟨periods, agencies, types, keywords, codes, recipient, fields, rfl, hmixed, hperiods,
    hagencies, htypes, hkeywords, hcodes, hrecipient⟩ := h
  obtain ⟨raw, hraw, hid⟩ := hrecipient.exists_raw
  -- Every part has a default, so the object has the shape whatever is left out.
  have hshape : HasShape (partNames.map fun name => { name, absence := .filled }) (.obj fields)
      [periods, agencies, types, keywords, codes, recipient] :=
    Mixed.hasShape hmixed (by simp [partNames]) (by simp [partNames]) (by simp [partNames])
  exact ⟨raw, ⟨rfl, _, _, _, _, _, _, hshape, hperiods.fits fun _ _ => TimePeriod.WrittenAs.fits,
    hagencies.fits fun _ _ => AgencyFilter.WrittenAs.fits, htypes.fits fun _ _ => id,
    hkeywords.fits fun _ _ => id, hcodes.fits fun _ _ => id, hraw⟩, hid⟩

/-- What is written as a body fits the schema, with a spelling of the recipient id. -/
theorem Body.valid_of_renders {f : TransactionFilters} {body : List UInt8} (h : Renders f body) :
    ∃ raw, Valid body { f with recipientId := none } raw ∧ IdOf raw f.recipientId := by
  obtain ⟨j, fields, hwritten, hmixed, htext⟩ := h
  obtain ⟨raw, hfits, hid⟩ := hwritten.exists_raw
  have hshape : HasShape [{ name := "filters", absence := .filled }] (.obj fields) [some j] :=
    Mixed.hasShape hmixed (by simp) (by simp) (by simp)
  exact ⟨raw, .filtered htext hshape hfits, hid⟩

/-! ## There is a way to write all filters -/

theorem TimePeriod.writtenAs_toJson (p : TimePeriod) : p.WrittenAs p.toJson :=
  ⟨_, rfl, Json.mixed_refl _ _⟩

theorem AgencyFilter.writtenAs_toJson (a : AgencyFilter) : a.WrittenAs a.toJson :=
  ⟨_, rfl, Json.mixed_refl _ _⟩

theorem listWritten_map {α : Type} {written : α → Json → Prop} {toJson : α → Json}
    (h : ∀ a, written a (toJson a)) (as : List α) :
    ListWritten written as (some (.arr (as.map toJson))) :=
  .given (List.forall₂_map_right_iff.mpr (List.forall₂_same.mpr fun a _ => h a))

theorem idWritten_option (id : Option RecipientId) :
    IdWritten id (some (.option (fun id => .str (RecipientId.render id)) id)) := by
  cases id with
  | none => exact .null
  | some id => exact .given (RecipientId.parse_eq_iff.mp (RecipientId.parse_render id))

theorem TransactionFilters.writtenAs_toJson (f : TransactionFilters) : f.WrittenAs f.toJson := by
  have htexts (ts : List String) :
      ListWritten (fun t j => j = .str t) ts (some (Json.texts ts)) := by
    -- The relation is taken from the goal before it is shown of each text.
    refine listWritten_map ?_ ts
    exact fun _ => rfl
  exact ⟨_, _, _, _, _, _, _, rfl, Json.mixed_refl _ _,
    listWritten_map TimePeriod.writtenAs_toJson _, listWritten_map AgencyFilter.writtenAs_toJson _,
    htexts _, htexts _, htexts _, idWritten_option f.recipientId⟩

theorem allNumberless_map {α : Type} {toJson : α → Json} (h : ∀ a, (toJson a).numberless = true)
    (as : List α) : Json.allNumberless (as.map toJson) = true := by
  induction as with
  | nil => rfl
  | cons a as ih => rw [List.map_cons, Json.allNumberless, h, ih, Bool.and_self]

theorem TransactionFilters.numberless_toJson (f : TransactionFilters) :
    f.toJson.numberless = true := by
  have hperiods := allNumberless_map
    (fun p : TimePeriod => show p.toJson.numberless = true from rfl)
  have hagencies := allNumberless_map
    (fun a : AgencyFilter => show a.toJson.numberless = true from rfl)
  have htexts := allNumberless_map (fun t : String => show (Json.str t).numberless = true from rfl)
  simp only [toJson, Json.numberless, Json.fieldsNumberless, Json.texts, hperiods, hagencies,
    htexts, Bool.true_and, Bool.and_true]
  cases f.recipientId <;> rfl

/-- The usual way to write filters is one. -/
theorem Body.renders_renderBytes (f : TransactionFilters) :
    Renders f (Json.obj [("filters", f.toJson)]).renderBytes := by
  have hnumberless : (Json.obj [("filters", f.toJson)]).numberless = true := by
    simp only [Json.numberless, Json.fieldsNumberless, f.numberless_toJson, Bool.true_and]
  exact ⟨f.toJson, _, f.writtenAs_toJson, Json.mixed_refl _ _,
    Json.parse_eq_some_iff.mp (Json.legible_of_numberless _ hnumberless).parseBytes_renderBytes⟩

/-! ## What is refused -/

/-- A request is turned down for a field of its body, and nothing has been asked. A body beyond the
limit is turned down before it is read. -/
structure Served.TurnedDown {σ : Type} (field : String) (body : List UInt8) (s : σ)
    (served : Served σ) : Prop where
  asked : served.asked = []
  state : served.state = s
  large : bodyLimit < body.length → served.response.status = 413
  told : body.length ≤ bodyLimit → served.response.status = 422 ∧
    ∃ f : Fault, served.response.body = f.toJson.renderBytes ∧ f.code = .unprocessableEntity ∧
      f.details = some (.obj [("field", .str field)])

/-- The body is refused for a field, as something that cannot be processed, and so is every request
that comes to the endpoint with it. -/
structure Body.Refused (field : String) (body : List UInt8) : Prop where
  refusal : ∃ why, downloadFilters body = .error why ∧ why.code = .unprocessableEntity ∧
    why.field? = some field
  turnedDown : ∀ {σ : Type} (v : Service σ) (health : Health) (trace : Option Uuid)
    (r : WebRequest) (s : σ), findRoute? r.method r.path = some (.downloadCount, []) →
      r.body = body → (v.serve health trace r s).TurnedDown field body s

/-- What is turned down for a field has the field in its details. -/
theorem Cause.details_fault_of_field {scope : Scope} {why : Refusal} {field : String}
    (h : why.field? = some field) :
    ((Cause.refused why).fault scope).details = some (.obj [("field", .str field)]) := by
  have hdetails : (Cause.refused why).details? = some (.obj [("field", .str field)]) := by
    rw [details?, Refusal.details?, h]
    rfl
  rw [fault, hdetails]
  rfl

/-- A request to the endpoint is served without any question, where its body is refused. -/
theorem Service.untraced_of_refusal {σ : Type} {v : Service σ} {health : Health} {scope : Scope}
    {r : WebRequest} {s : σ} {why : Refusal}
    (route : findRoute? r.method r.path = some (.downloadCount, []))
    (h : Body.downloadFilters r.body = .error why) :
    v.untraced health scope r s =
      ⟨if bodyLimit < r.body.length then .plain 413 "payload reached size limit"
        else .ofFault scope ((Cause.refused why).fault scope), s, []⟩ := by
  have hcall : Endpoint.downloadCount.call [] r.query r.body = .error why := by
    simp only [Endpoint.call, h]
    rfl
  rw [untraced, route]
  simp only [atEndpoint, Endpoint.takesBody, Bool.true_and, decide_eq_true_eq, gt_iff_lt, hcall]
  split <;> rfl

example : findRoute? "POST" "/api/v2/download/count/" = some (.downloadCount, []) := by
  decide +kernel

theorem Body.refused_of_refusal {field : String} {body : List UInt8} {why : Refusal}
    (h : downloadFilters body = .error why) (hcode : why.code = .unprocessableEntity)
    (hfield : why.field? = some field) : Refused field body := by
  refine ⟨⟨why, h, hcode, hfield⟩, ?_⟩
  rintro σ v health trace r s hroute rfl
  let scope : Scope := trace.map Uuid.render
  let f := (Cause.refused why).fault scope
  -- The identifier is all that is put on the response.
  have hserve : ∃ headers, v.serve health trace r s =
      ⟨{ (if bodyLimit < r.body.length then WebResponse.plain 413 "payload reached size limit"
        else .ofFault scope f) with headers }, s, []⟩ := by
    cases trace with
    | none =>
      rw [Service.serve, Service.untraced_of_refusal hroute h]
      exact ⟨_, rfl⟩
    | some id =>
      rw [Service.serve, Service.untraced_of_refusal hroute h]
      exact ⟨_, rfl⟩
  obtain ⟨headers, hserve⟩ := hserve
  obtain ⟨headers', hfault⟩ :=
    WebResponse.ofFault_eq_of_isHeader (Scope.isHeader_trace trace) (.refused why)
  have hf : f.code = .unprocessableEntity := (Cause.code_fault scope _).trans hcode
  have hshown : f.redacted scope = f := by
    rw [Fault.redacted, hf]
  rw [hserve]
  refine ⟨rfl, rfl, fun hlarge => ?_, fun hsmall => ?_⟩
  · rw [if_pos hlarge]
    rfl
  · rw [if_neg (Nat.not_lt.mpr hsmall), hfault, hshown, Cause.code, hcode]
    exact ⟨rfl, f, rfl, hf, Cause.details_fault_of_field hfield⟩

/-! ## All of it -/

/-- Filters are read as they were written, whatever a client makes use of, and there is a way to
write all of them. A body is read exactly if it fits the schema, with a spelling of the recipient id
where one is given. A body that does not fit is refused before anything is asked, and so is one
whose recipient id is none. -/
theorem Body.filters_survive :
    (∀ f body, Renders f body → downloadFilters body = .ok f) ∧ (∀ f, ∃ body, Renders f body) ∧
    (∀ body f, downloadFilters body = .ok f ↔
      ∃ raw, Valid body { f with recipientId := none } raw ∧ IdOf raw f.recipientId) ∧
    (∀ body, (∀ f raw, ¬ Valid body f raw) → Refused "body" body) ∧
    ∀ body f raw, Valid body f (some raw) → (∀ id, ¬ RecipientId.Reads raw (.ok id)) →
      Refused "filters|recipient_id" body := by
  refine ⟨fun f body h => downloadFilters_eq_ok_iff.mpr (valid_of_renders h),
    fun f => ⟨_, renders_renderBytes f⟩, fun body f => downloadFilters_eq_ok_iff,
    fun body h => ?_, fun body f raw hvalid h => ?_⟩
  · obtain ⟨reason, hrefusal⟩ := exists_refusal_of_not_valid h
    exact refused_of_refusal hrefusal rfl rfl
  · obtain ⟨why, -, hrefusal⟩ := exists_refusal_of_not_reads hvalid h
    exact refused_of_refusal hrefusal rfl rfl

end Outlays

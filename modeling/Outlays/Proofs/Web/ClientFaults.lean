import Outlays.Memory.Sample
import Outlays.Proofs.Agency.Listings
import Outlays.Proofs.Fiscal.Windows
import Outlays.Proofs.Inquiry.Failures
import Outlays.Proofs.Inquiry.Questions
import Outlays.Proofs.Json.Records
import Outlays.Proofs.Web.Visits

/-!
# No request makes the service fail

Whatever a client sends, it is told either what it asked for or what is wrong with its request. Only
the stores can make the service fail: one of them fails to answer a question of data, or the last
monthly window that has closed names no month. The response cache is none of those stores.

A request is read in several steps, and each of them blames the client for what it refuses. The
numbers that come up on the way fit into the width they have, as the bounds on a page, on a limit
and on a year leave room for what is computed from them.

## Main definitions

* `Attempt.Fair` — the stores have done their part
* `Stage.Civil` — the response of a stage is no failure of the service
* `PageRequest.Fits` — the numbers of rows up to a page fit into 64 bits

## Main results

* `Endpoint.checksClient_call` — to read a request refuses nothing but what is the client's fault
* `Job.civil_next`, `Job.civil_steps` — a job whose questions are answered fairly
* `Service.status_lt_of_fair` — the status of a response
-/

namespace Outlays

/-! ## Reading a request -/

namespace Form

theorem checksClient_text? (form : List (String × String)) (name : String) :
    ChecksClient (text? form name) := by
  rw [text?]
  split
  · exact checksClient_ok _
  · exact checksClient_ok _
  · exact checksClient_error nofun

theorem checksClient_value? {α : Type} (form : List (String × String)) (read : String → Option α)
    (name : String) : ChecksClient (value? form read name) := by
  refine (checksClient_text? form name).bind fun found => ?_
  cases found with
  | none => exact checksClient_ok _
  | some text =>
    dsimp only
    split
    · exact checksClient_ok _
    · exact checksClient_error nofun

theorem checksClient_listing (form : List (String × String)) : ChecksClient (listing form) :=
  (checksClient_value? _ _ _).bind fun _ => (checksClient_value? _ _ _).bind fun _ =>
    (checksClient_text? _ _).bind fun _ => (checksClient_text? _ _).bind fun _ => checksClient_ok _

theorem checksClient_period (form : List (String × String)) : ChecksClient (period form) :=
  (checksClient_value? _ _ _).bind fun _ => (checksClient_value? _ _ _).bind fun _ =>
    checksClient_ok _

end Form

/-- The id of a recipient is at fault in its own way, and then as a part of filters. -/
theorem TransactionFilters.checksClient_withRecipient (parts : TransactionFilters × Option String) :
    ChecksClient (withRecipient parts) := by
  rw [withRecipient]
  split
  · exact checksClient_ok _
  · split
    · exact checksClient_ok _
    · exact checksClient_error nofun

namespace Body

theorem checksClient_read {α : Type} (blank : α) (reader : Json.Reader α) (body : List UInt8) :
    ChecksClient (read blank reader body) := by
  rw [read]
  split
  · exact checksClient_ok _
  · split
    · exact checksClient_error nofun
    · exact checksClient_mapError fun _ => Refusal.ofClient_iff.mpr nofun

theorem checksClient_downloadFilters (body : List UInt8) : ChecksClient (downloadFilters body) :=
  (checksClient_read _ _ _).bind fun _ =>
    TransactionFilters.checksClient_withRecipient _

theorem checksClient_defCodes (body : List UInt8) : ChecksClient (defCodes body) :=
  (checksClient_read _ _ _).bind fun _ => checksClient_ok _

end Body

theorem Endpoint.checksClient_pathPeriod (year period : String) :
    ChecksClient (pathPeriod year period) := by
  rw [pathPeriod]
  split
  · exact checksClient_ok _
  · exact checksClient_error nofun

/-- To read what a request asks for refuses nothing but what is the client's fault. -/
theorem Endpoint.checksClient_call (e : Endpoint) (captures : List String) (query : String)
    (body : List UInt8) : ChecksClient (e.call captures query body) := by
  simp only [call]
  split
  · exact (Body.checksClient_defCodes _).bind fun _ => checksClient_ok _
  · exact (Body.checksClient_downloadFilters _).bind fun _ => checksClient_ok _
  · exact (Form.checksClient_text? _ _).bind fun _ => checksClient_ok _
  · exact (Form.checksClient_text? _ _).bind fun _ => checksClient_ok _
  · exact (Form.checksClient_period _).bind fun _ => (Form.checksClient_text? _ _).bind fun _ =>
      (Form.checksClient_listing _).bind fun _ => checksClient_ok _
  · exact (Form.checksClient_listing _).bind fun _ => checksClient_ok _
  · exact (Form.checksClient_period _).bind fun _ => (Form.checksClient_listing _).bind fun _ =>
      checksClient_ok _
  · exact (checksClient_pathPeriod _ _).bind fun _ => (Form.checksClient_listing _).bind fun _ =>
      checksClient_ok _
  · exact checksClient_ok _

/-! ## Faults that blame the client -/

theorem FaultCode.OfClient.status_lt {c : FaultCode} (h : c.OfClient) : c.status < 500 := by
  rcases h with rfl | rfl | rfl <;> decide

/-- The identifier in scope can be sent in a header. -/
def Scope.IsHeader (scope : Scope) : Prop :=
  ∀ trace, scope = some trace → WebResponse.isHeaderValue trace = true

/-- A written identifier has nothing in it but digits and hyphens. -/
theorem Uuid.isHeaderValue_render (u : Uuid) : WebResponse.isHeaderValue u.render = true := by
  let allowed (c : Char) : Bool := c == '\t' || !(c.toNat < 0x20 || c.toNat == 0x7F)
  have hdigit : ∀ d : Fin 16, allowed (hexChar d) = true := by decide
  have hdigits : ∀ c ∈ u.digits.map hexChar, allowed c = true := by
    intro c hc
    obtain ⟨d, -, rfl⟩ := List.mem_map.mp hc
    exact hdigit d
  -- Each group is a piece of the digits.
  have hgroup (m n : ℕ) : ∀ c ∈ ((u.digits.map hexChar).drop m).take n, allowed c = true :=
    fun c hc => hdigits c (List.mem_of_mem_drop (List.mem_of_mem_take hc))
  have hhyphen : allowed '-' = true := by decide
  rw [WebResponse.isHeaderValue, render, String.toList_ofList]
  simp only [List.append_assoc, List.cons_append, List.all_append, List.all_cons,
    Bool.and_eq_true, List.all_eq_true]
  exact ⟨hgroup 0 8, hhyphen, hgroup 8 4, hhyphen, hgroup 12 4, hhyphen, hgroup 16 4, hhyphen,
    fun c hc => hdigits c (List.mem_of_mem_drop hc)⟩

theorem Scope.isHeader_trace (trace : Option Uuid) : IsHeader (trace.map Uuid.render) := by
  intro t ht
  obtain ⟨id, -, rfl⟩ := Option.map_eq_some_iff.mp ht
  exact id.isHeaderValue_render

/-- A cause is told in a response of its code, under any identifier that can be sent. -/
theorem WebResponse.ofFault_eq_of_isHeader {scope : Scope} (hscope : scope.IsHeader)
    (cause : Cause) : ∃ headers, ofFault scope (cause.fault scope) =
      ⟨cause.code.status, headers, ((cause.fault scope).redacted scope).toJson.renderBytes⟩ := by
  rw [ofFault, Cause.trace_fault, Cause.code_fault]
  cases scope with
  | none => exact ⟨_, rfl⟩
  | some trace =>
    dsimp only
    rw [if_pos (hscope trace rfl)]
    exact ⟨_, rfl⟩

theorem WebResponse.ofFault_status_lt {scope : Scope} {why : Refusal} (hwhy : why.OfClient)
    (hscope : scope.IsHeader) :
    (ofFault scope ((Cause.refused why).fault scope)).status < 500 := by
  obtain ⟨headers, hresponse⟩ := ofFault_eq_of_isHeader hscope (.refused why)
  rw [hresponse]
  exact FaultCode.OfClient.status_lt hwhy

/-! ## Jobs -/

/-- The stores have done their part: they give an answer to go on from, and fail at nothing but
questions to the response cache. -/
def Attempt.Fair : Attempt → Prop
  | ⟨q, .ok answer⟩ => Answered.Fair ⟨q, answer⟩
  | ⟨q, .error _⟩ => ¬ q.OfData

/-- The response of the stage, if it has one, is no failure of the service. -/
def Stage.Civil : Stage → Prop
  | .done r => r.status < 500
  | _ => True

variable {σ : Type} {b : Backend σ} {s : σ}

theorem Backend.mem_of_mem_attempts {questions : List Question} {a : Attempt}
    (h : a ∈ b.attempts questions s) : a.1 ∈ questions := by
  induction questions generalizing s with
  | nil => cases h
  | cons q rest ih =>
    rcases List.mem_cons.mp h with rfl | h
    · exact List.mem_cons_self
    · exact List.mem_cons_of_mem q (ih h)

/-- An inquiry that asks for data and is answered fairly comes to a result, or to a refusal that
blames the client. -/
theorem Inquiry.result_of_fair {α : Type} {x : Inquiry α} (hdata : x.Asks Question.OfData)
    (hrefuses : x.RefusesClient) (hfair : ∀ a ∈ b.attempts (x.run b s).asked s, a.Fair) :
    (∃ a, (x.run b s).result = .ok a) ∨
      ∃ why, (x.run b s).result = .error (.refused why) ∧ why.OfClient := by
  -- Where a question of data is answered fairly, it has not failed.
  have hanswered : ∀ a ∈ b.attempts (x.run b s).asked s, a.IsAnswered := by
    rintro ⟨q, answer | answer⟩ ha
    · exact absurd (hdata.forall_mem_asked q (Backend.mem_of_mem_attempts ha)) (hfair _ ha)
    · exact ⟨answer, rfl⟩
  obtain hdone | ⟨why, hwhy, hblame⟩ := hrefuses.result hanswered
  · exact .inl hdone
  · refine .inr ⟨why, hwhy, hblame.resolve_right ?_⟩
    rintro ⟨a, ha, hunfair⟩
    exact hunfair (hfair _ ha)

namespace Job

theorem next_compute_asked (b : Backend σ) (job : Job) (s : σ) :
    (job.next b .compute s).asked = (job.inquiry.run b s).asked := by
  rw [next]
  generalize job.inquiry.run b s = outcome
  obtain ⟨result, s', asked⟩ := outcome
  cases result <;> rfl

/-- A step leaves the stores where its questions leave them. -/
theorem state_next (b : Backend σ) (job : Job) (stage : Stage) (s : σ) :
    (job.next b stage s).state = b.after (job.next b stage s).asked s := by
  cases stage with
  | look =>
    rw [next_look_state, next]
    generalize hanswered : b.answer (.cacheGet job.key) s = answered
    obtain ⟨how | found, s'⟩ := answered
    · simp only [Backend.after, List.foldl_cons, List.foldl_nil, hanswered]
    · cases found <;> simp only [Backend.after, List.foldl_cons, List.foldl_nil, hanswered]
  | compute => rw [next_compute_state, next_compute_asked, Inquiry.state_run]
  | store body => rfl
  | done response => rfl

variable {job : Job} {stage : Stage}

/-- One step of a job that is answered fairly comes to a stage that is no failure of the service. -/
theorem civil_next (hdata : job.inquiry.Asks Question.OfData)
    (hrefuses : job.inquiry.RefusesClient) (hscope : job.scope.IsHeader) (hstage : stage.Civil)
    (hfair : ∀ a ∈ b.attempts (job.next b stage s).asked s, a.Fair) :
    (job.next b stage s).stage.Civil := by
  have hok (part : Option String) (body : List UInt8) :
      (Stage.done (.ok part body)).Civil := by
    show 200 < 500
    decide
  cases stage with
  -- The cache may do what it likes: nothing but the computation can end in a fault.
  | look =>
    rw [next_look_stage]
    split
    · exact hok _ _
    · trivial
  | compute =>
    rw [next_compute_asked] at hfair
    rw [next_compute_stage]
    obtain ⟨json, hjson⟩ | ⟨why, hwhy, hclient⟩ := Inquiry.result_of_fair hdata hrefuses hfair
    · rw [hjson]
      trivial
    · rw [hwhy]
      exact WebResponse.ofFault_status_lt hclient hscope
  | store body =>
    rw [next_store_stage]
    exact hok _ _
  | done response => exact hstage

/-- So do any number of steps. -/
theorem civil_steps (hdata : job.inquiry.Asks Question.OfData)
    (hrefuses : job.inquiry.RefusesClient) (hscope : job.scope.IsHeader) (n : ℕ)
    (hstage : stage.Civil)
    (hfair : ∀ a ∈ b.attempts (job.steps b n stage s).asked s, a.Fair) :
    (job.steps b n stage s).stage.Civil := by
  induction n generalizing stage s with
  | zero => exact hstage
  | succ n ih =>
    -- The attempts of the first step, and then those of the others from the state that it leaves.
    simp only [steps, Backend.attempts_append, ← state_next] at hfair
    have hnext := civil_next hdata hrefuses hscope hstage
      fun a ha => hfair a (List.mem_append_left _ ha)
    exact ih hnext fun a ha => hfair a (List.mem_append_right _ ha)

end Job

/-! ## Numbers that fit -/

namespace Form

theorem le_of_natural? {most n : ℕ} {text : String} (h : natural? most text = some n) :
    n ≤ most := by
  obtain ⟨m, -, h⟩ := Option.bind_eq_some_iff.mp h
  split at h
  · next hle =>
    rw [← Option.some.inj h]
    exact hle
  · cases h

theorem le_of_value?_natural? {form : List (String × String)} {most n : ℕ} {name : String}
    (h : value? form (natural? most) name = .ok (some n)) : n ≤ most := by
  obtain ⟨found, -, h⟩ := exists_of_bind_eq_ok h
  cases found with
  | none => cases h
  | some text =>
    dsimp only at h
    split at h
    · next m hm =>
      obtain rfl := Option.some.inj (Except.ok.inj h)
      exact le_of_natural? hm
    · cases h

/-- A page is asked for by a number of 32 bits. -/
theorem le_of_listing {form : List (String × String)} {request : ListingRequest}
    (h : listing form = .ok request) {page : ℕ} (hpage : request.page = some page) :
    page ≤ uint32Max := by
  obtain ⟨page', hpage', h⟩ := exists_of_bind_eq_ok h
  obtain ⟨limit, -, h⟩ := exists_of_bind_eq_ok h
  obtain ⟨order, -, h⟩ := exists_of_bind_eq_ok h
  obtain ⟨sort, -, h⟩ := exists_of_bind_eq_ok h
  rw [← Except.ok.inj h] at hpage
  obtain rfl : page' = some page := hpage
  exact le_of_value?_natural? hpage'

end Form

/-- The numbers of rows before and up to the page fit into 64 bits, and none of them is cut off. -/
structure PageRequest.Fits (r : PageRequest) : Prop where
  seen : r.page * r.limit ≤ uint64Max
  offset : r.offset = (r.page - 1) * r.limit

/-- Every page that a query string can ask for fits. -/
theorem Listing.fits_of_parse {ρ : Type} {columns : Columns ρ} {request : ListingRequest}
    {form : List (String × String)} {l : Listing ρ} (hform : Form.listing form = .ok request)
    (h : parse columns request = .ok l) : l.request.Fits := by
  obtain ⟨hmake, -, -⟩ := parse_eq_ok_iff.mp h
  obtain ⟨hrequest, -, -, hlimit⟩ := PageRequest.make_eq_ok_iff.mp hmake
  have hpage : l.request.page ≤ uint32Max := by
    rw [hrequest]
    cases hgiven : request.page with
    | none =>
      show 1 ≤ uint32Max
      decide
    | some page => exact Form.le_of_listing hform hgiven
  refine ⟨?_, PageRequest.offset_eq hpage hlimit⟩
  calc l.request.page * l.request.limit
      ≤ uint32Max * maxLimit := Nat.mul_le_mul hpage hlimit
    _ ≤ uint64Max := by decide

/-- The year before an accepted one is one of 32 bits, too. -/
theorem YearFilter.pred_mem_of_parse {raw : Option String} {year : ℕ}
    (h : parse raw = .ok (.fiscalYear year)) :
    int32Bounds.1 ≤ (year : Int) - 1 ∧ (year : Int) - 1 ≤ int32Bounds.2 := by
  have hyear : (year : Int) ≤ int32Bounds.2 := by
    simp only [parse] at h
    split at h
    · cases h
    · split at h
      · cases h
      · split at h
        · next hnumber =>
          obtain rfl := YearFilter.fiscalYear.inj (Except.ok.inj h)
          exact of_decide_eq_true (Bool.and_eq_true_iff.mp hnumber).2
        · cases h
  simp only [int32Bounds] at hyear ⊢
  omega

/-! ## Responses -/

theorem WebResponse.status_notFound_lt : notFound.status < 500 := by decide

/-- A stage without a response counts as one where there is nothing. -/
theorem Stage.Civil.status_lt {stage : Stage} (h : stage.Civil) :
    (Service.responseOf stage).status < 500 := by
  cases stage with
  | look => exact WebResponse.status_notFound_lt
  | compute => exact WebResponse.status_notFound_lt
  | store body => exact WebResponse.status_notFound_lt
  | done response => exact h

namespace Service

variable {v : Service σ} {scope : Scope} {r : WebRequest}

/-- A call that is answered fairly. -/
theorem status_answer_lt {key : CacheKey} {call : Call} (hscope : scope.IsHeader)
    (hfair : ∀ a ∈ v.backend.attempts (v.answer scope key call s).asked s, a.Fair) :
    (v.answer scope key call s).response.status < 500 := by
  let job : Job := ⟨key, call.inquiry v.circumstances, scope⟩
  have hcivil : (job.run v.backend s).stage.Civil :=
    Job.civil_steps (call.asks_inquiry v.circumstances)
      (call.refusesClient_inquiry v.circumstances) hscope 3 trivial hfair
  exact hcivil.status_lt

/-- A request to an endpoint of data, with an identifier that can be sent in a header. -/
theorem status_atEndpoint_lt (health : Health) {e : Endpoint} {captures : List String}
    (hready : e ≠ .ready) (hlive : e ≠ .live) (hscope : scope.IsHeader)
    (hfair : ∀ a ∈ v.backend.attempts (v.atEndpoint health scope r e captures s).asked s, a.Fair) :
    (v.atEndpoint health scope r e captures s).response.status < 500 := by
  unfold atEndpoint at hfair ⊢
  split at hfair
  · exact absurd rfl hready
  · exact absurd rfl hlive
  -- A body that is too large is turned down before anything is read.
  · by_cases hlarge : (e.takesBody && decide (r.body.length > bodyLimit)) = true
    · rw [if_pos hlarge]
      show 413 < 500
      decide
    · rw [if_neg hlarge] at hfair ⊢
      cases hcall : e.call captures r.query r.body with
      | error why =>
        exact WebResponse.ofFault_status_lt (e.checksClient_call _ _ _ why hcall) hscope
      | ok found =>
        rw [hcall] at hfair
        cases found with
        | none => exact WebResponse.status_notFound_lt
        | some call =>
          exact status_answer_lt hscope hfair

/-- A request outside of the trace. -/
theorem status_untraced_lt (health : Health)
    (hroute : ∀ e captures, findRoute? r.method r.path = some (e, captures) →
      e ≠ .ready ∧ e ≠ .live)
    (hscope : scope.IsHeader)
    (hfair : ∀ a ∈ v.backend.attempts (v.untraced health scope r s).asked s, a.Fair) :
    (v.untraced health scope r s).response.status < 500 := by
  unfold untraced at hfair ⊢
  cases hfound : findRoute? r.method r.path with
  | none => exact WebResponse.status_notFound_lt
  | some found =>
    rw [hfound] at hfair
    obtain ⟨hready, hlive⟩ := hroute found.1 found.2 hfound
    exact status_atEndpoint_lt health hready hlive hscope hfair

/-- A request to anything but a probe is answered with a status below 500, where the stores do their
part. -/
theorem status_lt_of_fair (health : Health) (trace : Option Uuid)
    (hroute : ∀ e captures, findRoute? r.method r.path = some (e, captures) →
      e ≠ .ready ∧ e ≠ .live)
    (hfair : ∀ a ∈ v.backend.attempts (v.serve health trace r s).asked s, a.Fair) :
    (v.serve health trace r s).response.status < 500 ∧
      (∀ query request, Form.listing (Form.pairs query) = .ok request →
        ∀ (ρ : Type) (columns : Columns ρ) (l : Listing ρ),
          Listing.parse columns request = .ok l → l.request.Fits) ∧
      (∀ raw year, YearFilter.parse raw = .ok (.fiscalYear year) →
        int32Bounds.1 ≤ (year : Int) - 1 ∧ (year : Int) - 1 ≤ int32Bounds.2) ∧
      ∀ today, int32Bounds.1 ≤ fiscalYearOf today ∧ fiscalYearOf today ≤ int32Bounds.2 := by
  refine ⟨?_, ?_, ?_, fiscalYearOf_mem⟩
  · have hscope := Scope.isHeader_trace trace
    cases trace with
    | none => exact status_untraced_lt health hroute hscope hfair
    | some id => exact status_untraced_lt health hroute hscope hfair
  · intro query request hform ρ columns l hl
    exact Listing.fits_of_parse hform hl
  · intro raw year hyear
    exact YearFilter.pred_mem_of_parse hyear

end Service

/-! ## The last page that can be asked for -/

/-- Stores in memory that nothing is made to fail in answer fairly, if their windows name months. -/
theorem Memory.fair_attempts {use : MemoryUse} (hsearch : use.search = none)
    (questions : List Question) {m : Memory} (hclosed : m.stores.closed.NamesMonth) :
    ∀ a ∈ (backend use fun _ => none).attempts questions m, a.Fair := by
  induction questions generalizing m with
  | nil => exact fun a ha => absurd ha List.not_mem_nil
  | cons q rest ih =>
    intro a ha
    rcases List.mem_cons.mp ha with rfl | ha
    · cases q with
      | closedPeriods now => exact hclosed
      | countTransactions filters =>
        simp only [backend, respond, hsearch, Attempt.Fair, Answered.Fair]
      | recipientTotals filters grouping =>
        simp only [backend, respond, hsearch, Attempt.Fair, Answered.Fair]
      | _ => trivial
    · refine ih ?_ a ha
      have hstores : (respond use q m).2.stores = m.stores := stores_respond q m
      simp only [backend, hstores]
      exact hclosed

/-- The greatest page and the greatest limit that can be asked for. -/
def lastPageRequest : WebRequest :=
  .ofTarget "GET" "/api/v2/reporting/agencies/overview/?page=4294967295&limit=100" []

/-- A service with the sample stores. -/
def sampleService : Service Memory := ⟨.sample, Memory.backend {} fun _ => none⟩

/-- The last page is looked up in the stores, and comes out empty. -/
theorem status_lt_of_fair_lastPage :
    ((sampleService.serve {} none lastPageRequest { stores := .sample }).asked.length = 4 ∧
      (sampleService.serve {} none lastPageRequest { stores := .sample }).response.status < 500) ∧
    (∃ request l, Form.listing (Form.pairs lastPageRequest.query) = .ok request ∧
      Listing.parse ReportRow.agencyColumns request = .ok l ∧
      l.request = ⟨4294967295, 100⟩ ∧ l.request.Fits) ∧
    (YearFilter.parse (some "2147483647") = .ok (.fiscalYear 2147483647) ∧
      int32Bounds.1 ≤ ((2147483647 : ℕ) : Int) - 1 ∧
      ((2147483647 : ℕ) : Int) - 1 ≤ int32Bounds.2) := by
  have hfound : findRoute? lastPageRequest.method lastPageRequest.path = some (.agencies, []) := by
    decide +kernel
  have hroute : ∀ e captures, findRoute? lastPageRequest.method lastPageRequest.path =
      some (e, captures) → e ≠ .ready ∧ e ≠ .live := by
    intro e captures h
    obtain ⟨rfl, -⟩ := Prod.mk.inj (Option.some.inj (hfound.symm.trans h))
    decide
  have hclosed : Stores.sample.closed.NamesMonth := by
    intro window hwindow
    obtain rfl := Option.some.inj hwindow
    decide
  obtain ⟨hstatus, hpages, hyears, -⟩ :=
    Service.status_lt_of_fair (v := sampleService) (s := { stores := .sample }) {} none hroute
      (Memory.fair_attempts rfl _ hclosed)
  have hpairs : Form.pairs lastPageRequest.query = [("page", "4294967295"), ("limit", "100")] := by
    decide +kernel
  have hlisting : Form.listing (Form.pairs lastPageRequest.query) =
      .ok { page := some 4294967295, limit := some 100 } := by
    rw [hpairs]
    rfl
  have hyear : YearFilter.parse (some "2147483647") = .ok (.fiscalYear 2147483647) := rfl
  refine ⟨⟨by decide +kernel, hstatus⟩, ⟨_, _, hlisting, rfl, rfl, ?_⟩, hyear, hyears _ _ hyear⟩
  exact hpages _ _ hlisting _ _ _ rfl

end Outlays

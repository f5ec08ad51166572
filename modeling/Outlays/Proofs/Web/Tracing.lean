import Outlays.Proofs.Fault.Written
import Outlays.Proofs.Web.ClientFaults

/-!
# Every response can be traced

A traced request has an identifier, and whatever becomes of the request, its response names it in
one header. A client that is told a fault finds the same identifier in the body: the fault takes it
from the scope where it is made, keeps it where it is shown as less than it is, and can be read
back.

A body out of the response cache can be anything, also something that looks like a fault. It is no
fault of this request, and has the status of a success, which no fault has.

## Main definitions

* `Job.Fails`, `Service.Fails` — the cause for which a request fails
* `Cause.told`, `Service.IsPlain` — what its client is told, and the responses that tell no fault

## Main results

* `Job.stage_run_of_fails`, `Job.stage_run_cases` — a job that fails is told, and all others succeed
* `Service.untraced_of_fails`, `Service.untraced_cases` — faults, and all other responses
* `Service.response_traced` — the identifier in headers and bodies
-/

namespace Outlays

variable {σ : Type} {b : Backend σ} {s : σ} {scope : Scope}

/-! ## Identifiers -/

/-- A written identifier has hyphens, which are not blank. -/
theorem Uuid.notBlank_render (u : Uuid) : Scope.NotBlank (some u.render) := by
  intro t ht
  obtain rfl := Option.some.inj ht
  have hhyphen : Text.isBlank '-' = false := by decide
  rw [Text.isBlankText, render, String.toList_ofList]
  simp only [List.append_assoc, List.cons_append, List.all_append, List.all_cons, hhyphen,
    Bool.false_and, Bool.and_false]

/-- The header is there once, in place of whatever was there under its name. -/
theorem WebResponse.filter_headers_withHeader (name value : String) (r : WebResponse) :
    (r.withHeader name value).headers.filter (·.1 == name) = [(name, value)] := by
  have hothers : (r.headers.filter (·.1 != name)).filter (·.1 == name) = [] := by
    rw [List.filter_filter, List.filter_eq_nil_iff]
    intro header _
    by_cases hname : header.1 = name
    · simp [hname]
    · simp [hname]
  rw [withHeader, List.filter_append, hothers, List.nil_append, List.filter_cons,
    if_pos (beq_self_eq_true name), List.filter_nil]

/-! ## Jobs that fail -/

namespace Job

/-- The job fails for the cause: the response cache has no response, and the inquiry has none. -/
def Fails (b : Backend σ) (job : Job) (s : σ) (cause : Cause) : Prop :=
  isHit (b.answer (.cacheGet job.key) s).1 = false ∧
    (job.inquiry.run b (b.answer (.cacheGet job.key) s).2).result = .error cause

variable {job : Job}

/-- A job stays as it is once it is done. -/
theorem stage_steps_done (b : Backend σ) (job : Job) (n : ℕ) (r : WebResponse) (s : σ) :
    (job.steps b n (.done r) s).stage = .done r := by
  induction n with
  | zero => rfl
  | succ n ih => exact ih

theorem stage_steps_succ (b : Backend σ) (job : Job) (n : ℕ) (stage : Stage) (s : σ) :
    (job.steps b (n + 1) stage s).stage =
      (job.steps b n (job.next b stage s).stage (job.next b stage s).state).stage :=
  rfl

theorem exists_of_isHit {found : Except Failure (Option (List UInt8))} (h : isHit found = true) :
    ∃ body, found = .ok (some body) := by
  match found with
  | .ok (some body) => exact ⟨body, rfl⟩
  | .ok none => cases h
  | .error _ => cases h

/-- Whatever a cache answers that has no response, the job goes on to compute. -/
theorem next_look_stage_of_miss (h : isHit (b.answer (.cacheGet job.key) s).1 = false) :
    (job.next b .look s).stage = .compute := by
  rw [next_look_stage]
  split
  · next hit =>
    rw [hit] at h
    cases h
  · rfl

/-- The response to a job that fails tells the cause. -/
theorem stage_run_of_fails {cause : Cause} (h : job.Fails b s cause) :
    (job.run b s).stage = .done (.ofFault job.scope (cause.fault job.scope)) := by
  obtain ⟨hmiss, hresult⟩ := h
  have hlook := next_look_stage_of_miss hmiss
  have hcompute : (job.next b .compute (job.next b .look s).state).stage =
      .done (job.plainResponse (.error cause)) := by
    rw [next_compute_stage, next_look_state, hresult]
  rw [run, stage_steps_succ, hlook, stage_steps_succ, hcompute, stage_steps_done]
  rfl

/-- The response to a job that does not fail is a success. -/
theorem stage_run_cases (b : Backend σ) (job : Job) (s : σ) :
    (∃ part body, (job.run b s).stage = .done (.ok part body)) ∨ ∃ cause, job.Fails b s cause := by
  cases hhit : isHit (b.answer (.cacheGet job.key) s).1 with
  | true =>
    obtain ⟨body, hbody⟩ := exists_of_isHit hhit
    have hlook : (job.next b .look s).stage = .done (.ok (some replayed) body) := by
      rw [next_look_stage, hbody]
    refine .inl ⟨some replayed, body, ?_⟩
    rw [run, stage_steps_succ, hlook, stage_steps_done]
  | false =>
    cases hresult : (job.inquiry.run b (b.answer (.cacheGet job.key) s).2).result with
    | error cause => exact .inr ⟨cause, hhit, hresult⟩
    | ok json =>
      have hcompute : (job.next b .compute (job.next b .look s).state).stage =
          .store json.renderBytes := by
        rw [next_compute_stage, next_look_state, hresult]
      have hrun : (job.run b s).stage = (job.next b (.store json.renderBytes)
          (job.next b .compute (job.next b .look s).state).state).stage := by
        rw [run, stage_steps_succ, next_look_stage_of_miss hhit, stage_steps_succ, hcompute]
        rfl
      rw [next_store_stage] at hrun
      exact .inl ⟨_, _, hrun⟩

end Job

/-! ## Requests that fail -/

/-- What the client is told of a cause: a fault inside is shown as less than it is. -/
def Cause.told (scope : Scope) (cause : Cause) : Fault := (cause.fault scope).redacted scope

/-- A response that tells a cause has the status of its code, and the fault in the body has the
identifier in scope. -/
theorem WebResponse.ofFault_told (id : Uuid) (cause : Cause) :
    let response := ofFault (some id.render) (cause.fault (some id.render))
    response.status = cause.code.status ∧
      Fault.ofBytes? response.body = some (cause.told (some id.render)) ∧
      (cause.told (some id.render)).trace = some id.render := by
  have hscope := id.notBlank_render
  obtain ⟨hsound, htrace⟩ := (Cause.sound_fault hscope cause).redacted hscope (cause.trace_fault _)
  have hresponse : ofFault (some id.render) (cause.fault (some id.render)) =
      ⟨cause.code.status, [(traceHeader, id.render), json],
        (cause.told (some id.render)).toJson.renderBytes⟩ := by
    rw [ofFault, cause.trace_fault, cause.code_fault]
    exact if_pos id.isHeaderValue_render
  rw [hresponse]
  exact ⟨rfl, hsound.ofBytes?_renderBytes, htrace⟩

namespace Service

/-- The request fails for the cause: it is turned down where its parts are read, or what it asks for
fails. -/
inductive Fails (v : Service σ) (r : WebRequest) (s : σ) : Cause → Prop where
  | parts {e : Endpoint} {captures : List String} {why : Refusal}
      (route : findRoute? r.method r.path = some (e, captures))
      (taken : (e.takesBody && decide (r.body.length > bodyLimit)) = false)
      (turnedDown : e.call captures r.query r.body = .error why) : Fails v r s (.refused why)
  | call {e : Endpoint} {captures : List String} {call : Call} {cause : Cause}
      (route : findRoute? r.method r.path = some (e, captures))
      (taken : (e.takesBody && decide (r.body.length > bodyLimit)) = false)
      (asks : e.call captures r.query r.body = .ok (some call))
      (job : Job.Fails v.backend ⟨r.key e, call.inquiry v.circumstances, none⟩ s cause) :
      Fails v r s cause

/-- The responses that are no faults: successes, those without a body, and the one to a body that is
not taken in. -/
inductive IsPlain : WebResponse → Prop where
  | ok (part : Option String) (body : List UInt8) : IsPlain (.ok part body)
  | bare (status : ℕ) (headers : List (String × String)) : IsPlain ⟨status, headers, []⟩
  | refusedBody : IsPlain (.plain 413 "payload reached size limit")

variable {v : Service σ} {health : Health} {r : WebRequest}

/-- A plain response tells no fault, unless it is a success. -/
theorem IsPlain.ofBytes?_eq_none {response : WebResponse} (h : IsPlain response)
    (hstatus : response.status ≠ 200) : Fault.ofBytes? response.body = none := by
  cases h with
  | ok part body => exact absurd rfl hstatus
  | bare status headers =>
    rw [Fault.ofBytes?, Json.parseBytes, Json.symbols]
    rfl
  | refusedBody => decide +kernel

/-- A request that fails is told so. -/
theorem untraced_of_fails {cause : Cause} (h : v.Fails r s cause) :
    (v.untraced health scope r s).response = .ofFault scope (cause.fault scope) := by
  cases h with
  | parts route taken turnedDown =>
    -- There is no cache to look up yet.
    rw [untraced_eq route taken (by rw [turnedDown]; nofun), turnedDown]
  | @call e captures call cause route taken asks job =>
    have hjob : Job.Fails v.backend ⟨r.key e, call.inquiry v.circumstances, scope⟩ s cause := job
    rw [untraced_eq route taken (by rw [asks]; nofun), asks]
    dsimp only
    rw [answer, Job.stage_run_of_fails hjob]
    rfl

/-- The response to a request that does not fail is a plain one. -/
theorem untraced_cases (v : Service σ) (health : Health) (scope : Scope) (r : WebRequest) (s : σ) :
    IsPlain (v.untraced health scope r s).response ∨ ∃ cause, v.Fails r s cause := by
  unfold untraced
  split
  · exact .inl (.bare _ _)
  · next e captures route =>
    unfold atEndpoint
    split
    · exact .inl (.bare _ _)
    · exact .inl (.bare _ _)
    · split
      · exact .inl .refusedBody
      · next taken =>
        split
        · next why turnedDown =>
          exact .inr ⟨_, .parts route (Bool.eq_false_iff.mpr taken) turnedDown⟩
        · exact .inl (.bare _ _)
        · next call asks =>
          obtain ⟨part, body, hdone⟩ | ⟨cause, hfails⟩ :=
            Job.stage_run_cases v.backend ⟨r.key e, call.inquiry v.circumstances, scope⟩ s
          · rw [answer, hdone]
            exact .inl (.ok part body)
          · exact .inr ⟨cause, .call route (Bool.eq_false_iff.mpr taken) asks hfails⟩

/-- Every response to a traced request carries the identifier of the request, in one header. Where
the request fails, the body is the fault with that identifier, under the status of its code. And no
response but a success has a body that reads as a fault without being the one of this request. -/
theorem response_traced (v : Service σ) (health : Health) (id : Uuid) (r : WebRequest) (s : σ) :
    let response := (v.serve health (some id) r s).response
    response.headers.filter (·.1 == WebResponse.traceHeader) =
        [(WebResponse.traceHeader, id.render)] ∧
      (∀ cause, v.Fails r s cause →
        response.status = cause.code.status ∧
          Fault.ofBytes? response.body = some (cause.told (some id.render)) ∧
          (cause.told (some id.render)).trace = some id.render) ∧
      ∀ f, response.status ≠ 200 → Fault.ofBytes? response.body = some f →
        f.trace = some id.render ∧
          ∃ cause, v.Fails r s cause ∧ f = cause.told (some id.render) := by
  intro response
  have hstatus : response.status = (v.untraced health (some id.render) r s).response.status := rfl
  have hbody : response.body = (v.untraced health (some id.render) r s).response.body := rfl
  have htold (cause : Cause) (h : v.Fails r s cause) :
      response.status = cause.code.status ∧
        Fault.ofBytes? response.body = some (cause.told (some id.render)) ∧
        (cause.told (some id.render)).trace = some id.render := by
    rw [hstatus, hbody, untraced_of_fails h]
    exact WebResponse.ofFault_told id cause
  refine ⟨WebResponse.filter_headers_withHeader _ _ _, htold, fun f hno hf => ?_⟩
  obtain hplain | ⟨cause, hfails⟩ := untraced_cases v health (some id.render) r s
  · rw [hstatus] at hno
    rw [hbody, hplain.ofBytes?_eq_none hno] at hf
    cases hf
  · obtain ⟨-, hread, htrace⟩ := htold cause hfails
    obtain rfl : cause.told (some id.render) = f := Option.some.inj (hread.symm.trans hf)
    exact ⟨htrace, cause, hfails, rfl⟩

end Service

/-! ## A query string that cannot be read -/

/-- A fiscal year is given that is no number. -/
def malformedRequest : WebRequest :=
  .ofTarget "GET" "/api/v2/reporting/agencies/overview/?fiscal_year=next" []

/-- The client is told what is wrong with the query string, and finds the identifier in header and
body. -/
theorem response_traced_malformed :
    let id : Uuid := ⟨List.replicate 32 7, rfl⟩
    let response := (sampleService.serve {} (some id) malformedRequest {}).response
    response.header? WebResponse.traceHeader = some "77777777-7777-7777-7777-777777777777" ∧
      Fault.ofBytes? response.body = some ⟨.invalidRequest,
        "Invalid query parameters: invalid fiscal_year",
        some "77777777-7777-7777-7777-777777777777", some (.obj [("field", .str "query")])⟩ := by
  intro id response
  have hroute : findRoute? malformedRequest.method malformedRequest.path =
      some (.agencies, []) := by
    decide +kernel
  have hpairs : Form.pairs malformedRequest.query = [("fiscal_year", "next")] := by
    decide +kernel
  have hturned : Endpoint.call .agencies [] malformedRequest.query malformedRequest.body =
      .error (.query "invalid fiscal_year") := by
    simp only [Endpoint.call, hpairs]
    rfl
  obtain ⟨hheaders, htold, -⟩ := Service.response_traced sampleService {} id malformedRequest {}
  obtain ⟨-, hread, -⟩ := htold _ (.parts hroute rfl hturned)
  refine ⟨?_, hread⟩
  rw [WebResponse.header?, ← List.head?_filter, hheaders]
  rfl

end Outlays

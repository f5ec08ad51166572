import Mathlib.Data.List.Basic
import Outlays.Web.Serve

/-!
# A request on its way through the stages

A request to a data endpoint becomes a job, and the steps of the job come to know something: what
the response cache answered, how the computation ended, whether the cache took the body. What has
happened to a job decides how far it has come, and the other way round. This account of a job holds
whatever else goes on between its steps, so that it can be used in any interleaving.

## Main definitions

* `Visit` — a request that is taken in at a data endpoint, with the job that it becomes
* `JobEvent`, `Job.events` — what a step of a job comes to know
* `Job.Account` — what has happened to a job in a stage

## Main results

* `Job.Account.next` — one step keeps the account
* `Visit.serve_eq` — serving a request is running its job, and sending the response
-/

namespace Outlays

variable {σ : Type}

/-! ## Requests that are taken in -/

/-- A request that is taken in, and asks for something, is turned down or served. -/
theorem Service.untraced_eq {v : Service σ} {health : Health} {scope : Scope} {r : WebRequest}
    {e : Endpoint} {captures : List String} {s : σ}
    (route : findRoute? r.method r.path = some (e, captures))
    (taken : (e.takesBody && decide (r.body.length > bodyLimit)) = false)
    (asks : e.call captures r.query r.body ≠ .ok none) :
    v.untraced health scope r s =
      match e.call captures r.query r.body with
      | .error why => ⟨.ofFault scope (Cause.fault scope (.refused why)), s, []⟩
      | .ok none => ⟨.notFound, s, []⟩
      | .ok (some call) => v.answer scope (r.key e) call s := by
  -- The probes are asked for nothing.
  have hready : e ≠ .ready := by
    rintro rfl
    exact asks rfl
  have hlive : e ≠ .live := by
    rintro rfl
    exact asks rfl
  rw [untraced, route]
  cases hcall : e.call captures r.query r.body with
  | error why => simp only [atEndpoint, taken, hcall, Bool.false_eq_true, if_false]
  | ok call =>
    cases call with
    | none => exact absurd hcall asks
    | some call => simp only [atEndpoint, taken, hcall, Bool.false_eq_true, if_false]

/-! ## Visits -/

/-- A request that is taken in at a data endpoint, with the call that it makes there and what is
known at that moment. -/
structure Visit where
  request : WebRequest
  trace : Option Uuid
  circumstances : Circumstances
  endpoint : Endpoint
  captures : List String
  call : Call
  route : findRoute? request.method request.path = some (endpoint, captures)
  taken : (endpoint.takesBody && decide (request.body.length > bodyLimit)) = false
  asks : endpoint.call captures request.query request.body = .ok (some call)

namespace Visit

/-- The identifier of the request, as faults carry it. -/
def scope (v : Visit) : Scope := v.trace.map Uuid.render

/-- The fingerprint of the request. -/
def key (v : Visit) : CacheKey := v.request.key v.endpoint

/-- The job that the request becomes. -/
def job (v : Visit) : Job := ⟨v.key, v.call.inquiry v.circumstances, v.scope⟩

/-- A response as it is sent: with the identifier of the request, where that has one. -/
def sent (v : Visit) (r : WebResponse) : WebResponse :=
  match v.trace with
  | none => r
  | some id => r.withHeader WebResponse.traceHeader id.render

@[simp] theorem sent_status (v : Visit) (r : WebResponse) : (v.sent r).status = r.status := by
  rw [sent]
  split <;> rfl

@[simp] theorem sent_body (v : Visit) (r : WebResponse) : (v.sent r).body = r.body := by
  rw [sent]
  split <;> rfl

/-- The identifier is no part of what is told of the cache. -/
theorem header?_cacheHeader_sent (v : Visit) (r : WebResponse) :
    (v.sent r).header? WebResponse.cacheHeader = r.header? WebResponse.cacheHeader := by
  rw [sent]
  split
  · rfl
  -- What is taken out to make room has the name of the identifier, not that of the cache.
  · have hkept : (fun h : String × String => decide ((h.1 != WebResponse.traceHeader) = true ∧
        (h.1 == WebResponse.cacheHeader) = true)) = fun h => h.1 == WebResponse.cacheHeader := by
      funext h
      by_cases hname : h.1 = WebResponse.cacheHeader
      · rw [hname]
        decide
      · simp [hname]
    have hother : (WebResponse.traceHeader == WebResponse.cacheHeader) = false := by decide
    simp only [WebResponse.header?, WebResponse.withHeader, List.find?_append, List.find?_filter,
      hkept, List.find?_cons, hother, List.find?_nil, Option.or_none]

/-- To serve the request is to run its job to the end, and to send the response. -/
theorem serve_eq (v : Visit) (b : Backend σ) (health : Health) (s : σ) :
    (Service.serve ⟨v.circumstances, b⟩ health v.trace v.request s).response =
      v.sent (Service.responseOf (v.job.run b s).stage) := by
  have hanswer (scope : Scope) :
      Service.untraced ⟨v.circumstances, b⟩ health scope v.request s =
        Service.answer ⟨v.circumstances, b⟩ scope v.key v.call s := by
    have hasks : v.endpoint.call v.captures v.request.query v.request.body ≠ .ok none := by
      rw [v.asks]
      nofun
    rw [Service.untraced_eq v.route v.taken hasks, v.asks]
    rfl
  rw [sent, job, scope]
  cases htrace : v.trace with
  | none =>
    simp only [Service.serve, hanswer]
    rfl
  | some id =>
    simp only [Service.serve, hanswer]
    rfl

end Visit

/-! ## What happens to a job -/

/-- What a step of a job comes to know. -/
inductive JobEvent where
  /-- The answer of the response cache when it was looked up. -/
  | found (answer : Except Failure (Option (List UInt8)))
  /-- The end of the computation. -/
  | computed (result : Except Cause Json)
  /-- The answer of the response cache when it was given a body. -/
  | put (body : List UInt8) (answer : Except Failure Unit)

namespace Job

/-- The event of the next step of a job. There is none where the job is done. -/
def events (b : Backend σ) (job : Job) (stage : Stage) (s : σ) : List JobEvent :=
  match stage with
  | .look => [.found (b.answer (.cacheGet job.key) s).1]
  | .compute => [.computed (job.inquiry.run b s).result]
  | .store body => [.put body (b.answer (.cachePut job.key body) s).1]
  | .done _ => []

/-- A step comes to know one thing at most. -/
theorem events_eq_nil_or_singleton (b : Backend σ) (job : Job) (stage : Stage) (s : σ) :
    job.events b stage s = [] ∨ ∃ e, job.events b stage s = [e] := by
  cases stage with
  | look => exact .inr ⟨_, rfl⟩
  | compute => exact .inr ⟨_, rfl⟩
  | store body => exact .inr ⟨_, rfl⟩
  | done response => exact .inl rfl

/-- What a step finds is what the cache answers it. -/
theorem answer_of_found_mem_events {b : Backend σ} {job : Job} {stage : Stage} {s : σ}
    {answer : Except Failure (Option (List UInt8))} (h : .found answer ∈ job.events b stage s) :
    (b.answer (.cacheGet job.key) s).1 = answer := by
  cases stage with
  | look => exact (JobEvent.found.inj (List.mem_singleton.mp h)).symm
  | compute => cases List.mem_singleton.mp h
  | store body => cases List.mem_singleton.mp h
  | done response => cases h

/-- The cache had the response. -/
def isHit : Except Failure (Option (List UInt8)) → Bool
  | .ok (some _) => true
  | _ => false

/-- The part of the cache in a response that has been computed. -/
def partOf : Except Failure Unit → Option String
  | .ok _ => some stored
  | .error _ => none

/-- The response to a computation, where there is no cache. -/
def plainResponse (job : Job) : Except Cause Json → WebResponse
  | .ok json => .ok none json.renderBytes
  | .error cause => .ofFault job.scope (cause.fault job.scope)

/-- What has happened to a job in a stage, the last event first. -/
inductive Account (job : Job) : Stage → List JobEvent → Prop where
  | look : Account job .look []
  | replay (body : List UInt8) :
      Account job (.done (.ok (some replayed) body)) [.found (.ok (some body))]
  | compute {answer : Except Failure (Option (List UInt8))} (miss : isHit answer = false) :
      Account job .compute [.found answer]
  | fault {answer : Except Failure (Option (List UInt8))} (miss : isHit answer = false)
      (cause : Cause) :
      Account job (.done (job.plainResponse (.error cause)))
        [.computed (.error cause), .found answer]
  | store {answer : Except Failure (Option (List UInt8))} (miss : isHit answer = false)
      (json : Json) :
      Account job (.store json.renderBytes) [.computed (.ok json), .found answer]
  | computed {answer : Except Failure (Option (List UInt8))} (miss : isHit answer = false)
      (json : Json) (put : Except Failure Unit) :
      Account job (.done (.ok (partOf put) json.renderBytes))
        [.put json.renderBytes put, .computed (.ok json), .found answer]

variable {job : Job}

/-- Looked up, a job is done with what the cache has, or goes on to compute: no matter whether the
cache has nothing or fails. -/
theorem next_look_stage (b : Backend σ) (job : Job) (s : σ) :
    (job.next b .look s).stage =
      match (b.answer (.cacheGet job.key) s).1 with
      | .ok (some body) => .done (.ok (some replayed) body)
      | _ => .compute := by
  rw [next]
  generalize b.answer (.cacheGet job.key) s = answered
  obtain ⟨how | found, s'⟩ := answered
  · rfl
  · cases found <;> rfl

theorem next_look_state (b : Backend σ) (job : Job) (s : σ) :
    (job.next b .look s).state = (b.answer (.cacheGet job.key) s).2 := by
  rw [next]
  generalize b.answer (.cacheGet job.key) s = answered
  obtain ⟨how | found, s'⟩ := answered
  · rfl
  · cases found <;> rfl

theorem next_compute_stage (b : Backend σ) (job : Job) (s : σ) :
    (job.next b .compute s).stage =
      match (job.inquiry.run b s).result with
      | .ok json => .store json.renderBytes
      | .error cause => .done (job.plainResponse (.error cause)) := by
  rw [next]
  generalize job.inquiry.run b s = outcome
  obtain ⟨result, s', asked⟩ := outcome
  cases result <;> rfl

theorem next_compute_state (b : Backend σ) (job : Job) (s : σ) :
    (job.next b .compute s).state = (job.inquiry.run b s).state := by
  rw [next]
  generalize job.inquiry.run b s = outcome
  obtain ⟨result, s', asked⟩ := outcome
  cases result <;> rfl

theorem next_store_stage (b : Backend σ) (job : Job) (body : List UInt8) (s : σ) :
    (job.next b (.store body) s).stage =
      .done (.ok (partOf (b.answer (.cachePut job.key body) s).1) body) := by
  simp only [next]
  cases (b.answer (.cachePut job.key body) s).1 <;> rfl

theorem next_store_state (b : Backend σ) (job : Job) (body : List UInt8) (s : σ) :
    (job.next b (.store body) s).state = (b.answer (.cachePut job.key body) s).2 := by
  simp only [next]

/-- One step keeps the account, in whatever state it finds the stores. -/
theorem Account.next {stage : Stage} {events : List JobEvent} (h : Account job stage events)
    (b : Backend σ) (s : σ) :
    Account job (job.next b stage s).stage (job.events b stage s ++ events) := by
  cases h with
  | look =>
    rw [next_look_stage]
    simp only [Job.events]
    cases hanswer : (b.answer (.cacheGet job.key) s).1 with
    -- A cache that fails is taken for one that has nothing.
    | error how => exact .compute rfl
    | ok found =>
      cases found with
      | none => exact .compute rfl
      | some body => exact .replay body
  | compute miss =>
    rw [next_compute_stage]
    simp only [Job.events]
    cases hresult : (job.inquiry.run b s).result with
    | ok json => exact .store miss json
    | error cause => exact .fault miss cause
  | store miss json =>
    rw [next_store_stage]
    exact .computed miss json _
  | replay body => exact .replay body
  | fault miss cause => exact .fault miss cause
  | computed miss json put => exact .computed miss json put

end Job

/-! ## Responses of a job -/

theorem FaultCode.status_ne_ok (c : FaultCode) : c.status ≠ 200 := by
  cases c <;> decide

theorem WebResponse.ofFault_status_ne_ok (scope : Scope) (f : Fault) :
    (ofFault scope f).status ≠ 200 := by
  rw [ofFault]
  split
  · exact f.code.status_ne_ok
  · split
    · exact f.code.status_ne_ok
    · decide

/-- A fault tells nothing of the cache. -/
theorem WebResponse.header?_cacheHeader_ofFault (scope : Scope) (f : Fault) :
    (ofFault scope f).header? cacheHeader = none := by
  have htrace : (traceHeader == cacheHeader) = false := by decide
  have hjson : (json.1 == cacheHeader) = false := by decide
  have hplain : ("content-type" == cacheHeader) = false := by decide
  rw [ofFault]
  split
  · simp only [header?, List.find?_cons, hjson, List.find?_nil, Option.map_none]
  · split
    · simp only [header?, List.find?_cons, htrace, hjson, List.find?_nil, Option.map_none]
    · simp only [header?, plain, List.find?_cons, hplain, List.find?_nil, Option.map_none]

/-- A response with a body tells the part of the cache. -/
theorem WebResponse.header?_cacheHeader_ok (part : Option String) (body : List UInt8) :
    (ok part body).header? cacheHeader = part := by
  have hjson : (json.1 == cacheHeader) = false := by decide
  cases part with
  | none =>
    simp only [header?, ok, Option.map_none, Option.toList_none, List.find?_cons, hjson,
      List.find?_nil]
  | some part =>
    simp only [header?, ok, Option.map_some, Option.toList_some, List.find?_cons, hjson,
      beq_self_eq_true]

namespace Job.Account

variable {job : Job} {stage : Stage} {r : WebResponse} {events : List JobEvent}

/-- Three steps finish a job, whatever the cache does. -/
theorem done_of_three_le (h : Account job stage events) (hlength : 3 ≤ events.length) :
    ∃ r, stage = .done r := by
  cases h with
  | computed miss json put => exact ⟨_, rfl⟩
  | look => exact absurd hlength (by decide)
  | replay body => exact absurd hlength (by simp)
  | compute miss => exact absurd hlength (by simp)
  | fault miss cause => exact absurd hlength (by simp)
  | store miss json => exact absurd hlength (by simp)

/-- A computation that fails is the end of a job: it puts nothing, and the response is the fault. -/
theorem of_computed_error {cause : Cause} (h : Account job stage events)
    (hmem : JobEvent.computed (.error cause) ∈ events) :
    (∀ body answer, JobEvent.put body answer ∉ events) ∧
      stage = .done (.ofFault job.scope (cause.fault job.scope)) := by
  cases h with
  | fault miss cause' =>
    obtain rfl : cause = cause' := by simpa using hmem
    exact ⟨by simp, rfl⟩
  | look => simp at hmem
  | replay body => simp at hmem
  | compute miss => simp at hmem
  | store miss json => simp at hmem
  | computed miss json put => simp at hmem

/-- A response that is no fault has the body that was computed, or the one that was found. -/
theorem body_of_status (h : Account job (.done r) events) (hstatus : r.status = 200) :
    (∃ json, JobEvent.computed (.ok json) ∈ events ∧ r.body = json.renderBytes) ∨
      JobEvent.found (.ok (some r.body)) ∈ events := by
  cases h with
  | replay body => exact .inr List.mem_cons_self
  | fault miss cause => exact absurd hstatus (WebResponse.ofFault_status_ne_ok _ _)
  | computed miss json put => exact .inl ⟨json, by simp, rfl⟩

/-- Where the cache fails, the response has the status and the body that the computation gives it
without any cache. -/
theorem of_cache_failure (h : Account job (.done r) events)
    (hfailure : (∃ how, JobEvent.found (.error how) ∈ events) ∨
      ∃ body how, JobEvent.put body (.error how) ∈ events) :
    ∃ result, JobEvent.computed result ∈ events ∧
      r.status = (job.plainResponse result).status ∧ r.body = (job.plainResponse result).body := by
  cases h with
  | replay body => simp at hfailure
  | fault miss cause => exact ⟨.error cause, by simp, rfl, rfl⟩
  | computed miss json put => exact ⟨.ok json, by simp, rfl, rfl⟩

/-- Exactly a replay says that the cache was hit. -/
theorem header_eq_replayed_iff (h : Account job (.done r) events) :
    r.header? WebResponse.cacheHeader = some replayed ↔
      ∃ body, JobEvent.found (.ok (some body)) ∈ events := by
  cases h with
  | replay body =>
    rw [WebResponse.header?_cacheHeader_ok]
    exact ⟨fun _ => ⟨body, List.mem_cons_self⟩, fun _ => rfl⟩
  | @fault answer miss cause =>
    rw [plainResponse, WebResponse.header?_cacheHeader_ofFault]
    refine ⟨nofun, ?_⟩
    -- The one thing that was found was a miss.
    rintro ⟨body, hmem⟩
    obtain rfl : .ok (some body) = answer := by simpa using hmem
    cases miss
  | @computed answer miss json put =>
    rw [WebResponse.header?_cacheHeader_ok]
    constructor
    · cases put with
      | ok _ => exact fun h => absurd (Option.some.inj h) (by decide)
      | error _ => exact nofun
    · rintro ⟨body, hmem⟩
      obtain rfl : .ok (some body) = answer := by simpa using hmem
      cases miss

/-- Exactly a computed response that the cache took says that the cache was set. -/
theorem header_eq_stored_iff (h : Account job (.done r) events) :
    r.header? WebResponse.cacheHeader = some stored ↔
      ∃ json, JobEvent.computed (.ok json) ∈ events ∧
        JobEvent.put json.renderBytes (.ok ()) ∈ events := by
  cases h with
  | replay body =>
    rw [WebResponse.header?_cacheHeader_ok]
    exact ⟨fun h => absurd (Option.some.inj h) (by decide), by simp⟩
  | fault miss cause =>
    rw [plainResponse, WebResponse.header?_cacheHeader_ofFault]
    exact ⟨nofun, by simp⟩
  | computed miss json put =>
    rw [WebResponse.header?_cacheHeader_ok]
    constructor
    · cases put with
      | ok _ => exact fun _ => ⟨json, by simp, List.mem_cons_self⟩
      | error _ => exact nofun
    · rintro ⟨json', -, hmem⟩
      obtain ⟨-, rfl⟩ : json'.renderBytes = json.renderBytes ∧ .ok () = put := by simpa using hmem
      rfl

/-- A response says nothing else of the cache. -/
theorem header_cases (h : Account job (.done r) events) :
    r.header? WebResponse.cacheHeader = some replayed ∨
      r.header? WebResponse.cacheHeader = some stored ∨
      r.header? WebResponse.cacheHeader = none := by
  cases h with
  | replay body => exact .inl (WebResponse.header?_cacheHeader_ok _ _)
  | fault miss cause => exact .inr (.inr (WebResponse.header?_cacheHeader_ofFault _ _))
  | computed miss json put =>
    rw [WebResponse.header?_cacheHeader_ok]
    cases put with
    | ok _ => exact .inr (.inl rfl)
    | error _ => exact .inr (.inr rfl)

end Job.Account

end Outlays

import Outlays.Web.Request
import Outlays.Web.Response

/-!
# Serving requests

A request to a data endpoint goes through three stages: the response cache is looked up, the
answer is computed, and the answer is stored. A failing cache changes nothing but the header that
tells its part, and no fault is ever stored.

## Main definitions

* `Job`, `Stage`, `Job.next`, `Job.run` — one request on its way through the stages
* `Health` — what the probes tell
* `Service`, `Service.serve` — the response to a request
-/

namespace Outlays

/-- What is done for a request: the inquiry that answers it, under the fingerprint of the request
and in the scope of its identifier. -/
structure Job where
  key : CacheKey
  inquiry : Inquiry Json
  scope : Scope

/-- How far a job has come. -/
inductive Stage where
  | look
  | compute
  | store (body : List UInt8)
  | done (response : WebResponse)
  deriving Repr

/-- What a step leaves behind. -/
structure Step (σ : Type) where
  stage : Stage
  state : σ
  asked : List Question := []

namespace Job

variable {σ : Type}

/-- The response was stored before. -/
def replayed : String := "hit-cache"

/-- The response has been computed and stored. -/
def stored : String := "set-cache"

/-- One step of a job. -/
def next (b : Backend σ) (job : Job) (stage : Stage) (s : σ) : Step σ :=
  match stage with
  | .look =>
    let (found, s) := b.answer (.cacheGet job.key) s
    match found with
    | .ok (some body) => ⟨.done (.ok (some replayed) body), s, [.cacheGet job.key]⟩
    | _ => ⟨.compute, s, [.cacheGet job.key]⟩
  | .compute =>
    let o := job.inquiry.run b s
    match o.result with
    | .ok json => ⟨.store json.renderBytes, o.state, o.asked⟩
    | .error cause =>
      ⟨.done (.ofFault job.scope (cause.fault job.scope)), o.state, o.asked⟩
  | .store body =>
    let (put, s) := b.answer (.cachePut job.key body) s
    let part := match put with
      | .ok _ => some stored
      | .error _ => none
    ⟨.done (.ok part body), s, [.cachePut job.key body]⟩
  | .done response => ⟨.done response, s, []⟩

/-- So many steps of a job, one after the other. -/
def steps (b : Backend σ) (job : Job) : Nat → Stage → σ → Step σ
  | 0, stage, s => ⟨stage, s, []⟩
  | n + 1, stage, s =>
    let first := job.next b stage s
    let rest := steps b job n first.stage first.state
    { rest with asked := first.asked ++ rest.asked }

/-- The whole of a job, which three steps finish. -/
def run (b : Backend σ) (job : Job) (s : σ) : Step σ := job.steps b 3 .look s

end Job

/-- What the probes tell. -/
structure Health where
  ready : Bool := false
  live : Bool := true
  deriving DecidableEq, Repr

/-- The greatest body that is taken in. -/
def bodyLimit : Nat := 262144

/-- A service: what it knows, and the stores behind it. -/
structure Service (σ : Type) where
  circumstances : Circumstances
  backend : Backend σ

/-- What a request leads to. -/
structure Served (σ : Type) where
  response : WebResponse
  state : σ
  asked : List Question := []

namespace Service

variable {σ : Type}

/-- The response of a finished stage. -/
def responseOf : Stage → WebResponse
  | .done response => response
  | _ => .notFound

/-- Serves a call under the fingerprint of its request. -/
def answer (v : Service σ) (scope : Scope) (key : CacheKey) (call : Call) (s : σ) : Served σ :=
  let last := Job.run v.backend ⟨key, call.inquiry v.circumstances, scope⟩ s
  ⟨responseOf last.stage, last.state, last.asked⟩

/-- Serves a request to an endpoint. -/
def atEndpoint (v : Service σ) (health : Health) (scope : Scope) (r : WebRequest) (e : Endpoint)
    (captures : List String) (s : σ) : Served σ :=
  match e with
  | .ready => ⟨.probe health.ready, s, []⟩
  | .live => ⟨.probe health.live, s, []⟩
  | e =>
    if e.takesBody && r.body.length > bodyLimit then
      ⟨.plain 413 "payload reached size limit", s, []⟩
    else
      match e.call captures r.query r.body with
      | .error why => ⟨.ofFault scope (Cause.fault scope (.refused why)), s, []⟩
      | .ok none => ⟨.notFound, s, []⟩
      | .ok (some call) => v.answer scope (r.key e) call s

/-- Serves a request outside of the trace. -/
def untraced (v : Service σ) (health : Health) (scope : Scope) (r : WebRequest) (s : σ) :
    Served σ :=
  match findRoute? r.method r.path with
  | none => ⟨.notFound, s, []⟩
  | some (e, captures) => v.atEndpoint health scope r e captures s

/-- Serves a request. One that is traced has an identifier, which every response to it carries. -/
def serve (v : Service σ) (health : Health) (trace : Option Uuid) (r : WebRequest) (s : σ) :
    Served σ :=
  match trace with
  | none => v.untraced health none r s
  | some id =>
    let served := v.untraced health (some id.render) r s
    { served with response := served.response.withHeader WebResponse.traceHeader id.render }

end Service

end Outlays

import Outlays.Call
import Outlays.Web.Body
import Outlays.Web.Form
import Outlays.Web.Route

/-!
# Requests over the web

A request has a method, a path, a query string and a body. What it asks for is read from the open
segments of its path first, then from the query string or from the body.

## Main definitions

* `WebRequest`, `WebRequest.ofTarget` — a request, from the text after its method
* `Endpoint.call` — what a request asks for
* `WebRequest.key` — the fingerprint of a request
-/

namespace Outlays

/-- A request; the path and the query string are as they were sent. -/
structure WebRequest where
  method : String
  path : String
  query : String
  body : List UInt8
  deriving DecidableEq, Repr

namespace WebRequest

/-- The path and what follows it, without the scheme and the authority of a full address. -/
def withoutAuthority (cs : List Char) : List Char :=
  let scheme := cs.takeWhile fun c => c.isAlphanum || c == '+' || c == '-' || c == '.'
  match cs.drop scheme.length with
  | ':' :: '/' :: '/' :: rest =>
    let tail := rest.dropWhile fun c => !(c == '/' || c == '?')
    if tail.head? == some '/' then tail else '/' :: tail
  | _ => cs

/-- The request for a target, which is a path with a query string, or a full address. -/
def ofTarget (method target : String) (body : List UInt8) : WebRequest :=
  let cs := withoutAuthority (target.toList.takeWhile (· != '#'))
  { method, body
    path := String.ofList (cs.takeWhile (· != '?'))
    query := String.ofList ((cs.dropWhile (· != '?')).drop 1) }

end WebRequest

namespace Endpoint

/-- The fiscal year and the fiscal period of a path. -/
def pathPeriod (year period : String) : Except Refusal (Int × Nat) :=
  match Form.integer? year, Form.natural? uint8Max period with
  | some y, some p => .ok (y, p)
  | _, _ => .error (.path "invalid number")

/-- The body plays a part in what a request asks for. -/
def takesBody : Endpoint → Bool
  | .accountCount | .downloadCount => true
  | _ => false

/-- What a request asks for; the probes ask for nothing. -/
def call (e : Endpoint) (captures : List String) (query : String) (body : List UInt8) :
    Except Refusal (Option Call) := do
  let form := Form.pairs query
  match e, captures with
  | .accountCount, [] => return some (.accountCount (← Body.defCodes body))
  | .downloadCount, [] => return some (.downloadCount (← Body.downloadFilters body))
  | .children, [duns] => return some (.children duns (← Form.text? form "year"))
  | .overview, [id] => return some (.overview id (← Form.text? form "year"))
  | .agencies, [] => do
    let (year, period) ← Form.period form
    let filter ← Form.text? form "filter"
    return some (.agencies year period filter (← Form.listing form))
  | .periods, [code] => return some (.periods code (← Form.listing form))
  | .differences, [code] => do
    let (year, period) ← Form.period form
    return some (.differences code year period (← Form.listing form))
  | .publications, [code, year, period] => do
    let (year, period) ← pathPeriod year period
    return some (.publications code year period (← Form.listing form))
  | _, _ => return none

end Endpoint

/-- The fingerprint of a request to an endpoint. The body counts where it plays a part. -/
def WebRequest.key (r : WebRequest) (e : Endpoint) : CacheKey :=
  CacheKey.ofRequest r.method r.path r.query (if e.takesBody then r.body else [])

end Outlays

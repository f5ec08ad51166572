import Outlays.Fault.Basic
import Outlays.Json.Printer
import Outlays.Text.Utf8

/-!
# Responses over the web

A response has a status, headers and a body. A fault becomes the response with the status of its
code. What is wrong inside is not shown: a client is told no more than that something is.

## Main definitions

* `WebResponse`, `WebResponse.ok`, `WebResponse.notFound`
* `WebResponse.ofFault`, `Fault.redacted`
-/

namespace Outlays

/-- A response; the names of its headers are in lower case. -/
structure WebResponse where
  status : Nat
  headers : List (String × String)
  body : List UInt8
  deriving DecidableEq, Repr

/-- The status of a code. -/
def FaultCode.status : FaultCode → Nat
  | .invalidRequest => 400
  | .notFound => 404
  | .unprocessableEntity => 422
  | .serviceUnavailable => 503
  | .internalError => 500

/-- The fault as clients see it. One inside keeps nothing but its identifier. -/
def Fault.redacted (scope : Scope) (f : Fault) : Fault :=
  match f.code with
  | .internalError =>
    let shown := Fault.make scope .internalError FaultCode.internalError.fallback
    match f.trace with
    | some t => shown.withTrace t
    | none => shown
  | _ => f

namespace WebResponse

/-- The header with the identifier of a request. -/
def traceHeader : String := "trace-id"

/-- The header with the part that the response cache played. -/
def cacheHeader : String := "cache-trace"

/-- The value of the content type of JSON. -/
def json : String × String := ("content-type", "application/json")

/-- A response of plain text. -/
def plain (status : Nat) (text : String) : WebResponse :=
  ⟨status, [("content-type", "text/plain; charset=utf-8")], Text.encode text⟩

/-- A response with a JSON body, and with the part that the response cache played. -/
def ok (cache : Option String) (body : List UInt8) : WebResponse :=
  ⟨200, json :: (cache.map fun value => (cacheHeader, value)).toList, body⟩

/-- The response where there is nothing. -/
def notFound : WebResponse := ⟨404, [], []⟩

/-- The response of a probe. -/
def probe (fine : Bool) : WebResponse :=
  ⟨if fine then 200 else 503, [("cache-control", "no-store")], []⟩

/-- The text may be the value of a header: it has no controls but tabs. -/
def isHeaderValue (s : String) : Bool :=
  s.toList.all fun c => c == '\t' || !(c.toNat < 0x20 || c.toNat == 0x7F)

/-- The response with a header, in place of those of the same name. -/
def withHeader (name value : String) (r : WebResponse) : WebResponse :=
  { r with headers := r.headers.filter (·.1 != name) ++ [(name, value)] }

/-- The first value of a header. -/
def header? (name : String) (r : WebResponse) : Option String :=
  (r.headers.find? (·.1 == name)).map (·.2)

/-- The response that tells a fault. -/
def ofFault (scope : Scope) (f : Fault) : WebResponse :=
  let body := (f.redacted scope).toJson.renderBytes
  match f.trace with
  | none => ⟨f.code.status, [json], body⟩
  | some t =>
    if isHeaderValue t then ⟨f.code.status, [(traceHeader, t), json], body⟩
    else plain 500 "failed to parse header value"

end WebResponse

end Outlays

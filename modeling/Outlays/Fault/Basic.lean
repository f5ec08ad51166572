import Outlays.Json.Reader
import Outlays.Text.Blank

/-!
# Faults

What a client is told when a request fails: a code, a message, the identifier of the request, and
details. No message is blank, and no identifier is. A fault made while a request is served takes
the identifier of that request, the one in scope; a fault read from JSON has only its own.

## Main definitions

* `FaultCode`, `Fault`
* `Fault.make`, `Fault.make?` — a fault with the identifier in scope
* `Fault.withTrace`, `Fault.withTrace?`, `Fault.withDetails` — faults with one part replaced
* `Fault.toJson`, `Fault.read` — the written form
-/

namespace Outlays

/-- The kind of a failure. -/
inductive FaultCode where
  | invalidRequest
  | notFound
  | unprocessableEntity
  | serviceUnavailable
  | internalError
  deriving DecidableEq, Repr

namespace FaultCode

/-- The codes with their written names. -/
def names : List (String × FaultCode) := [
  ("invalid_request", .invalidRequest), ("not_found", .notFound),
  ("unprocessable_entity", .unprocessableEntity), ("service_unavailable", .serviceUnavailable),
  ("internal_error", .internalError)]

/-- The written name of a code. -/
def name : FaultCode → String
  | .invalidRequest => "invalid_request"
  | .notFound => "not_found"
  | .unprocessableEntity => "unprocessable_entity"
  | .serviceUnavailable => "service_unavailable"
  | .internalError => "internal_error"

/-- The message of a fault whose own message would be blank. -/
def fallback : FaultCode → String
  | .invalidRequest => "Invalid parameter"
  | .notFound => "Not found"
  | .unprocessableEntity => "Unprocessable entity"
  | .serviceUnavailable => "Service unavailable"
  | .internalError => "Internal server error"

/-- Reads a code. -/
def read : Json.Reader FaultCode := Json.Reader.variant names

end FaultCode

/-- A part of a fault that is blank and must not be. -/
inductive Blank where
  | message
  | trace
  deriving DecidableEq, Repr

/-- The words for a blank part. -/
def Blank.text : Blank → String
  | .message => "error message must not be empty"
  | .trace => "trace identifier must not be empty"

/-- What a client is told about a failure. -/
structure Fault where
  code : FaultCode
  message : String
  trace : Option String
  details : Option Json
  deriving Repr

/-- The identifier of the request being served, if one is. -/
abbrev Scope := Option String

namespace Fault

/-- A fault with a message that is not blank; it takes the identifier in scope. -/
def make? (scope : Scope) (code : FaultCode) (message : String) : Except Blank Fault :=
  if Text.isBlankText message then .error .message
  else .ok ⟨code, message, scope, none⟩

/-- A fault with the message, or with the fallback of its code when that is blank. -/
def make (scope : Scope) (code : FaultCode) (message : String) : Fault :=
  match make? scope code message with
  | .ok f => f
  | .error _ => ⟨code, code.fallback, scope, none⟩

/-- The fault with another identifier; a blank one changes nothing. -/
def withTrace (f : Fault) (trace : String) : Fault :=
  if Text.isBlankText trace then f else { f with trace := some trace }

/-- The fault with another identifier, which must not be blank. -/
def withTrace? (f : Fault) (trace : String) : Except Blank Fault :=
  if Text.isBlankText trace then .error .trace else .ok { f with trace := some trace }

/-- The fault with details. -/
def withDetails (f : Fault) (details : Json) : Fault := { f with details := some details }

/-- The written form; an absent identifier and absent details are left out. -/
def toJson (f : Fault) : Json :=
  .obj ([("code", .str f.code.name), ("message", .str f.message)]
    ++ (f.trace.map fun t => ("traceId", Json.str t)).toList
    ++ (f.details.map fun d => ("details", d)).toList)

/-- The declared fields of a written fault; the identifier has two names. -/
def shape : Json.Shape :=
  [{ name := "code" }, { name := "message" },
    { name := "traceId", others := ["trace_id"], absence := .filled },
    { name := "details", absence := .filled }]

/-- Why a value is no written fault. -/
inductive Unreadable where
  /-- It has another form. -/
  | malformed (reason : String)
  /-- A part of it is blank. -/
  | blank (part : Blank)
  deriving DecidableEq, Repr

/-- How deep details may nest. -/
def detailsDepth : Nat := 127

/-- Reads a fault; whatever identifier is in scope plays no part. The message is checked before
the identifier. -/
def read (j : Json) : Except Unreadable Fault := do
  let (code, message, trace, details) ← (do
    let r ← Json.Record.read shape j
    return (← r.need "code" FaultCode.read, ← r.need "message" Json.Reader.text,
      ← r.may "traceId" Json.Reader.text,
      ← r.may "details" (Json.Reader.any detailsDepth)) : Except String _).mapError .malformed
  let f ← (make? none code message).mapError .blank
  let f ← match trace with
    | some t => (f.withTrace? t).mapError .blank
    | none => .ok f
  return { f with details }

end Fault

end Outlays

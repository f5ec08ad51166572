import Outlays.Fault.Refusal

/-!
# Failures of the stores

A store can be out of reach, or reject a question; the search index can also be late or answer
something that makes no sense. Whoever cannot be reached or is late may be back later; all else is
a failure inside.

## Main definitions

* `Failure`, `Failure.message`, `Failure.code`
* `Cause`, `Cause.fault` — why a request fails, and what its client is told
-/

namespace Outlays

/-- The stores that can be out of reach or reject a question. -/
inductive Store where
  | recipients
  | reference
  | reporting
  | federalAccounts
  | search
  deriving DecidableEq, Repr

/-- The name of a store in messages. -/
def Store.name : Store → String
  | .recipients => "recipient repository"
  | .reference => "reference data"
  | .reporting => "reporting repository"
  | .federalAccounts => "federal account repository"
  | .search => "transaction search"

/-- How a store fails, with its own words. -/
inductive Failure where
  /-- The store cannot be reached. -/
  | unreachable (store : Store) (words : String)
  /-- The store rejects the question. -/
  | rejected (store : Store) (words : String)
  /-- The search index does not answer in time. -/
  | late (words : String)
  /-- The answer of the search index makes no sense. -/
  | garbled (words : String)
  /-- The response cache fails. -/
  | cache (words : String)
  deriving DecidableEq, Repr

namespace Failure

/-- The text of a failure. -/
def message : Failure → String
  | .unreachable store words => s!"{store.name} connection failed: {words}"
  | .rejected store words => s!"{store.name} query failed: {words}"
  | .late words => s!"transaction search timed out: {words}"
  | .garbled words => s!"transaction search response invalid: {words}"
  | .cache words => s!"response cache backend failure: {words}"

/-- The code of a failure. -/
def code : Failure → FaultCode
  | .unreachable _ _ | .late _ | .cache _ => .serviceUnavailable
  | .rejected _ _ | .garbled _ => .internalError

end Failure

/-- Why a request fails. -/
inductive Cause where
  /-- It is turned down. -/
  | refused (why : Refusal)
  /-- A store fails. -/
  | failed (how : Failure)
  deriving Repr

namespace Cause

/-- The code of a cause. -/
def code : Cause → FaultCode
  | .refused why => why.code
  | .failed how => how.code

/-- The words of a cause. -/
def message : Cause → String
  | .refused why => why.message
  | .failed how => how.message

/-- The details of a cause. -/
def details? : Cause → Option Json
  | .refused why => why.details?
  | .failed _ => none

/-- What the client is told, in the scope of its request. -/
def fault (scope : Scope) (c : Cause) : Fault :=
  let f := Fault.make scope c.code c.message
  match c.details? with
  | some d => f.withDetails d
  | none => f

end Cause

end Outlays

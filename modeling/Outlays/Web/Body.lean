import Outlays.Filter
import Outlays.Json.Parser
import Outlays.Text.Utf8

/-!
# Bodies of requests

Two endpoints take a JSON body. A body of nothing but blanks stands for the empty one, and a body
that is not what the endpoint expects is refused.

## Main definitions

* `Body.downloadFilters` — the filters of a download
* `Body.defCodes` — the codes of a count of accounts
-/

namespace Outlays.Body

/-- The byte is an ASCII blank. -/
def isBlank (b : UInt8) : Bool := b == 32 || b == 9 || b == 10 || b == 12 || b == 13

/-- Reads a body; a blank one is `blank`. -/
def read {α : Type} (blank : α) (reader : Json.Reader α) (body : List UInt8) :
    Except Refusal α :=
  if body.all isBlank then .ok blank
  else
    match Json.parseBytes body with
    | none => .error (.body "expected JSON")
    | some j => (reader j).mapError .body

/-- Reads the one field of a record, which may be missing or null. -/
def only {α : Type} (name : String) (absence : Json.Absence) (reader : Json.Reader α) :
    Json.Reader (Option α) := fun j => do
  (← Json.Record.read [{ name, absence }] j).may name reader

/-- The filters of a download; none at all leaves everything in. -/
def downloadFilters (body : List UInt8) : Except Refusal TransactionFilters := do
  let parts ← read none (only "filters" .filled TransactionFilters.readParts) body
  TransactionFilters.withRecipient (parts.getD ({}, none))

/-- The codes of a count of accounts, if the body names any. -/
def defCodes (body : List UInt8) : Except Refusal (Option (List String)) := do
  let codes := only "def_codes" .null (Json.Reader.list Json.Reader.text)
  return (← read none (only "filter" .filled codes) body).join

end Outlays.Body

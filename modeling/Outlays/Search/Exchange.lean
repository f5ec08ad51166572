import Outlays.Inquiry.Failure
import Outlays.Search.Answer
import Outlays.Search.Request
import Outlays.Text.Utf8

/-!
# Exchanges with the search index

A count takes one request. Totals take two: the number of groups first, and then, unless there are
none, the totals of that many groups. Whatever goes wrong with a request ends the exchange.

## Main definitions

* `Reply`, `Wire` — what comes back for a request, and the way to the index
* `Exchange.countTransactions`, `Exchange.recipientTotals`
* `Exchange.preview` — the beginning of an answer, for messages
-/

namespace Outlays

/-- What comes back for a request. -/
inductive Reply where
  | answered (status : Nat) (body : List UInt8)
  /-- The index cannot be reached. -/
  | unreachable
  /-- No answer comes in time. -/
  | late
  deriving DecidableEq, Repr

/-- The way to the index: what comes back for a request, and the state of the way after it. -/
abbrev Wire (σ : Type) := SearchRequest → σ → Reply × σ

/-- What an exchange comes to, in the state that it leaves. -/
abbrev Exchange (σ α : Type) := ExceptT Failure (StateM σ) α

namespace Exchange

/-- The number of characters of an answer that a message shows. -/
def previewLimit : Nat := 160

/-- The words of an answer, one blank between them. -/
def collapsed (body : List UInt8) : List Char :=
  List.intercalate [' '] (Text.words (Text.decodeLossy body))

/-- The beginning of an answer on one line, with an ellipsis if there is more. -/
def preview (body : List UInt8) : List Char :=
  let cs := collapsed body
  if cs.length > previewLimit then cs.take previewLimit ++ ['.', '.', '.'] else cs

/-- The failure that an answer with a status other than success stands for. -/
def statusFailure (status : Nat) (body : List UInt8) : Failure :=
  let shown := String.ofList (preview body)
  let words := if shown = "" then s!"status {status}" else s!"status {status}: {shown}"
  if status = 408 || status = 504 then .late words
  else if status = 502 || status = 503 then .unreachable .search words
  else .rejected .search words

/-- Reads an answer. -/
def decode {α : Type} (read : Json.Reader α) (body : List UInt8) : Except Failure α :=
  let parsed := match Json.parseBytes body with
    | some j => read j
    | none => .error "expected JSON"
  parsed.mapError fun reason => .garbled s!"invalid search JSON payload: {reason}"

/-- What a reply comes to. -/
def outcome {α : Type} (address : Url) (read : Json.Reader α) : Reply → Except Failure α
  | .unreachable =>
    .error (.unreachable .search s!"error sending request for url ({address.render})")
  | .late => .error (.late s!"error sending request for url ({address.render})")
  | .answered status body =>
    if 200 ≤ status && status < 300 then decode read body else .error (statusFailure status body)

variable {σ : Type}

/-- Sends one request and reads the answer. Without an address for it nothing is sent. -/
def send {α : Type} (wire : Wire σ) (index : SearchIndex) (request : SearchRequest)
    (read : Json.Reader α) : Exchange σ α := fun s =>
  match index.address request with
  | .error how => (.error how, s)
  | .ok address =>
    let (reply, s) := wire request s
    (outcome address read reply, s)

/-- Counts the transactions that match. -/
def countTransactions (wire : Wire σ) (index : SearchIndex) (filters : TransactionFilters) :
    Exchange σ Nat :=
  send wire index (.count (Query.ofFilters filters)) Answer.count

/-- The totals of the transactions that match, group by group. -/
def recipientTotals (wire : Wire σ) (index : SearchIndex) (filters : TransactionFilters)
    (grouping : Grouping) : Exchange σ (List Totals) := do
  let query := Query.ofFilters filters
  let size := (← send wire index (.groups query grouping) Answer.groups).getD 0
  if size = 0 then return []
  let buckets ← send wire index (.totals query grouping size) Answer.buckets
  match buckets.mapM (Bucket.totals grouping) with
  | .ok totals => return totals
  | .error reason => throw (.garbled reason)

end Exchange

end Outlays

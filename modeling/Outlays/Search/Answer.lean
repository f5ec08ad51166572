import Outlays.Inquiry.Question
import Outlays.Json.Parser
import Outlays.Json.Printer
import Outlays.Text.Quoted

/-!
# Answers of the search index

What is read out of the answers: a count, a number of groups, and a bucket for each group. The key
of a child's bucket is itself a JSON text with what is known about the child.

## Main definitions

* `Bucket`, `Bucket.totals`
* `Answer.count`, `Answer.groups`, `Answer.buckets` — readers of the three answers
-/

namespace Outlays

/-- The totals of one group, as the index answers them. -/
structure Bucket where
  key : Json
  documents : Nat
  obligations : Option Float
  loanDocuments : Nat
  loans : Option Float
  deriving Repr

namespace Bucket

/-- How deep the key of a bucket may nest. -/
def keyDepth : Nat := 123

/-- A count of documents. -/
def readCount : Json.Reader Nat := Json.Reader.natUpTo uint64Max

/-- Reads a value that may be null. -/
def readValue {α : Type} (read : Json.Reader α) : Json.Reader (Option α) := fun j => do
  (← Json.Record.read [{ name := "value", absence := .null }] j).may "value" read

/-- Reads the part about loans. -/
def readLoans : Json.Reader (Nat × Option Float) := fun j => do
  let r ← Json.Record.read [{ name := "doc_count" }, { name := "sum_face_value_loan" }] j
  return (← r.need "doc_count" readCount,
    ← r.need "sum_face_value_loan" (readValue Json.Reader.double))

/-- Reads a bucket. -/
def read : Json.Reader Bucket := fun j => do
  let r ← Json.Record.read [{ name := "key" }, { name := "doc_count" },
    { name := "sum_obligation" }, { name := "filter_loans" }] j
  let key ← r.need "key" (Json.Reader.any keyDepth)
  let documents ← r.need "doc_count" readCount
  let obligations ← r.need "sum_obligation" (readValue Json.Reader.double)
  let (loanDocuments, loans) ← r.need "filter_loans" readLoans
  return { key, documents, obligations, loanDocuments, loans }

/-- Reads what a child's key says; empty texts count as missing, but for the name. -/
def readChild : Json.Reader ChildKey := fun j => do
  let r ← Json.Record.read (["hash_with_level", "unique_id", "name"].map
    fun name => { name, absence := .null }) j
  let text (name : String) := r.may name Json.Reader.text
  let hashWithLevel ← text "hash_with_level"
  let uniqueId ← text "unique_id"
  let name ← text "name"
  return { hashWithLevel := hashWithLevel.filter (· != "")
           uniqueId := uniqueId.filter (· != ""), name }

/-- The child that a key names. -/
def childOf (key : Json) : Except String ChildKey :=
  match key with
  | .str raw =>
    let parsed := match Json.parseText raw with
      | some j => readChild j
      | none => .error "expected JSON"
    parsed.mapError fun reason => s!"invalid child bucket key {Text.quoted raw}: {reason}"
  | key => .error s!"child bucket key is not a string: {key.render}"

/-- A scaled sum in cents; a missing sum is nothing. -/
def cents (sum : Option Float) : Cents := (sum.map Cents.ofScaledSum).getD .zero

/-- The totals of a bucket, with the child that its key names when totals are grouped by child. -/
def totals (grouping : Grouping) (b : Bucket) : Except String Totals := do
  let child ← if grouping = .child then (childOf b.key).map some else .ok none
  return { child, obligations := cents b.obligations, transactions := b.documents
           loans := cents b.loans, loanTransactions := b.loanDocuments }

end Bucket

namespace Answer

/-- Reads how many documents match. -/
def count : Json.Reader Nat := fun j => do
  (← Json.Record.read [{ name := "count" }] j).need "count" Bucket.readCount

/-- Reads one aggregation of an answer. -/
def aggregation {α : Type} (name : String) (read : Json.Reader α) : Json.Reader α := fun j => do
  let r ← Json.Record.read [{ name := "aggregations" }] j
  r.need "aggregations" fun j => do (← Json.Record.read [{ name }] j).need name read

/-- Reads how many groups there are. -/
def groups : Json.Reader (Option Nat) :=
  aggregation "unique_terms" (Bucket.readValue Bucket.readCount)

/-- Reads the buckets of the groups. -/
def buckets : Json.Reader (List Bucket) :=
  aggregation "group_by_recipient" fun j => do
    let r ← Json.Record.read [{ name := "buckets", absence := .filled }] j
    r.orElse "buckets" [] (Json.Reader.list Bucket.read)

end Answer

end Outlays

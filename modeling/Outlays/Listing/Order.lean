import Outlays.Calendar.Instant
import Outlays.Fault.Refusal

/-!
# Ordering rows

Rows of a listing are sorted by one of their columns, upwards or downwards. Rows with equal values
keep their order, and rows without a value come last either way.

## Main definitions

* `SortOrder`, `SortOrder.parse`
* `SortValue`, `SortValue.compare` — the value that a row is sorted by
* `sortRows` — the rows in order
-/

namespace Outlays

/-- Upwards or downwards. -/
inductive SortOrder where
  | ascending
  | descending
  deriving DecidableEq, Repr

namespace SortOrder

/-- The orders with their written names. -/
def names : List (String × SortOrder) := [("asc", .ascending), ("desc", .descending)]

/-- The written name of an order. -/
def name : SortOrder → String
  | .ascending => "asc"
  | .descending => "desc"

/-- Reads the order that a client asks for; downwards when it asks for none. -/
def parse : Option String → Except Refusal SortOrder
  | none => .ok .descending
  | some raw =>
    match names.find? (·.1 == raw) with
    | some (_, order) => .ok order
    | none => .error (.order raw)

/-- Reads an order. -/
def read : Json.Reader SortOrder := Json.Reader.variant names

/-- The comparison, turned round for a downward order. -/
def apply : SortOrder → Ordering → Ordering
  | .ascending, o => o
  | .descending, o => o.swap

end SortOrder

/-- What a row is sorted by. Values of different kinds are ordered by their kind. -/
inductive SortValue where
  | missing
  /-- A double, by its place among all doubles. -/
  | number (ordinal : Int)
  | integer (n : Int)
  | text (s : String)
  | instant (t : Instant)
  | flag (b : Bool)
  deriving DecidableEq, Repr

namespace SortValue

/-- A double. -/
def ofDouble (x : Float) : SortValue := .number (Double.ordinal x)

/-- A column that may be missing. -/
def ofOption {α : Type} (f : α → SortValue) : Option α → SortValue
  | some a => f a
  | none => .missing

/-- The place of a value's kind. -/
def rank : SortValue → Nat
  | .missing => 0
  | .number _ => 1
  | .integer _ => 2
  | .text _ => 3
  | .instant _ => 4
  | .flag _ => 5

/-- The order of values: within a kind by value, texts by code point, false before true. -/
def compare : SortValue → SortValue → Ordering
  | .number a, .number b => Ord.compare a b
  | .integer a, .integer b => Ord.compare a b
  | .text a, .text b => Ord.compare a b
  | .instant a, .instant b => Ord.compare a.code b.code
  | .flag a, .flag b => Ord.compare a.toNat b.toNat
  | a, b => Ord.compare a.rank b.rank

/-- The order of rows: missing values last, the others as the order says. -/
def compareIn (order : SortOrder) : SortValue → SortValue → Ordering
  | .missing, .missing => .eq
  | .missing, _ => .gt
  | _, .missing => .lt
  | a, b => order.apply (a.compare b)

end SortValue

/-- The rows in order of their sort values; rows with equal values keep their order. -/
def sortRows {α : Type} (order : SortOrder) (key : α → SortValue) (rows : List α) : List α :=
  rows.mergeSort fun a b => ((key a).compareIn order (key b)).isLE

end Outlays

import Outlays.Listing.Order

/-!
# Listings

A listing shows rows, a page at a time, sorted by one of its columns. The client names the page,
the limit, the order and the column, or leaves them to their defaults.

## Main definitions

* `Column`, `Columns` — what rows can be sorted by
* `ListingRequest`, `Listing`, `Listing.parse` — what a client asks for, and the same checked
* `Listing.order`, `Listing.page` — the rows sorted, and the page of them that is asked for
-/

namespace Outlays

/-- A column that rows can be sorted by. -/
structure Column (ρ : Type) where
  name : String
  value : ρ → SortValue

/-- The columns of a listing, and the one that rows are sorted by unless the client names one. -/
structure Columns (ρ : Type) where
  all : List (Column ρ)
  usual : Column ρ

namespace Columns

variable {ρ : Type}

/-- The names of the columns. -/
def names (c : Columns ρ) : List String := c.all.map (·.name)

/-- The column that a client names. -/
def parse (c : Columns ρ) : Option String → Except Refusal (Column ρ)
  | none => .ok c.usual
  | some raw =>
    match c.all.find? (·.name == raw) with
    | some column => .ok column
    | none => .error (.sortKey c.names raw)

end Columns

/-- What a client asks of a listing. -/
structure ListingRequest where
  page : Option Nat := none
  limit : Option Nat := none
  order : Option String := none
  sort : Option String := none
  deriving DecidableEq, Repr

/-- A page, an order and a column. -/
structure Listing (ρ : Type) where
  request : PageRequest
  order : SortOrder
  column : Column ρ

namespace Listing

variable {ρ : Type}

/-- Checks the page and the limit, then the order, then the column. -/
def parse (columns : Columns ρ) (r : ListingRequest) : Except Refusal (Listing ρ) := do
  let request ← (PageRequest.make r.page r.limit).mapError .page
  let order ← SortOrder.parse r.order
  let column ← columns.parse r.sort
  return ⟨request, order, column⟩

/-- The rows in the order that is asked for. -/
def sorted (l : Listing ρ) (rows : List ρ) : List ρ := sortRows l.order l.column.value rows

/-- The page of the sorted rows that is asked for. -/
def page (l : Listing ρ) (rows : List ρ) : Page ρ := l.request.paginate (l.sorted rows)

/-- A page of a listing as JSON: the page, and messages, of which there are none. -/
def toJson (f : ρ → Json) (p : Page ρ) : Json :=
  .obj [("page_metadata", p.info.toJson), ("results", .arr (p.results.map f)),
    ("messages", .arr [])]

end Listing

end Outlays

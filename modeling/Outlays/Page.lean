import Outlays.Json.Reader

/-!
# Pages of a list

A listing is served in pages, numbered from one, of at most 100 rows each. Beside its rows a page
carries the number of all rows and the numbers of its neighbours.

## Main definitions

* `PageRequest`, `PageRequest.make` — a page number and a limit, checked
* `PageRequest.paginate` — the rows of the page, with its `PageInfo`
-/

namespace Outlays

/-- Why a page cannot be asked for. -/
inductive PageRefusal where
  /-- Pages are numbered from one. -/
  | pageNumber (given : Nat)
  /-- A page holds 1 to 100 rows. -/
  | rowLimit (given : Nat)
  deriving DecidableEq, Repr

/-- The rows of a page when the client names no limit. -/
def defaultLimit : Nat := 10

/-- The greatest limit that a client may name. -/
def maxLimit : Nat := 100

/-- The words of a refusal. -/
def PageRefusal.message : PageRefusal → String
  | .pageNumber given => s!"page must be greater than or equal to 1, got {given}"
  | .rowLimit given => s!"limit must be between 1 and {maxLimit}, got {given}"

/-- A page number and the rows of a page. -/
structure PageRequest where
  page : Nat
  limit : Nat
  deriving DecidableEq, Repr

/-- What a page says about its place in the list. -/
structure PageInfo where
  page : Nat
  total : Nat
  limit : Nat
  next : Option Nat
  previous : Option Nat
  hasNext : Bool
  hasPrevious : Bool
  deriving DecidableEq, Repr

/-- The rows of one page. -/
structure Page (α : Type) where
  info : PageInfo
  results : List α
  deriving Repr

namespace PageRequest

/-- Checks a page number and a limit, each with its default; the page number is checked first. -/
def make (page limit : Option Nat) : Except PageRefusal PageRequest :=
  let page := page.getD 1
  let limit := limit.getD defaultLimit
  if page = 0 then .error (.pageNumber page)
  else if limit = 0 || limit > maxLimit then .error (.rowLimit limit)
  else .ok ⟨page, limit⟩

/-- The number of rows before the page. -/
def offset (r : PageRequest) : Nat := min uint64Max ((r.page - 1) * r.limit)

end PageRequest

/-- The place of a page in a list of `total` rows. -/
def PageInfo.make (page limit total : Nat) : PageInfo :=
  let seen := min uint64Max (page * limit)
  let hasNext := decide (seen < total)
  let hasPrevious := decide (1 < page)
  { page, total, limit
    next := if hasNext then some (min uint32Max (page + 1)) else none
    previous := if hasPrevious then some (page - 1) else none
    hasNext, hasPrevious }

/-- The page of a list that is asked for. -/
def PageRequest.paginate {α : Type} (r : PageRequest) (rows : List α) : Page α :=
  { info := PageInfo.make r.page r.limit rows.length
    results := (rows.drop r.offset).take r.limit }

namespace PageInfo

/-- The place of a page as JSON. -/
def toJson (i : PageInfo) : Json :=
  .obj [("page", .nat i.page), ("total", .nat i.total), ("limit", .nat i.limit),
    ("next", .option .nat i.next), ("previous", .option .nat i.previous),
    ("hasNext", .bool i.hasNext), ("hasPrevious", .bool i.hasPrevious)]

/-- The declared fields of a page's place. -/
def shape : Json.Shape :=
  [{ name := "page" }, { name := "total" }, { name := "limit" },
    { name := "next", absence := .null }, { name := "previous", absence := .null },
    { name := "hasNext" }, { name := "hasPrevious" }]

/-- Reads the place of a page. -/
def read : Json.Reader PageInfo := fun j => do
  let r ← Json.Record.read shape j
  let uint32 := Json.Reader.natUpTo uint32Max
  return {
    page := ← r.need "page" uint32
    total := ← r.need "total" (Json.Reader.natUpTo uint64Max)
    limit := ← r.need "limit" uint32
    next := ← r.may "next" uint32
    previous := ← r.may "previous" uint32
    hasNext := ← r.need "hasNext" Json.Reader.bool
    hasPrevious := ← r.need "hasPrevious" Json.Reader.bool }

end PageInfo

namespace Page

/-- A page as JSON. -/
def toJson {α : Type} (f : α → Json) (p : Page α) : Json :=
  .obj [("page_metadata", p.info.toJson), ("results", .arr (p.results.map f))]

/-- Reads a page. -/
def read {α : Type} (item : Json.Reader α) : Json.Reader (Page α) := fun j => do
  let r ← Json.Record.read [{ name := "page_metadata" }, { name := "results" }] j
  return { info := ← r.need "page_metadata" PageInfo.read
           results := ← r.need "results" (Json.Reader.list item) }

end Page

end Outlays

import Outlays.Inquiry.Failure
import Outlays.Inquiry.Question
import Outlays.Search.Query
import Outlays.Web.Url

/-!
# Requests to the search index

Three requests are made: how many documents match, how many groups they fall into, and the totals
of that many groups. The index has one address for the first and one for the others.

## Main definitions

* `SearchRequest`, `SearchRequest.body`
* `SearchIndex`, `SearchIndex.address` — an index, and where requests to it go
-/

namespace Outlays

/-- The field that a grouping groups by. -/
def Grouping.field : Grouping → String
  | .recipient => "recipient_hash"
  | .parent => "parent_recipient_hash"
  | .child => "recipient_agg_key"

/-- The award types of loans. -/
def loanTypes : List String := ["07", "08"]

/-- A request to the search index. -/
inductive SearchRequest where
  /-- How many documents match. -/
  | count (query : Query)
  /-- How many groups the matching documents fall into. -/
  | groups (query : Query) (grouping : Grouping)
  /-- The totals of so many groups of matching documents. -/
  | totals (query : Query) (grouping : Grouping) (size : Nat)
  deriving Repr

namespace SearchRequest

/-- The number of groups up to which they are counted almost exactly. -/
def exactGroups : Nat := 11000

/-- The sum of a field, scaled by 100. -/
def scaledSum (field : String) : Json :=
  .obj [("sum", .obj [("field", .str field),
    ("script", .obj [("source", .str "_value * 100")])])]

/-- The totals that are taken of a group. -/
def totalsOfGroup : Json :=
  .obj [("sum_obligation", scaledSum "generated_pragmatic_obligation"),
    ("filter_loans", .obj [
      ("filter", .obj [("terms", .obj [("type", .texts loanTypes)])]),
      ("aggs", .obj [("sum_face_value_loan", scaledSum "face_value_loan_guarantee")])])]

/-- The body of a request. -/
def body : SearchRequest → Json
  | .count query => .obj [("query", query.toJson)]
  | .groups query grouping =>
    .obj [("size", .nat 0), ("query", query.toJson),
      ("aggs", .obj [("unique_terms", .obj [("cardinality", .obj [
        ("field", .str s!"{grouping.field}.hash"),
        ("precision_threshold", .nat exactGroups)])])])]
  | .totals query grouping size =>
    .obj [("size", .nat 0), ("query", query.toJson),
      ("aggs", .obj [("group_by_recipient", .obj [
        ("terms", .obj [("field", .str grouping.field), ("size", .nat size)]),
        ("aggs", totalsOfGroup)])])]

end SearchRequest

/-- The last part of the address that a request goes to. -/
def SearchRequest.endpoint : SearchRequest → String
  | .count _ => "_count"
  | .groups _ _ | .totals _ _ _ => "_search"

/-- An index, by its address. -/
structure SearchIndex where
  url : Url
  deriving Repr

namespace SearchIndex

/-- The index with a name on the server at a base address. Slashes around the name make no
difference. -/
def make (base : Url) (name : String) : Except Failure SearchIndex :=
  let isSlash (c : Char) : Bool := c == '/'
  let trimmed := ((name.toList.dropWhile isSlash).reverse.dropWhile isSlash).reverse
  match base.join (String.ofList (trimmed ++ ['/'])) with
  | .ok url => .ok ⟨url⟩
  | .error why => .error (.unreachable .search s!"invalid index url: {why.message}")

/-- The schemes of servers that can be asked. -/
def schemes : List String := ["http", "https"]

/-- The longest address that can be sent to. -/
def longestAddress : Nat := 65534

/-- The characters of hosts that cannot be asked. -/
def isUnaskable (c : Char) : Bool :=
  c == '"' || c.toNat == 0x60 || c.toNat == 0x7B || c.toNat == 0x7D

/-- A request can be sent to the address. -/
def isAskable (url : Url) : Bool :=
  schemes.contains (String.ofList url.scheme)
    && !url.authority.any (·.host.any isUnaskable)
    && url.render.length ≤ longestAddress

/-- The address that a request goes to. It tells no user, and there is none on a server that cannot
be asked. -/
def address (index : SearchIndex) (request : SearchRequest) : Except Failure Url :=
  match index.url.join request.endpoint with
  | .error why => .error (.rejected .search why.message)
  | .ok url =>
    let shown := url.withoutUser
    if isAskable shown then .ok shown
    else .error (.unreachable .search s!"builder error for url ({shown.render})")

end SearchIndex

end Outlays

import Outlays.Text.Digit
import Outlays.Web.Percent

/-!
# Routes

A request goes to the endpoint whose route has its method and matches its path segment by segment.
A segment of a route is a fixed text, any text, or a number of decimal digits of any script.

## Main definitions

* `Endpoint`, `Route`, `routes`
* `Route.captures?` — the segments that a route leaves open, if it matches
* `findRoute?` — the endpoint of a request with its open segments
-/

namespace Outlays

/-- What can be asked for over the web. -/
inductive Endpoint where
  | accountCount
  | children
  | overview
  | downloadCount
  | agencies
  | periods
  | differences
  | publications
  /-- Whether the service can handle requests. -/
  | ready
  /-- Whether the service is up. -/
  | live
  deriving DecidableEq, Repr

/-- One segment of a route. -/
inductive SegmentPattern where
  | fixed (text : String)
  /-- Any text, of at least one character. -/
  | free
  /-- At least so many and at most so many decimal digits of any script. -/
  | digits (least most : Nat)
  deriving DecidableEq, Repr

namespace SegmentPattern

/-- What the pattern captures of a segment, if it matches: nothing of a fixed text, and all of
any other. -/
def capture? (segment : List Char) : SegmentPattern → Option (List (List Char))
  | .fixed text => if segment = text.toList then some [] else none
  | .free => if segment.isEmpty then none else some [segment]
  | .digits least most =>
    if least ≤ segment.length && segment.length ≤ most && segment.all Text.isDigit then
      some [segment]
    else none

end SegmentPattern

/-- A method and the segments of a path, with the endpoint that they lead to. -/
structure Route where
  method : String
  segments : List SegmentPattern
  endpoint : Endpoint
  deriving DecidableEq, Repr

namespace Route

/-- The captures of segments by patterns, one pattern a segment. -/
def captureAll? : List SegmentPattern → List (List Char) → Option (List (List Char))
  | [], [] => some []
  | p :: patterns, s :: segments => do
    return (← p.capture? s) ++ (← captureAll? patterns segments)
  | _, _ => none

/-- The captures of a request, if the route matches it. -/
def captures? (r : Route) (method : String) (segments : List (List Char)) :
    Option (List (List Char)) :=
  if r.method = method then captureAll? r.segments segments else none

/-- A route under the version of the interface; its path ends in a slash. -/
def versioned (method : String) (segments : List SegmentPattern) (endpoint : Endpoint) : Route :=
  ⟨method, [.fixed "", .fixed "api", .fixed "v2"] ++ segments ++ [.fixed ""], endpoint⟩

/-- A route under the reports of agencies. -/
def report (segments : List SegmentPattern) (endpoint : Endpoint) : Route :=
  versioned "GET" ([.fixed "reporting", .fixed "agencies"] ++ segments) endpoint

/-- The code of an agency. -/
def agencyCode : SegmentPattern := .digits 3 4

end Route

/-- All routes. -/
def routes : List Route := [
  .versioned "POST" [.fixed "disaster", .fixed "federal_account", .fixed "count"] .accountCount,
  .versioned "GET" [.fixed "recipient", .fixed "children", .free] .children,
  .versioned "GET" [.fixed "recipient", .free] .overview,
  .versioned "POST" [.fixed "download", .fixed "count"] .downloadCount,
  .report [.fixed "overview"] .agencies,
  .report [Route.agencyCode, .fixed "overview"] .periods,
  .report [Route.agencyCode, .fixed "differences"] .differences,
  .report [Route.agencyCode, .digits 4 4, .digits 1 2, .fixed "submission_history"]
    .publications,
  ⟨"GET", [.fixed "", .fixed "health", .fixed "ready"], .ready⟩,
  ⟨"GET", [.fixed "", .fixed "health", .fixed "live"], .live⟩]

/-- The byte keeps its percent-encoding while routes are matched: a percent sign, a slash or a plus
sign. -/
def isKeptEncoded (b : UInt8) : Bool := b == 37 || b == 47 || b == 43

/-- The path that routes are matched against. -/
def routedPath (path : String) : List Char :=
  Text.decodeLossy (Percent.decodeExcept isKeptEncoded (Text.encode path))

/-- The text of a captured segment, decoded to the end. -/
def captureText (segment : List Char) : String :=
  String.ofList (Text.decodeLossy (Percent.decode (Text.encodeChars segment)))

/-- The endpoint of a request, with the segments that its route leaves open. -/
def findRoute? (method path : String) : Option (Endpoint × List String) :=
  let segments := (routedPath path).splitOn '/'
  routes.findSome? fun r =>
    (r.captures? method segments).map fun cs => (r.endpoint, cs.map captureText)

end Outlays

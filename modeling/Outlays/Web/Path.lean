import Outlays.Web.Percent

/-!
# Paths in addresses

A rooted path is a text that is empty or starts with a slash. It is made segment by segment: a
segment of one point stands for the place it is in, one of two points for the place above, and any
other is written at the end. The paths of local files may start with the letter of a drive, which
nothing leads out of.

## Main definitions

* `PathKind` — what is special about the paths of a scheme
* `Path.drop`, `Path.step` — the path above, and the path after one more segment
* `Path.follow` — the path that a text leads to
* `Path.extend` — the path with further segments
-/

namespace Outlays

/-- What is special about the paths of a scheme. -/
structure PathKind where
  /-- A backslash is read as a slash. -/
  web : Bool
  /-- The first segment may be a drive. -/
  drives : Bool
  deriving DecidableEq, Repr

/-- The text of a path, and whether a drive in it has taken the place of the host. -/
structure Path where
  text : List Char
  oustsHost : Bool
  deriving DecidableEq, Repr

namespace Path

/-- The character separates segments. -/
def isSlash (web : Bool) (c : Char) : Bool := c == '/' || (web && c == '\\')

/-- Tabs and line ends do not count in addresses. -/
def isIgnored (c : Char) : Bool := c == '\t' || c == '\n' || c == '\r'

/-- The characters that count. -/
def kept (cs : List Char) : List Char := cs.filter (!isIgnored ·)

/-- The segment stands for the place it is in. -/
def isHere (segment : List Char) : Bool :=
  [".", "%2e"].contains (String.ofList (segment.map Char.toLower))

/-- The segment stands for the place above. -/
def isAbove (segment : List Char) : Bool :=
  ["..", "%2e.", ".%2e", "%2e%2e"].contains (String.ofList (segment.map Char.toLower))

/-- The text is a drive: a letter, and a colon or a bar. -/
def isDrive : List Char → Bool
  | [letter, c] => letter.isAlpha && (c == ':' || c == '|')
  | _ => false

/-- The text is a drive, written with a colon. -/
def isPlainDrive (cs : List Char) : Bool := isDrive cs && cs.getLast? == some ':'

/-- The text starts with a drive and nothing more in the segment. -/
def startsWithDrive (cs : List Char) : Bool :=
  isDrive (cs.take 2)
    && (cs[2]?.all fun c => c == '/' || c == '\\' || c == '?' || c == '#')

/-- The text ends in a slash. -/
def endsInSlash (text : List Char) : Bool := text.getLast? == some '/'

/-- What follows the last slash. -/
def lastSegment (text : List Char) : List Char := (text.reverse.takeWhile (· != '/')).reverse

/-- The text through its last slash. -/
def throughSlash (text : List Char) : List Char := (text.reverse.dropWhile (· != '/')).reverse

/-- The path without its last segment; the drive of a file stays. -/
def drop (kind : PathKind) (text : List Char) : List Char :=
  if kind.drives && isPlainDrive (lastSegment text) then text else throughSlash text

/-- The text less a slash at its end, unless it is the only slash or follows a drive. -/
def dropSlash (text : List Char) : List Char :=
  let front := text.dropLast
  if endsInSlash text && front.contains '/' && !startsWithDrive (lastSegment front ++ ['/']) then
    front
  else text

/-- The path above the place where a segment starts. -/
def above (kind : PathKind) (text : List Char) : List Char := drop kind (dropSlash text)

/-- The text with a slash at its end. -/
def closed (text : List Char) : List Char := if endsInSlash text then text else text ++ ['/']

/-- The parts of a segment that nothing ignored stands between. -/
def runs (segment : List Char) : List (List Char) :=
  (segment.splitOnP isIgnored).filter (!·.isEmpty)

/-- Writes a part of a segment behind a text. A slash parts it from a text that is only a drive.
The number says where the segment starts. -/
def writeRun (kind : PathKind) (set : Char → Bool) (written : List Char × Nat) (run : List Char) :
    List Char × Nat :=
  let (text, start) := written
  if kind.drives && isPlainDrive (text.drop 1) then
    (text ++ '/' :: Percent.encode set run, start + 1)
  else (text ++ Percent.encode set run, start)

/-- The path after one more segment, which a slash may end. -/
def step (kind : PathKind) (set : Char → Bool) (path : Path) (segment : List Char)
    (isEnded : Bool) : Path :=
  let (text, start) := (runs segment).foldl (writeRun kind set) (path.text, path.text.length)
  let place := text.take start
  let written := text.drop start
  if isAbove written then
    let text := above kind place
    { path with text := if isEnded then closed text else text }
  else if isHere written then { path with text := closed place }
  else
    let slash := if isEnded then ['/'] else []
    if kind.drives && start == 1 && isDrive written then
      ⟨place ++ written.take 1 ++ [':'] ++ slash, true⟩
    else { path with text := text ++ slash }

/-- The path after several segments; all but the last are ended by a slash. -/
def steps (kind : PathKind) (set : Char → Bool) (path : Path) : List (List Char) → Path
  | [] => path
  | [last] => step kind set path last false
  | segment :: rest => steps kind set (step kind set path segment true) rest

/-- The paths of files start with one slash. -/
def settled (kind : PathKind) (path : Path) : Path :=
  if kind.drives then { path with text := '/' :: path.text.dropWhile (· == '/') } else path

/-- The path that a text leads to, from the end of another one. -/
def follow (kind : PathKind) (start text : List Char) : Path :=
  settled kind (steps kind Percent.pathSet ⟨start, false⟩ (text.splitOnP (isSlash kind.web)))

/-- The path with a segment more, encoded so that all of it stays in one segment. Segments of one
or two points are passed over. -/
def push (kind : PathKind) (text : List Char) (segment : String) : List Char :=
  if segment == "." || segment == ".." then text
  else
    let start := if text == ['/'] then text else text ++ ['/']
    let set := Percent.segmentSet kind.web
    (settled kind (step kind set ⟨start, false⟩ segment.toList false)).text

/-- The path with further segments. They take the place of an empty one at its end. -/
def extend (kind : PathKind) (text : List Char) (segments : List String) : List Char :=
  let start := if text.length > 1 && endsInSlash text then text.dropLast else text
  segments.foldl (push kind) start

end Path

end Outlays

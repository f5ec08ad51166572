import Outlays.Web.Host
import Outlays.Web.Path

/-!
# Addresses

An address has a scheme, perhaps an authority (who, which host, which port), a path, and perhaps a
query and a fragment. The path is either one flat text or rooted, that is, made of segments with
slashes in front. The addresses of the web always have an authority and a rooted path, and read a
backslash as a slash; so do the addresses of local files, whose host may be missing.

An address can be read alone or seen from another one, which then gives the parts that are missing.

## Main definitions

* `Url`, `Url.render`
* `UrlError` — why a text is no address
* `Url.parse` — reads an address alone
* `Url.join` — the address that a reference stands for, seen from another
* `Url.extend?` — the address with further segments
-/

namespace Outlays

/-- Who, which host and which port. -/
structure Authority where
  /-- The name and perhaps the password of a user. -/
  user : Option (List Char)
  host : List Char
  /-- The port, unless it is the usual one of the scheme. -/
  port : Option Nat
  deriving DecidableEq, Repr

/-- The path of an address. -/
inductive UrlPath where
  /-- A text without segments; nothing is relative to such an address. -/
  | flat (text : List Char)
  /-- A text that is empty or starts with a slash. -/
  | rooted (text : List Char)
  deriving DecidableEq, Repr

/-- An address, each part as it is written. -/
structure Url where
  scheme : List Char
  authority : Option Authority
  path : UrlPath
  query : Option (List Char)
  fragment : Option (List Char)
  deriving DecidableEq, Repr

/-- Why a text is no address. -/
inductive UrlError where
  | host (why : HostError)
  /-- The port is no number, or too large. -/
  | port
  /-- There is no scheme, and no address to see the text from. -/
  | alone
  /-- The address to see the text from is flat. -/
  | flatBase
  deriving DecidableEq, Repr

/-- The words for an error. -/
def UrlError.message : UrlError → String
  | .host why => why.message
  | .port => "invalid port number"
  | .alone => "relative URL without a base"
  | .flatBase => "relative URL with a cannot-be-a-base base"

namespace Url

/-! ### Schemes -/

/-- The schemes of the web with their usual ports, and that of local files. -/
def webSchemes : List (String × Option Nat) := [
  ("http", some 80), ("https", some 443), ("ws", some 80), ("wss", some 443), ("ftp", some 21),
  ("file", none)]

/-- The scheme is one of the web or that of local files. -/
def isWeb (scheme : List Char) : Bool := webSchemes.any (·.1.toList == scheme)

/-- The scheme of local files. -/
def fileScheme : List Char := "file".toList

/-- The usual port of a scheme. -/
def usualPort? (scheme : List Char) : Option Nat :=
  (webSchemes.find? (·.1.toList == scheme)).bind (·.2)

/-- What is special about the paths of a scheme. -/
def pathKind (scheme : List Char) : PathKind := ⟨isWeb scheme, scheme == fileScheme⟩

/-- The scheme in front of a colon, in lower case, and how many characters the two take. -/
def cutScheme? (cs : List Char) : Option (List Char × Nat) :=
  let name := cs.takeWhile fun c => c.isAlphanum || c == '+' || c == '-' || c == '.'
  if name.head?.any Char.isAlpha && cs[name.length]? == some ':' then
    some (name.map Char.toLower, name.length + 1)
  else none

/-! ### Texts with ignored characters -/

/-- The text without blanks and controls at its ends. -/
def trim (cs : List Char) : List Char :=
  let isOuter (c : Char) : Bool := c.toNat ≤ 0x20
  ((cs.dropWhile isOuter).reverse.dropWhile isOuter).reverse

/-- The text after so many characters that count. -/
def skip : Nat → List Char → List Char
  | 0, cs => cs
  | _, [] => []
  | n + 1, c :: cs => if Path.isIgnored c then skip (n + 1) cs else skip n cs

/-- The character is a slash of either kind. -/
def isAnySlash (c : Char) : Bool := Path.isSlash true c

/-- The number of slashes of either kind in front. -/
def slashes (cs : List Char) : Nat := ((Path.kept cs).takeWhile isAnySlash).length

/-- The path, the query and the fragment of what follows an authority. -/
def cutTail (cs : List Char) : List Char × Option (List Char) × Option (List Char) :=
  let front := cs.takeWhile (· != '#')
  let fragment := if cs.contains '#' then some ((cs.dropWhile (· != '#')).drop 1) else none
  let query := if front.contains '?' then some ((front.dropWhile (· != '?')).drop 1) else none
  (front.takeWhile (· != '?'), query, fragment)

/-- An address with the path that `place` makes of the text of the path. A drive in the path of a
file takes the place of the host. -/
def withTail (scheme : List Char) (authority : Option Authority) (place : List Char → Path)
    (cs : List Char) : Url :=
  let (text, query, fragment) := cutTail cs
  let path := place text
  { scheme, path := .rooted path.text
    authority := authority.map fun a => if path.oustsHost then { a with host := [] } else a
    query := query.map fun q => Percent.encode (Percent.querySet (isWeb scheme)) (Path.kept q)
    fragment := fragment.map (Percent.encode Percent.fragmentSet <| Path.kept ·) }

/-- The path that follows an authority. The path of an address of the web is never empty. -/
def pathAfterAuthority (scheme text : List Char) : Path :=
  let kind := pathKind scheme
  match (Path.kept text).head? with
  | none => ⟨if kind.web then ['/'] else [], false⟩
  | some c =>
    if kind.web then
      .follow kind ['/'] (if Path.isSlash true c then skip 1 text else text)
    else .follow kind (if c == '/' then [] else ['/']) text

/-! ### Authorities -/

/-- The characters before and after the last `@`. -/
def cutUser (cs : List Char) : Option (List Char) × List Char :=
  if cs.contains '@' then
    let back := cs.reverse
    (some ((back.dropWhile (· != '@')).drop 1).reverse, (back.takeWhile (· != '@')).reverse)
  else (none, cs)

/-- A user's name and password, encoded; a missing name or password is left out. -/
def encodeUser (cs : List Char) : Option (List Char) :=
  let name := Percent.encode Percent.userSet (cs.takeWhile (· != ':'))
  let password := Percent.encode Percent.userSet ((cs.dropWhile (· != ':')).drop 1)
  if name.isEmpty && password.isEmpty then none
  else some (name ++ (if password.isEmpty then [] else ':' :: password))

/-- The host in front of the port; a colon between brackets belongs to the host. -/
def hostText : Bool → List Char → List Char
  | _, [] => []
  | inside, c :: rest =>
    if c == ':' && !inside then []
    else c :: hostText (if c == '[' then true else if c == ']' then false else inside) rest

/-- Reads a port; nothing is no port. -/
def readPort (scheme digits : List Char) : Except UrlError (Option Nat) :=
  let n := digits.foldl (fun n c => 10 * n + (c.toNat - '0'.toNat)) 0
  if !digits.all Char.isDigit || n ≥ 65536 then .error .port
  else .ok (if digits.isEmpty || some n == usualPort? scheme then none else some n)

/-- Reads what follows the user of an authority. Only what is none of the web can do without a
host, and then there is no user and no port either. -/
def readAuthority (scheme : List Char) (user : Option (List Char)) (cs : List Char) :
    Except UrlError Authority := do
  let text := hostText false cs
  let host ← (if isWeb scheme then Host.read text else Host.readOpaque text).mapError .host
  let portText := cs.drop text.length
  if host.isEmpty && (isWeb scheme || user.isSome || !portText.isEmpty) then
    throw (.host .missing)
  return ⟨user, host, ← readPort scheme (portText.drop 1)⟩

/-- The character ends an authority. -/
def endsAuthority (web : Bool) (c : Char) : Bool := Path.isSlash web c || c == '?' || c == '#'

/-- The character ends a port. -/
def endsPort (c : Char) : Bool := endsAuthority true c

/-- The characters of an authority. A backslash that is no slash ends it only after the host. -/
def authorityText (web : Bool) (cs : List Char) : List Char :=
  let text := (Path.kept cs).takeWhile (!endsAuthority web ·)
  let (_, rest) := cutUser text
  let n := text.length - rest.length + (hostText false rest).length
  text.take n ++ (text.drop n).takeWhile (!endsPort ·)

/-- Reads what follows the two slashes of an authority. -/
def ofAuthority (scheme cs : List Char) : Except UrlError Url := do
  let text := authorityText (isWeb scheme) cs
  let rest := skip text.length cs
  let (user, host) := cutUser text
  if user == some [] && host.isEmpty && !(Path.kept rest).isEmpty then throw (.host .missing)
  let authority ← readAuthority scheme (user.bind encodeUser) host
  return withTail scheme (some authority) (pathAfterAuthority scheme) rest

/-! ### Local files -/

/-- The address of a local file, on a machine or on this one. -/
def onMachine (host : List Char) (place : List Char → Path) (cs : List Char) : Url :=
  withTail fileScheme (some ⟨none, host, none⟩) place cs

/-- The path of a file that a text leads to. -/
def filePath (start text : List Char) : Path := .follow (pathKind fileScheme) start text

/-- Reads the name of a machine; this one may be called by name. -/
def readMachine (cs : List Char) : Except UrlError (List Char) :=
  if cs.isEmpty then .ok []
  else do
    let host ← (Host.read cs).mapError .host
    return if host == "localhost".toList then [] else host

/-- Reads what follows the two slashes of a local file; a drive is no machine. -/
def ofMachine (cs : List Char) : Except UrlError Url := do
  let text := (Path.kept cs).takeWhile (!endsAuthority true ·)
  if Path.isDrive text then return onMachine [] (filePath ['/']) cs
  let host ← readMachine text
  let rest := skip text.length cs
  if host.isEmpty then return onMachine [] (filePath ['/']) rest
  else return onMachine host (pathAfterAuthority fileScheme) rest

/-- The text starts with a drive. -/
def startsWithDrive (cs : List Char) : Bool := Path.startsWithDrive (Path.kept cs)

/-- The address of a file on the machine of another one, which no drive ousts. -/
def onSameMachine (host start cs : List Char) : Url :=
  onMachine host (fun text => { filePath start text with oustsHost := false }) cs

/-- Reads a path from the root, seen from a file: its drive stays, or else its machine. -/
def fromRoot (base : Option (List Char × List Char)) (cs : List Char) : Url :=
  match if startsWithDrive (skip 1 cs) then none else base with
  | none => onMachine [] (filePath []) cs
  | some (host, path) =>
    let drive := (path.drop 1).takeWhile (· != '/')
    if Path.isPlainDrive drive then onMachine [] (filePath ('/' :: drive)) cs
    else onSameMachine host [] cs

/-- Reads a path that starts with no slash, seen from a file. -/
def fromFile (base : Option (List Char × List Char)) (cs : List Char) : Url :=
  match if startsWithDrive cs then none else base with
  | none => onMachine [] (filePath ['/']) cs
  | some (host, path) => onSameMachine host (Path.drop (pathKind fileScheme) path) cs

/-! ### Reading -/

/-- Reads what follows the scheme of an address that is none of the web. -/
def ofOther (scheme cs : List Char) : Except UrlError Url :=
  match Path.kept cs with
  | '/' :: '/' :: _ => ofAuthority scheme (skip 2 cs)
  | '/' :: _ => .ok (withTail scheme none (.follow (pathKind scheme) ['/']) (skip 1 cs))
  | _ =>
    let text := Percent.encode Percent.controlSet (Path.kept (cutTail cs).1)
    .ok { withTail scheme none (fun _ => ⟨[], false⟩) cs with path := .flat text }

/-- What a reference without a path stands for, seen from an address: the address with another
fragment, and with another query if the reference has one. -/
def ofBare? (base : Url) (cs : List Char) : Option Url :=
  let tail := withTail base.scheme base.authority (fun _ => ⟨[], false⟩) cs
  match (Path.kept cs).head? with
  | none => some { base with fragment := none }
  | some '#' => some { base with fragment := tail.fragment }
  | some '?' => some { tail with path := base.path }
  | some _ => none

/-- The host and the path of an address of a file. -/
def filePlace? (u : Url) : Option (List Char × List Char) :=
  match u.path with
  | .rooted text =>
    if u.scheme == fileScheme then some ((u.authority.map (·.host)).getD [], text) else none
  | .flat _ => none

/-- Reads what follows the scheme of a local file, seen from an address. -/
def ofFile (base : Option Url) (cs : List Char) : Except UrlError Url :=
  let base := base.filter fun b => b.filePlace?.isSome
  if slashes cs ≥ 2 then ofMachine (skip 2 cs)
  else if slashes cs = 1 then .ok (fromRoot (base.bind filePlace?) cs)
  else .ok ((base.bind (ofBare? · cs)).getD (fromFile (base.bind filePlace?) cs))

/-- Reads a reference to an address with a rooted path. -/
def ofRelative (base : Url) (path cs : List Char) : Except UrlError Url :=
  let kind := pathKind base.scheme
  let text := Path.kept cs
  if slashes cs ≥ 2 then
    ofAuthority base.scheme (skip (if text.take 2 == ['/', '/'] then 2 else slashes cs) cs)
  else if slashes cs = 1 then
    .ok (withTail base.scheme base.authority (.follow kind ['/']) (skip 1 cs))
  else
    let above := Path.drop kind path
    let start := if above.isEmpty then ['/'] else above
    .ok ((ofBare? base cs).getD (withTail base.scheme base.authority (.follow kind start) cs))

/-- Reads a reference without a scheme, seen from an address. -/
def ofReference (base : Url) (cs : List Char) : Except UrlError Url :=
  match base.path with
  | .flat _ =>
    match (Path.kept cs).head?, ofBare? base cs with
    | some '#', some url => .ok url
    | _, _ => .error .flatBase
  | .rooted path =>
    if base.scheme == fileScheme then ofFile (some base) cs else ofRelative base path cs

/-- Reads an address, seen from another one if there is one. -/
def read (base : Option Url) (s : String) : Except UrlError Url :=
  let cs := trim s.toList
  match cutScheme? (Path.kept cs), base with
  | none, none => .error .alone
  | none, some base => ofReference base cs
  | some (scheme, n), base =>
    let rest := skip n cs
    if scheme == fileScheme then ofFile base rest
    else if isWeb scheme then
      match base.filter fun b => b.scheme == scheme && slashes rest < 2 with
      | some base => ofReference base rest
      | none => ofAuthority scheme (skip (slashes rest) rest)
    else ofOther scheme rest

/-- Reads an address. -/
def parse (s : String) : Except UrlError Url := read none s

/-- The address that a reference stands for, seen from an address. -/
def join (base : Url) (reference : String) : Except UrlError Url := read (some base) reference

/-! ### Writing -/

/-- The text of an authority. -/
def renderAuthority (a : Authority) : List Char :=
  ['/', '/'] ++ (match a.user with
    | some user => user ++ ['@']
    | none => []) ++ a.host ++ (match a.port with
    | some n => ':' :: n.repr.toList
    | none => [])

/-- The text of a path. Without an authority, two slashes in front would look like one. -/
def renderPath (bare : Bool) : UrlPath → List Char
  | .flat text => text
  | .rooted text => if bare && text.take 2 == ['/', '/'] then ['/', '.'] ++ text else text

/-- The text of an address. -/
def render (u : Url) : String :=
  String.ofList (u.scheme ++ [':'] ++ (u.authority.map renderAuthority).getD []
    ++ renderPath u.authority.isNone u.path
    ++ (u.query.map ('?' :: ·)).getD [] ++ (u.fragment.map ('#' :: ·)).getD [])

/-- The address without the user. -/
def withoutUser (u : Url) : Url :=
  { u with authority := u.authority.map ({ · with user := none }) }

/-- The address with further segments; none if its path is flat. -/
def extend? (u : Url) (more : List String) : Option Url :=
  match u.path with
  | .flat _ => none
  | .rooted text => some { u with path := .rooted (Path.extend (pathKind u.scheme) text more) }

end Url

end Outlays

import Outlays.Web.Domain
import Outlays.Web.Percent

/-!
# Hosts

The host of an address is a domain name, an address of version 4 written as one to four numbers,
or an address of version 6 in brackets. Each has one canonical text: domain names folded and in
ASCII, numbers in decimal, and the longest run of zeros left out.

## Main definitions

* `HostError` — why a text is no host
* `Host.read` — the canonical text of the host of a web address
* `Host.readOpaque` — the host of any other address
-/

namespace Outlays

/-- Why a text is no host. -/
inductive HostError where
  /-- There is none, where there has to be one. -/
  | missing
  /-- It is no domain name. -/
  | domain
  /-- It ends in a number, but is no address of version 4. -/
  | version4
  /-- It starts with a bracket, but is no address of version 6. -/
  | version6
  /-- It holds a character that has no place in a host. -/
  | character
  deriving DecidableEq, Repr

/-- The words for an error. -/
def HostError.message : HostError → String
  | .missing => "empty host"
  | .domain => "invalid international domain name"
  | .version4 => "invalid IPv4 address"
  | .version6 => "invalid IPv6 address"
  | .character => "invalid domain character"

namespace Host

/-- Reads digits in a base; every character must be one. -/
def number? (base : Nat) (cs : List Char) : Option Nat :=
  cs.foldlM (fun n c => do
    let d ← if c.isDigit then some (c.toNat - '0'.toNat)
      else if 'a' ≤ c.toLower && c.toLower ≤ 'f' then some (c.toLower.toNat - 'a'.toNat + 10)
      else none
    if d < base then some (n * base + d) else none) 0

/-- One number of an address of version 4: decimal, octal after a zero, hexadecimal after `0x`. -/
def part? (cs : List Char) : Option Nat :=
  match cs with
  | [] => none
  | '0' :: 'x' :: rest => number? 16 rest
  | '0' :: 'X' :: rest => number? 16 rest
  | '0' :: d :: rest => number? 8 (d :: rest)
  | rest => number? 10 rest

/-- The labels of a domain, less one empty label at the end. -/
def labels (cs : List Char) : List (List Char) :=
  let parts := cs.splitOn '.'
  if parts.length > 1 && parts.getLast?.any (·.isEmpty) then parts.dropLast else parts

/-- The last label of the domain is a number, so that the domain must be an address. -/
def endsInNumber (cs : List Char) : Bool :=
  match (labels cs).getLast? with
  | some last => !last.isEmpty && (last.all Char.isDigit || (part? last).isSome)
  | none => false

/-- An address of version 4 as four decimal numbers. The last number fills what the others leave. -/
def version4? (cs : List Char) : Option (List Char) := do
  let parts := labels cs
  if parts.length > 4 then none
  let numbers ← parts.mapM part?
  let front := numbers.dropLast
  let last ← numbers.getLast?
  if front.any (· > 255) || last ≥ Nat.pow 256 (4 - front.length) then none
  let value := front.zipIdx.foldl (fun v (n, i) => v + (n <<< (8 * (3 - i)))) last
  let bytes := [3, 2, 1, 0].map fun i => ((value >>> (8 * i)) % 256).repr.toList
  return List.intercalate ['.'] bytes

/-- Reads the pieces of an address of version 6 between colons; the last may be an address of
version 4, which makes two pieces. -/
def pieces? (cs : List Char) : Option (List Nat) :=
  if cs.isEmpty then some []
  else do
    let parts := cs.splitOn ':'
    let front ← parts.dropLast.mapM fun p =>
      if p.isEmpty || p.length > 4 then none else number? 16 p
    let last ← parts.getLast?
    if last.contains '.' then
      let bytes ← (last.splitOn '.').mapM fun p =>
        if p.isEmpty || p.length > 3 || (p.length > 1 && p.head? == some '0') then none
        else number? 10 p
      match bytes with
      | [a, b, c, d] =>
        if [a, b, c, d].any (· > 255) then none else some (front ++ [a * 256 + b, c * 256 + d])
      | _ => none
    else if last.isEmpty || last.length > 4 then none
    else return front ++ [← number? 16 last]

/-- The position of the first `::`. -/
def doubleColon? : List Char → Option (List Char × List Char)
  | ':' :: ':' :: rest => some ([], rest)
  | c :: rest => (doubleColon? rest).map fun (a, b) => (c :: a, b)
  | [] => none

/-- The eight pieces of an address of version 6. -/
def version6? (cs : List Char) : Option (List Nat) := do
  let pieces ← match doubleColon? cs with
    | some (before, after) => do
      let a ← pieces? before
      let b ← pieces? after
      if before.contains '.' || a.length + b.length > 7 then none
      some (a ++ List.replicate (8 - a.length - b.length) 0 ++ b)
    | none => pieces? cs
  if pieces.length = 8 then some pieces else none

/-- The first longest run of at least two zeros: where it starts and how long it is. -/
def zeroRun (pieces : List Nat) : Nat × Nat :=
  (List.range pieces.length).foldl (fun best i =>
    let n := ((pieces.drop i).takeWhile (· == 0)).length
    if n > best.2 && n > 1 then (i, n) else best) (0, 0)

/-- An address of version 6 in brackets, its longest run of zeros left out. -/
def renderVersion6 (pieces : List Nat) : List Char :=
  let show_ (ps : List Nat) := List.intercalate [':'] (ps.map (Nat.toDigits 16 ·))
  let (start, n) := zeroRun pieces
  let body := if n = 0 then show_ pieces
    else show_ (pieces.take start) ++ [':', ':'] ++ show_ (pieces.drop (start + n))
  '[' :: body ++ [']']

/-- No host may hold the character. -/
def isForbidden (c : Char) : Bool :=
  c.toNat == 0 || c == '\t' || c == '\n' || c == '\r' || c == ' ' || c == '#' || c == '/'
    || c == ':' || c == '<' || c == '>' || c == '?' || c == '@' || c == '[' || c == '\\'
    || c == ']' || c == '^' || c == '|'

/-- Reads an address of version 6 after the bracket in front of it. -/
def readVersion6 (cs : List Char) : Except HostError (List Char) :=
  match if cs.getLast? == some ']' then version6? cs.dropLast else none with
  | some pieces => .ok (renderVersion6 pieces)
  | none => .error .version6

/-- Reads a domain name, or an address of version 4 if it ends in a number. -/
def readDomain (cs : List Char) : Except HostError (List Char) :=
  match Domain.toAscii? (Text.decodeLossy (Percent.decode (Text.encodeChars cs))) with
  | none => .error .domain
  | some [] => .error .missing
  | some ascii =>
    if endsInNumber ascii then
      match version4? ascii with
      | some address => .ok address
      | none => .error .version4
    else .ok ascii

/-- The canonical text of the host of a web address. -/
def read : List Char → Except HostError (List Char)
  | '[' :: rest => readVersion6 rest
  | cs => readDomain cs

/-- The text of the host of an address that is none of the web: kept as it is, but for controls
and characters beyond ASCII. It may be empty. -/
def readOpaque : List Char → Except HostError (List Char)
  | '[' :: rest => readVersion6 rest
  | cs =>
    if cs.any isForbidden then .error .character
    else .ok (Percent.encode Percent.controlSet cs)

end Host

end Outlays

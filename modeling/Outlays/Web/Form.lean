import Outlays.Fault.Refusal
import Outlays.Listing.Column
import Outlays.Web.Percent

/-!
# Query strings

A query string is a list of named values, between ampersands. Names and values are encoded: a plus
sign is a blank, and a percent sign starts a byte. A value that is asked for may stand once; the
other names are passed over.

## Main definitions

* `Form.pairs` — the named values of a query string
* `Form.text?`, `Form.unsigned?`, `Form.signed?` — the value under a name
* `Form.listing` — what a client asks of a listing
-/

namespace Outlays.Form

/-- The text that an encoded name or value stands for; bytes that are no UTF-8 become U+FFFD. -/
def decodeText (cs : List Char) : String :=
  let spaced := cs.map fun c => if c == '+' then ' ' else c
  String.ofList (Text.decodeLossy (Percent.decode (Text.encodeChars spaced)))

/-- The name and the value of one part, cut at the first equals sign. -/
def pair (part : List Char) : String × String :=
  (decodeText (part.takeWhile (· != '=')), decodeText ((part.dropWhile (· != '=')).drop 1))

/-- The named values of a query string, in order; empty parts are passed over. -/
def pairs (query : String) : List (String × String) :=
  ((query.toList.splitOn '&').filter (!·.isEmpty)).map pair

/-- The value under a name, if there is one; a name may stand once. -/
def text? (form : List (String × String)) (name : String) : Except Refusal (Option String) :=
  match (form.filter (·.1 == name)).map (·.2) with
  | [] => .ok none
  | [value] => .ok (some value)
  | _ => .error (.query s!"duplicate field {name}")

/-- The number that ASCII digits stand for; there must be one. -/
def digits? (cs : List Char) : Option Nat :=
  if cs.isEmpty || !cs.all Char.isDigit then none
  else some (cs.foldl (fun n c => 10 * n + (c.toNat - '0'.toNat)) 0)

/-- A whole number up to a greatest one, perhaps after a plus sign. -/
def natural? (most : Nat) (s : String) : Option Nat := do
  let n ← digits? (match s.toList with
    | '+' :: rest => rest
    | cs => cs)
  if n ≤ most then some n else none

/-- A whole number of 32 bits with a sign. -/
def integer? (s : String) : Option Int := do
  let n : Int ← match s.toList with
    | '-' :: rest => (digits? rest).map fun n => -(n : Int)
    | '+' :: rest => (digits? rest).map fun n => (n : Int)
    | cs => (digits? cs).map fun n => (n : Int)
  if int32Bounds.1 ≤ n && n ≤ int32Bounds.2 then some n else none

/-- The value under a name, read as `read` does. -/
def value? {α : Type} (form : List (String × String)) (read : String → Option α)
    (name : String) : Except Refusal (Option α) := do
  match ← text? form name with
  | none => return none
  | some text =>
    match read text with
    | some a => return some a
    | none => .error (.query s!"invalid {name}")

/-- What a client asks of a listing. -/
def listing (form : List (String × String)) : Except Refusal ListingRequest := do
  return {
    page := ← value? form (natural? uint32Max) "page"
    limit := ← value? form (natural? uint32Max) "limit"
    order := ← text? form "order"
    sort := ← text? form "sort" }

/-- The fiscal year and the fiscal period that a client names. -/
def period (form : List (String × String)) : Except Refusal (Option Int × Option Nat) := do
  return (← value? form integer? "fiscal_year", ← value? form (natural? uint8Max) "fiscal_period")

end Outlays.Form

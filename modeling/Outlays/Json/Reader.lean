import Outlays.Json.Basic

/-!
# Reading typed values out of JSON

A reader takes a JSON value to a value of some type, or says why it cannot. Records are read from
objects, where unknown names are passed over and a known name may stand once, or from arrays that
hold the fields in their declared order.

## Main definitions

* `Json.Reader` — readers, with `text`, `bool`, `within`, `double`, `nullable`, `list`, `variant`
* `Json.Shape`, `Json.Record` — the declared fields of a record, and a value read as one
-/

namespace Outlays.Json

/-- Reads a value of a type, or gives the reason why the JSON value holds none. -/
abbrev Reader (α : Type) := Json → Except String α

namespace Reader

/-- A text. -/
def text : Reader String
  | .str s => .ok s
  | _ => .error "expected a text"

/-- A truth value. -/
def bool : Reader Bool
  | .bool b => .ok b
  | _ => .error "expected true or false"

/-- A whole number between two bounds. Doubles are refused, whatever their value. -/
def within (low high : Int) : Reader Int
  | .num (.whole n) =>
    if low ≤ n && n ≤ high then .ok n else .error "the number is out of range"
  | _ => .error "expected a whole number"

/-- A whole number of 32 bits with a sign. -/
def int32 : Reader Int := within int32Bounds.1 int32Bounds.2

/-- A whole number of 64 bits with a sign. -/
def int64 : Reader Int := within int64Bounds.1 int64Bounds.2

/-- A natural number up to a greatest one. -/
def natUpTo (most : Nat) : Reader Nat := fun j => (within 0 most j).map Int.toNat

/-- A double; whole numbers are read as the nearest one. -/
def double : Reader Float
  | .num (.double x) => .ok x
  | .num (.whole n) => .ok (Float.ofInt n)
  | _ => .error "expected a number"

/-- A value that may be null. -/
def nullable {α : Type} (read : Reader α) : Reader (Option α)
  | .null => .ok none
  | j => (read j).map some

/-- A list of values. -/
def list {α : Type} (read : Reader α) : Reader (List α)
  | .arr items => items.mapM read
  | _ => .error "expected a list"

/-- One of several names, alone or as the only field of an object, with null as its value. -/
def variant {α : Type} (cases : List (String × α)) : Reader α := fun j =>
  let find (name : String) : Except String α :=
    match cases.find? (·.1 == name) with
    | some c => .ok c.2
    | none => .error "unknown name"
  match j with
  | .str s => find s
  | .obj [(name, .null)] => find name
  | _ => .error "expected a name"

/-- Any value that denotes something, nested less deep than the bound; of repeated names in an
object the last counts. -/
def any (bound : Nat) : Reader Json := fun j =>
  if j.isReadable && j.depth < bound then .ok j.settled else .error "expected a value"

end Reader

/-- What a missing field means. -/
inductive Absence where
  /-- The record cannot be read. -/
  | refused
  /-- A field that may be null counts as null; an array must give it all the same. -/
  | null
  /-- The field has a default, also in an array that ends before it. -/
  | filled
  deriving DecidableEq, Repr

/-- The declaration of a field: its names, the first of which is the usual one, and what it means
that it is missing. -/
structure Slot where
  name : String
  others : List String := []
  absence : Absence := .refused
  deriving Repr

/-- The declared fields of a record, in order. -/
abbrev Shape := List Slot

/-- The name is one of the slot's names. -/
def Slot.accepts (s : Slot) (name : String) : Bool := s.name == name || s.others.contains name

/-- A record that has been read: the value given for each field, under its usual name. -/
structure Record where
  given : List (String × Json)

namespace Record

/-- The values that an object gives for a slot. -/
def valuesFor (fields : List (String × Json)) (s : Slot) : List Json :=
  (fields.filter fun f => s.accepts f.1).map (·.2)

/-- A slot filled from the fields of an object. -/
def fromFields (fields : List (String × Json)) (s : Slot) :
    Except String (List (String × Json)) :=
  match valuesFor fields s with
  | [j] => .ok [(s.name, j)]
  | [] => if s.absence = .refused then .error "a field is missing" else .ok []
  | _ => .error "a field is repeated"

/-- The slots filled from the items of an array, in order. -/
def fromItems : Shape → List Json → Except String (List (String × Json))
  | [], [] => .ok []
  | [], _ :: _ => .error "too many fields"
  | s :: slots, j :: items => (fromItems slots items).map ((s.name, j) :: ·)
  | s :: slots, [] =>
    if s.absence = .filled then fromItems slots [] else .error "too few fields"

/-- Reads a value as a record of the shape. -/
def read (shape : Shape) : Json.Reader Record
  | .obj fields => (shape.mapM (fromFields fields)).map fun parts => ⟨parts.flatten⟩
  | .arr items => (fromItems shape items).map Record.mk
  | _ => .error "expected a record"

/-- The value given for a field. -/
def value? (r : Record) (name : String) : Option Json := (r.given.find? (·.1 == name)).map (·.2)

/-- A field that must be given. -/
def need {α : Type} (r : Record) (name : String) (read : Json.Reader α) : Except String α :=
  match r.value? name with
  | some j => read j
  | none => .error "a field is missing"

/-- A field that may be missing or null. -/
def may {α : Type} (r : Record) (name : String) (read : Json.Reader α) :
    Except String (Option α) :=
  match r.value? name with
  | some j => Json.Reader.nullable read j
  | none => .ok none

/-- A field with a default. -/
def orElse {α : Type} (r : Record) (name : String) (default : α) (read : Json.Reader α) :
    Except String α :=
  match r.value? name with
  | some j => read j
  | none => .ok default

end Record

end Outlays.Json

import Outlays.Number.Shortest
import Outlays.Number.Width

/-!
# JSON values

A value keeps the fields of an object in the order they were written, repeated names included,
and tells whole numbers from doubles: `1` and `1.0` are different numbers here. A string or
number can be well formed and still denote nothing (half a surrogate pair, bytes that are no
text, a number beyond every double). Such a value is `unreadable`: a reader may pass over it and
may not read it.
-/

namespace Outlays

/-- A JSON number: a whole number of at most 64 bits, or a double. -/
inductive Json.Number where
  | whole (n : Int)
  | double (x : Float)
  deriving Repr, Inhabited

/-- A JSON value. -/
inductive Json where
  | null
  | bool (b : Bool)
  | num (n : Json.Number)
  | str (s : String)
  | arr (items : List Json)
  | obj (fields : List (String × Json))
  | unreadable
  deriving Repr, Inhabited

namespace Json

/-- The least and the greatest whole number that a JSON number can be. -/
def wholeBounds : Int × Int := (int64Bounds.1, uint64Max)

/-- A natural number as a JSON value. -/
def nat (n : Nat) : Json := .num (.whole n)

/-- A whole number as a JSON value. -/
def int (n : Int) : Json := .num (.whole n)

/-- A double as a JSON value: what is not finite has no JSON number and is null. -/
def double (x : Float) : Json := if Double.isFinite x then .num (.double x) else .null

/-- A value that may be missing, as null. -/
def option {α : Type} (f : α → Json) : Option α → Json
  | some a => f a
  | none => .null

/-- A list of texts. -/
def texts (ss : List String) : Json := .arr (ss.map .str)

/-- The value of the last field of that name. -/
def field? (name : String) : Json → Option Json
  | .obj fields => (fields.reverse.find? fun f => f.1 == name).map (·.2)
  | _ => none

mutual

/-- How deep arrays and objects nest in a value. -/
def depth : Json → Nat
  | .arr items => depthItems items + 1
  | .obj fields => depthFields fields + 1
  | _ => 0

/-- The greatest depth of the items. -/
def depthItems : List Json → Nat
  | [] => 0
  | j :: rest => max (depth j) (depthItems rest)

/-- The greatest depth of the field values. -/
def depthFields : List (String × Json) → Nat
  | [] => 0
  | f :: rest => max (depth f.2) (depthFields rest)

end

mutual

/-- Every part of the value denotes something. -/
def isReadable : Json → Bool
  | .unreadable => false
  | .arr items => areReadable items
  | .obj fields => fieldsReadable fields
  | _ => true

/-- Every item is readable. -/
def areReadable : List Json → Bool
  | [] => true
  | j :: rest => isReadable j && areReadable rest

/-- Every field value is readable. -/
def fieldsReadable : List (String × Json) → Bool
  | [] => true
  | f :: rest => isReadable f.2 && fieldsReadable rest

end

/-- Puts a field into an object whose names increase: a later value of a name takes the place of
the earlier one. -/
def putField (name : String) (value : Json) : List (String × Json) → List (String × Json)
  | [] => [(name, value)]
  | f :: rest =>
    if f.1 == name then (name, value) :: rest
    else if name < f.1 then (name, value) :: f :: rest
    else f :: putField name value rest

mutual

/-- The value with the names of every object in increasing order, each once; of the values of a
name the last stays. -/
def settled : Json → Json
  | .arr items => .arr (settledItems items)
  | .obj fields => .obj (settledFields [] fields)
  | j => j

/-- The items, each settled. -/
def settledItems : List Json → List Json
  | [] => []
  | j :: rest => settled j :: settledItems rest

/-- The fields, each settled, put one after the other into `done`. -/
def settledFields (done : List (String × Json)) : List (String × Json) → List (String × Json)
  | [] => done
  | (name, value) :: rest => settledFields (putField name (settled value) done) rest

end

end Json

end Outlays

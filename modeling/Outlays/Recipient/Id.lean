import Outlays.Fault.Refusal

/-!
# Recipient ids

A recipient is named by the hash of its registration and its level in a hierarchy of owners: a
parent, the child of one, or a recipient that stands alone. The id is written as the hash, a
hyphen and the letter of the level.

## Main definitions

* `Level`, `RecipientId`
* `RecipientId.parse`, `RecipientId.render`
* `isSpecialCase` — names that stand for many recipients at once
-/

namespace Outlays

/-- The place of a recipient in a hierarchy of owners. -/
inductive Level where
  | parent
  | child
  | recipient
  deriving DecidableEq, Repr

namespace Level

/-- The letter of a level. -/
def letter : Level → Char
  | .parent => 'P'
  | .child => 'C'
  | .recipient => 'R'

/-- The written form of a level. -/
def code (l : Level) : String := String.singleton l.letter

/-- The levels with their written forms. -/
def names : List (String × Level) := [("P", .parent), ("C", .child), ("R", .recipient)]

/-- The level that a text stands for. -/
def ofCode? (s : String) : Option Level := (names.find? (·.1 == s)).map (·.2)

/-- Reads a level. -/
def read : Json.Reader Level := Json.Reader.variant names

end Level

/-- A hash and a level. -/
structure RecipientId where
  hash : Uuid
  level : Level
  deriving DecidableEq, Repr

/-- The characters before and after the last occurrence of `c`, if it occurs. -/
def splitAtLast? (c : Char) (cs : List Char) : Option (List Char × List Char) :=
  if cs.contains c then
    let back := cs.reverse
    some (((back.dropWhile (· != c)).drop 1).reverse, (back.takeWhile (· != c)).reverse)
  else none

namespace RecipientId

/-- Reads an id. The missing hyphen is reported first, then the level, then the hash. -/
def parse (raw : String) : Except Refusal RecipientId :=
  match splitAtLast? '-' raw.toList with
  | none => .error (.missingLevel raw)
  | some (hash, level) =>
    let hash := String.ofList hash
    let level := String.ofList level
    match Level.ofCode? level with
    | none => .error (.unknownLevel level)
    | some l =>
      match Uuid.read? hash with
      | none => .error (.malformedHash hash)
      | some u => .ok ⟨u, l⟩

/-- The written form: the hash, a hyphen and the letter of the level. -/
def render (id : RecipientId) : String := id.hash.render ++ "-" ++ id.level.code

end RecipientId

/-- The names that stand for many recipients at once. -/
def specialCases : List String := [
  "MULTIPLE RECIPIENTS", "REDACTED DUE TO PII", "MULTIPLE FOREIGN RECIPIENTS",
  "PRIVATE INDIVIDUAL", "INDIVIDUAL RECIPIENT", "MISCELLANEOUS FOREIGN AWARDEES"]

/-- The name stands for many recipients at once. -/
def isSpecialCase (name : String) : Bool := specialCases.contains name

end Outlays

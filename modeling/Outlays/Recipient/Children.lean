import Outlays.Recipient.Overview

/-!
# The children of a recipient

The children of a parent are known from two sources: the groups of its transactions, whose keys
name a child, and the affiliations of its profile. The first give rows with amounts, the second
the rows of those children that had no transactions in the window.

## Main definitions

* `ChildRow`, `Children.ask`
-/

namespace Outlays

/-- One child of a parent. -/
structure ChildRow where
  hash : Uuid
  name : Option String
  duns : Option String
  uei : Option String
  /-- The obligations in the window, in dollars. -/
  amount : Float
  /-- The state in the directory: missing without an entry, and unknown where the entry has no
  state. -/
  state : Option (Option String) := none
  deriving Repr

namespace ChildRow

/-- The written id of the child. -/
def id (r : ChildRow) : String := RecipientId.render ⟨r.hash, .child⟩

/-- The child as JSON; a missing state is left out. -/
def toJson (r : ChildRow) : Json :=
  .obj ([("recipient_id", .str r.id), ("name", .option .str r.name),
      ("duns", .option .str r.duns), ("uei", .option .str r.uei), ("amount", .double r.amount)]
    ++ (r.state.map fun s => ("state_province", Json.option .str s)).toList)

end ChildRow

namespace Children

/-- The hash in front of the last hyphen of a key's text. -/
def hashOf (k : ChildKey) : Option Uuid := do
  let (hash, _) ← splitAtLast? '-' (← k.hashWithLevel).toList
  Uuid.read? (String.ofList hash)

/-- The row of a group of transactions, if its key names a child. -/
def rowOf (t : Totals) : Option ChildRow := do
  let key := t.child.getD {}
  let hash ← hashOf key
  return { hash, name := key.name, duns := key.uniqueId, uei := none
           amount := t.obligations.toDollars }

/-- The row of a profile without transactions. -/
def rowOfProfile (p : Profile) : ChildRow :=
  { hash := p.hash, name := p.name, duns := p.duns, uei := p.uei, amount := 0.0 }

/-- The rows, each with the UEI of its own hash. -/
def withUeis (rows : List ChildRow) : Inquiry (List ChildRow) := do
  if rows.isEmpty then return rows
  let ueis ← Inquiry.put (.profileUeis (rows.map (·.hash)))
  return rows.map fun r => { r with uei := Keyed.get? ueis r.hash }

/-- The affiliations that no row has the DUNS of. -/
def missingFrom (rows : List ChildRow) (affiliations : List String) : List String :=
  affiliations.filter fun duns => !rows.any fun r => r.duns == some duns

/-- The rows of the affiliated children that have no row yet. -/
def withoutTotals (duns : String) (parent : RecipientId) (rows : List ChildRow) :
    Inquiry (List ChildRow) := do
  match ← Inquiry.put (.affiliations parent) with
  | none => .refuse (.childlessDuns duns)
  | some affiliations =>
    let missing := missingFrom rows affiliations
    if missing.isEmpty then return []
    return (← Inquiry.put (.childProfiles missing)).map rowOfProfile

/-- The rows, each with the state of its own hash. -/
def withStates (rows : List ChildRow) : Inquiry (List ChildRow) := do
  if rows.isEmpty then return rows
  let states ← Inquiry.put (.entryStates (rows.map (·.hash)))
  return rows.map fun r => { r with state := Keyed.get? states r.hash }

/-- The children of the parent with a DUNS. Children without transactions are listed unless all
years are asked for. -/
def ask (now : Instant) (duns : String) (year : Option String) : Inquiry (List ChildRow) := do
  let year ← Inquiry.ofExcept (YearFilter.parse year)
  match ← Inquiry.put (.findEntryByDuns duns) with
  | none => .refuse (.unknownDuns duns)
  | some entry =>
    let parent : RecipientId := ⟨entry.hash, .parent⟩
    let totals ← Overview.totalsOf now parent year .child
    let rows ← withUeis (totals.filterMap rowOf)
    let extra ← if year = .all then pure [] else withoutTotals duns parent rows
    withStates (rows ++ extra)

end Children

end Outlays

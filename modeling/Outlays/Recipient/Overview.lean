import Outlays.Inquiry.Basic
import Outlays.Recipient.BusinessType

/-!
# Recipient overviews

What is known about one recipient: its names, its parents, its business types, its location and
the totals of its transactions in a window of days.

## Main definitions

* `Parent`, `Overview`
* `Overview.ask` — the overview of a recipient, from what the stores answer
-/

namespace Outlays

/-- A parent of a recipient; what is not known of it is `none`. -/
structure Parent where
  id : Option String := none
  duns : Option String := none
  name : Option String := none
  uei : Option String := none
  deriving DecidableEq, Repr

/-- The parent as JSON. -/
def Parent.toJson (p : Parent) : Json :=
  .obj [("parent_id", .option .str p.id), ("parent_duns", .option .str p.duns),
    ("parent_name", .option .str p.name), ("parent_uei", .option .str p.uei)]

/-- What is known about a recipient. -/
structure Overview where
  name : Option String
  alternateNames : List String
  duns : Option String
  uei : Option String
  /-- The id as the client wrote it. -/
  recipientId : String
  level : Level
  parents : List Parent
  businessTypes : List String
  location : Location
  totals : Totals
  deriving Repr

namespace Overview

/-- The first parent; one of whom nothing is known when there is none. -/
def firstParent (o : Overview) : Parent := o.parents.head?.getD {}

/-- The overview as JSON. -/
def toJson (o : Overview) : Json :=
  let first := o.firstParent
  .obj [("name", .option .str o.name), ("alternate_names", .texts o.alternateNames),
    ("duns", .option .str o.duns), ("uei", .option .str o.uei),
    ("recipient_id", .str o.recipientId), ("recipient_level", .str o.level.code),
    ("parent_id", .option .str first.id), ("parent_name", .option .str first.name),
    ("parent_duns", .option .str first.duns), ("parent_uei", .option .str first.uei),
    ("parents", .arr (o.parents.map Parent.toJson)), ("business_types", .texts o.businessTypes),
    ("location", o.location.toJson),
    ("total_transaction_amount", .double o.totals.obligations.toDollars),
    ("total_transactions", .nat o.totals.transactions),
    ("total_face_value_loan_amount", .double o.totals.loans.toDollars),
    ("total_face_value_loan_transactions", .nat o.totals.loanTransactions)]

/-- The parent that an affiliated DUNS stands for, with the UEI of its own hash. -/
def affiliatedParent (ueis : Keyed Uuid String) (duns : String) : Option DirectoryEntry → Parent
  | none => { duns := some duns }
  | some entry =>
    { id := some (RecipientId.render ⟨entry.hash, .parent⟩)
      duns := some duns
      name := entry.name
      uei := ueis.get? entry.hash }

/-- The parents of a child, one for each affiliated DUNS, in order. -/
def affiliatedParents (id : RecipientId) : Inquiry (List Parent) := do
  let affiliations := (← Inquiry.put (.affiliations id)).getD []
  let resolved ← affiliations.mapM fun duns => do
    return (duns, ← Inquiry.put (.findEntryByDuns duns))
  let hashes := resolved.filterMap fun r => r.2.map (·.hash)
  let ueis ← if hashes.isEmpty then pure [] else Inquiry.put (.profileUeis hashes)
  return resolved.map fun r => affiliatedParent ueis r.1 r.2

/-- The parents of a recipient: none of one that stands alone, and itself of a parent. -/
def parentsOf (id : RecipientId) (raw : String) (entry : DirectoryEntry) (uei : Option String) :
    Inquiry (List Parent) :=
  match id.level with
  | .recipient => return []
  | .parent => return [{ id := some raw, duns := entry.duns, name := entry.name, uei }]
  | .child => affiliatedParents id

/-- The location cleaned up, with the name of its country where only the code is known. -/
def locationOf (raw : Location) : Inquiry Location := do
  let location := raw.normalised
  match location.countryToName with
  | none => return location
  | some code => return { location with countryName := ← Inquiry.put (.countryName code) }

/-- The categories of a registration. -/
def registeredCategories : Option Registration → List String
  | none => []
  | some r => BusinessFlag.categories (BusinessFlag.ofRegistration r.typeCodes r.structureCode)

/-- The categories of the latest registration under a name and a DUNS, where both are known. -/
def categoriesByRegistration (entry : DirectoryEntry) : Inquiry (List String) :=
  match entry.name, entry.duns with
  | some name, some duns => do
    return registeredCategories (← Inquiry.put (.latestRegistration name duns))
  | _, _ => return []

/-- The business types of a recipient, by its registration and by its latest transaction. A name
that stands for many recipients has none. -/
def businessTypesOf (entry : DirectoryEntry) : Inquiry (List String) := do
  if entry.name.any isSpecialCase then return []
  let registered ← categoriesByRegistration entry
  let traded ← Inquiry.put (.latestCategories entry.hash searchStart)
  return Text.sortedSet (registered ++ traded)

/-- The totals of a recipient's transactions in the window of a year. -/
def totalsOf (now : Instant) (id : RecipientId) (year : YearFilter) (grouping : Grouping) :
    Inquiry (List Totals) := do
  let filters ← Inquiry.ofExcept (TransactionFilters.forRecipient id year now.date)
  Inquiry.put (.recipientTotals filters grouping)

/-- What the totals of a recipient are grouped by. -/
def groupingOf : Level → Grouping
  | .parent => .parent
  | .child | .recipient => .recipient

/-- The directory entry of a recipient, which must have a name or a DUNS. -/
def entryOf (hash : Uuid) : Inquiry DirectoryEntry := do
  match ← Inquiry.put (.findEntry hash) with
  | some entry =>
    if entry.name.isSome || entry.duns.isSome then return entry
    else .refuse (.unlistedHash hash)
  | none => .refuse (.unlistedHash hash)

/-- The overview of a recipient. The year is checked first, then the id. -/
def ask (now : Instant) (raw : String) (year : Option String) : Inquiry Overview := do
  let year ← Inquiry.ofExcept (YearFilter.parse year)
  let id ← Inquiry.ofExcept (RecipientId.parse raw)
  if !(← Inquiry.put (.profileExists id)) then .refuse (.unknownRecipient raw)
  else
    let entry ← entryOf id.hash
    let ueis ← Inquiry.put (.profileUeis [id.hash])
    let uei := Keyed.get? ueis id.hash
    let parents ← parentsOf id raw entry uei
    let location ← locationOf entry.location
    let businessTypes ← businessTypesOf entry
    let totals ← totalsOf now id year (groupingOf id.level)
    return {
      name := entry.name
      alternateNames := Text.sorted entry.alternateNames
      duns := entry.duns
      uei
      recipientId := raw
      level := id.level
      parents
      businessTypes
      location
      totals := totals.head?.getD {} }

end Overview

end Outlays

import Outlays.Fiscal.Year
import Outlays.Recipient.Id

/-!
# Transaction filters

Which transactions a search is about. Each part that is not empty narrows the search; within a
part, one match is enough.

## Main definitions

* `AgencyFilter` — an agency by its role, its tier and its name
* `TransactionFilters`, `TransactionFilters.isEmpty`, `TransactionFilters.forRecipient`
* `TransactionFilters.readBody` — the filters that a client writes as JSON
-/

namespace Outlays

/-- What an agency did for a transaction. -/
inductive AgencyRole where
  | awarding
  | funding
  deriving DecidableEq, Repr

/-- The roles with their written names. -/
def AgencyRole.names : List (String × AgencyRole) :=
  [("awarding", .awarding), ("funding", .funding)]

/-- The written name of a role. -/
def AgencyRole.name : AgencyRole → String
  | .awarding => "awarding"
  | .funding => "funding"

/-- The rank of an agency: a department or a bureau of one. -/
inductive AgencyTier where
  | toptier
  | subtier
  deriving DecidableEq, Repr

/-- The tiers with their written names. -/
def AgencyTier.names : List (String × AgencyTier) := [("toptier", .toptier), ("subtier", .subtier)]

/-- The written name of a tier. -/
def AgencyTier.name : AgencyTier → String
  | .toptier => "toptier"
  | .subtier => "subtier"

/-- An agency in a role, by its exact name. -/
structure AgencyFilter where
  role : AgencyRole
  tier : AgencyTier
  name : String
  deriving DecidableEq, Repr

namespace AgencyFilter

/-- The agency as JSON. -/
def toJson (a : AgencyFilter) : Json :=
  .obj [("type", .str a.role.name), ("tier", .str a.tier.name), ("name", .str a.name)]

/-- Reads an agency. -/
def read : Json.Reader AgencyFilter := fun j => do
  let r ← Json.Record.read [{ name := "type" }, { name := "tier" }, { name := "name" }] j
  return ⟨← r.need "type" (Json.Reader.variant AgencyRole.names),
    ← r.need "tier" (Json.Reader.variant AgencyTier.names), ← r.need "name" Json.Reader.text⟩

end AgencyFilter

/-- Which transactions a search is about. -/
structure TransactionFilters where
  timePeriods : List TimePeriod := []
  agencies : List AgencyFilter := []
  awardTypeCodes : List String := []
  keywords : List String := []
  defCodes : List String := []
  recipientId : Option RecipientId := none
  deriving DecidableEq, Repr

namespace TransactionFilters

/-- No part narrows the search. -/
def isEmpty (f : TransactionFilters) : Bool :=
  f.timePeriods.isEmpty && f.agencies.isEmpty && f.awardTypeCodes.isEmpty && f.keywords.isEmpty
    && f.defCodes.isEmpty && f.recipientId.isNone

/-- The transactions of one recipient in the window that a year stands for. -/
def forRecipient (id : RecipientId) (year : YearFilter) (today : Date) :
    Except Refusal TransactionFilters :=
  (year.window today).map fun p => { timePeriods := [p], recipientId := some id }

/-- The filters as JSON. -/
def toJson (f : TransactionFilters) : Json :=
  .obj [("time_period", .arr (f.timePeriods.map TimePeriod.toJson)),
    ("agencies", .arr (f.agencies.map AgencyFilter.toJson)),
    ("award_type_codes", .texts f.awardTypeCodes), ("keywords", .texts f.keywords),
    ("def_codes", .texts f.defCodes),
    ("recipient_id", .option (fun id => .str (RecipientId.render id)) f.recipientId)]

/-- The declared parts of written filters; every one may be left out. -/
def shape : Json.Shape :=
  ["time_period", "agencies", "award_type_codes", "keywords", "def_codes", "recipient_id"].map
    fun name => { name, absence := .filled }

/-- Reads written filters, with the recipient id as the text that stands there. -/
def readParts : Json.Reader (TransactionFilters × Option String) := fun j => do
  let r ← Json.Record.read shape j
  let list {α : Type} (name : String) (item : Json.Reader α) :=
    r.orElse name [] (Json.Reader.list item)
  let timePeriods ← list "time_period" TimePeriod.read
  let agencies ← list "agencies" AgencyFilter.read
  let awardTypeCodes ← list "award_type_codes" Json.Reader.text
  let keywords ← list "keywords" Json.Reader.text
  let defCodes ← list "def_codes" Json.Reader.text
  let id ← r.may "recipient_id" Json.Reader.text
  return ({ timePeriods, agencies, awardTypeCodes, keywords, defCodes }, id)

/-- The filters whose recipient id is the text. -/
def withRecipient (parts : TransactionFilters × Option String) :
    Except Refusal TransactionFilters :=
  match parts.2 with
  | none => .ok parts.1
  | some raw =>
    match RecipientId.parse raw with
    | .ok id => .ok { parts.1 with recipientId := some id }
    | .error why => .error (.filterRecipient why)

end TransactionFilters

end Outlays

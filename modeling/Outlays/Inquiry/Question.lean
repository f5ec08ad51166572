import Outlays.Agency.Basic
import Outlays.Cache.Key
import Outlays.Cents
import Outlays.Filter
import Outlays.Keyed
import Outlays.Recipient.Location

/-!
# Questions to the stores

What the services ask of the stores behind them, each question with the type of its answer. The
stores are the register of recipients, the search index of transactions, the reference tables, the
agency reports, the federal accounts and the response cache.

## Main definitions

* `Question`, `Question.Answer`
* `DirectoryEntry`, `Profile`, `Registration`, `Totals` — what answers are made of
-/

namespace Outlays

/-- A recipient's entry in the directory. -/
structure DirectoryEntry where
  hash : Uuid
  name : Option String
  duns : Option String
  alternateNames : List String
  location : Location
  deriving DecidableEq, Repr

/-- The profile of a child recipient. -/
structure Profile where
  hash : Uuid
  name : Option String
  duns : Option String
  uei : Option String
  deriving DecidableEq, Repr

/-- The business type codes of a registration and the code of its legal structure. -/
structure Registration where
  typeCodes : List String
  structureCode : Option String
  deriving DecidableEq, Repr

/-- What totals are grouped by: the recipient, its parent, or each child of a parent. -/
inductive Grouping where
  | recipient
  | parent
  | child
  deriving DecidableEq, Repr

/-- The written name of a grouping. -/
def Grouping.name : Grouping → String
  | .recipient => "recipient"
  | .parent => "parent"
  | .child => "child"

/-- What the key of a child's bucket says about the child. -/
structure ChildKey where
  hashWithLevel : Option String := none
  uniqueId : Option String := none
  name : Option String := none
  deriving DecidableEq, Repr

/-- The totals of one group of transactions. -/
structure Totals where
  /-- The child, when totals are grouped by child. -/
  child : Option ChildKey := none
  obligations : Cents := .zero
  transactions : Nat := 0
  loans : Cents := .zero
  loanTransactions : Nat := 0
  deriving DecidableEq, Repr

/-- Which disaster spending counts: under any of the codes, reported from a day on, in windows
that have closed. -/
structure DisasterFilter where
  defCodes : List String
  since : Date
  closed : ClosedPeriods
  deriving DecidableEq, Repr

/-- A question to one of the stores. -/
inductive Question where
  | profileExists (id : RecipientId)
  | findEntry (hash : Uuid)
  | findEntryByDuns (duns : String)
  | profileUeis (hashes : List Uuid)
  | affiliations (id : RecipientId)
  | childProfiles (duns : List String)
  | entryStates (hashes : List Uuid)
  | countryName (code : String)
  | latestRegistration (name duns : String)
  | latestCategories (hash : Uuid) (since : Date)
  | countTransactions (filters : TransactionFilters)
  | recipientTotals (filters : TransactionFilters) (grouping : Grouping)
  | defCodes
  | closedPeriods (now : Instant)
  | countAccounts (filter : DisasterFilter)
  | findAgency (code : ToptierCode)
  | agenciesForPeriod (period : FiscalPeriod)
  | periodsForAgency (code : ToptierCode)
  | accountDifferences (code : ToptierCode) (period : FiscalPeriod)
  | publications (code : ToptierCode) (period : FiscalPeriod)
  | cacheGet (key : CacheKey)
  | cachePut (key : CacheKey) (body : List UInt8)
  deriving DecidableEq, Repr

namespace Question

/-- The type of a question's answer. -/
@[reducible] def Answer : Question → Type
  | .profileExists _ => Bool
  | .findEntry _ => Option DirectoryEntry
  | .findEntryByDuns _ => Option DirectoryEntry
  | .profileUeis _ => Keyed Uuid String
  | .affiliations _ => Option (List String)
  | .childProfiles _ => List Profile
  | .entryStates _ => Keyed Uuid (Option String)
  | .countryName _ => Option String
  | .latestRegistration _ _ => Option Registration
  | .latestCategories _ _ => List String
  | .countTransactions _ => Nat
  | .recipientTotals _ _ => List Totals
  | .defCodes => List String
  | .closedPeriods _ => ClosedPeriods
  | .countAccounts _ => Nat
  | .findAgency _ => Option Agency
  | .agenciesForPeriod _ => List PeriodRecord
  | .periodsForAgency _ => List PeriodRecord
  | .accountDifferences _ _ => List AccountDifference
  | .publications _ _ => List Publication
  | .cacheGet _ => Option (List UInt8)
  | .cachePut _ _ => Unit

end Question

end Outlays

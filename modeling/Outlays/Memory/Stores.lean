import Outlays.Inquiry.Basic
import Outlays.Search.Script

/-!
# Stores in memory

Stores that hold all they know as lists, in the order in which it was put there. They serve to run
the services without any server, and any question can be made to fail.

## Main definitions

* `Stores` — what is held
* `Memory`, `Memory.backend` — the stores with a response cache and the search index
-/

namespace Outlays

/-- A profile of a recipient. -/
structure ProfileRecord where
  id : RecipientId
  duns : Option String
  uei : Option String
  affiliations : List String
  name : Option String
  deriving Repr

/-- A registration under a name and a DUNS. -/
structure RegistrationRecord where
  name : String
  duns : String
  registration : Registration
  deriving Repr

/-- The categories that a transaction carries. -/
structure TransactionRecord where
  hash : Uuid
  day : Date
  categories : List String
  deriving Repr

/-- What an agency reported in a period. -/
structure Reported (α : Type) where
  code : String
  year : Int
  period : Int
  content : α
  deriving Repr

/-- All that the stores hold. -/
structure Stores where
  profiles : List ProfileRecord := []
  entries : List DirectoryEntry := []
  countries : List (String × String) := []
  registrations : List RegistrationRecord := []
  transactions : List TransactionRecord := []
  /-- The number of transactions, whatever the filters. -/
  transactionCount : Nat := 0
  /-- The totals, whatever the filters. -/
  totals : List Totals := []
  defCodes : List String := []
  closed : ClosedPeriods := {}
  accounts : Nat := 0
  agencies : List Agency := []
  records : List PeriodRecord := []
  differences : List (Reported AccountDifference) := []
  publications : List (Reported Publication) := []
  deriving Repr

namespace Stores

/-- The UEI of the first profile with the hash that has one. -/
def ueiOf (w : Stores) (hash : Uuid) : Option String :=
  w.profiles.findSome? fun p => if p.id.hash = hash then p.uei else none

/-- The UEIs of hashes, where they are known. -/
def ueisOf (w : Stores) (hashes : List Uuid) : Keyed Uuid String :=
  hashes.filterMap fun hash => (w.ueiOf hash).map (hash, ·)

/-- The states of the entries with one of the hashes; of several entries the last counts. -/
def statesOf (w : Stores) (hashes : List Uuid) : Keyed Uuid (Option String) :=
  Keyed.ofList ((w.entries.filter fun e => hashes.contains e.hash).map fun e =>
    (e.hash, e.location.stateCode))

/-- The profiles of children with one of the DUNS. -/
def childrenWith (w : Stores) (duns : List String) : List Profile :=
  (w.profiles.filter fun p => p.id.level = .child && p.duns.any duns.contains).map fun p =>
    { hash := p.id.hash, name := p.name, duns := p.duns, uei := p.uei }

/-- What an agency reported in a period. -/
def reportedIn {α : Type} (list : List (Reported α)) (code : ToptierCode) (p : FiscalPeriod) :
    List α :=
  (list.filter fun r =>
    r.code = code.text && r.year = p.year && r.period = (p.period : Int)).map (·.content)

/-- The records of a period. -/
def recordsIn (w : Stores) (p : FiscalPeriod) : List PeriodRecord :=
  w.records.filter fun r => r.fiscalYear = p.year && r.fiscalPeriod = (p.period : Int)

/-- The categories of the first transaction of a recipient from a day on. -/
def categoriesOf (w : Stores) (hash : Uuid) (since : Date) : List String :=
  ((w.transactions.find? fun t => t.hash = hash && decide (since ≤ t.day)).map
    (·.categories)).getD []

end Stores

/-- Stores with the responses that are cached and the state of the way to the search index. -/
structure Memory where
  stores : Stores := {}
  cached : Keyed CacheKey (List UInt8) := []
  script : Script := {}

/-- How stores in memory are used. -/
structure MemoryUse where
  /-- Responses are kept. -/
  caches : Bool := false
  /-- The search index that answers for the stores, and the way to it. -/
  search : Option (SearchIndex × Wire Script) := none

namespace Memory

variable (use : MemoryUse)

/-- What an exchange with the search index comes to. -/
def exchange {α : Type} (x : Exchange Script α) (m : Memory) : Except Failure α × Memory :=
  let (result, script) := x.run m.script
  (result, { m with script })

/-- The answer to a question. -/
def respond (q : Question) (m : Memory) : Except Failure q.Answer × Memory :=
  let w := m.stores
  match q with
  | .profileExists id => (.ok (w.profiles.any (·.id = id)), m)
  | .findEntry hash => (.ok (w.entries.find? (·.hash = hash)), m)
  | .findEntryByDuns duns => (.ok (w.entries.find? (·.duns = some duns)), m)
  | .profileUeis hashes => (.ok (w.ueisOf hashes), m)
  | .affiliations id => (.ok ((w.profiles.find? (·.id = id)).map (·.affiliations)), m)
  | .childProfiles duns => (.ok (w.childrenWith duns), m)
  | .entryStates hashes => (.ok (w.statesOf hashes), m)
  | .countryName code => (.ok ((w.countries.find? (·.1 == code)).map (·.2)), m)
  | .latestRegistration name duns =>
    (.ok ((w.registrations.find? fun r => r.name = name && r.duns = duns).map
      (·.registration)), m)
  | .latestCategories hash since => (.ok (w.categoriesOf hash since), m)
  | .countTransactions filters =>
    match use.search with
    | none => (.ok w.transactionCount, m)
    | some (index, wire) => exchange (Exchange.countTransactions wire index filters) m
  | .recipientTotals filters grouping =>
    match use.search with
    | none => (.ok w.totals, m)
    | some (index, wire) => exchange (Exchange.recipientTotals wire index filters grouping) m
  | .defCodes => (.ok w.defCodes, m)
  | .closedPeriods _ => (.ok w.closed, m)
  | .countAccounts _ => (.ok w.accounts, m)
  | .findAgency code => (.ok (w.agencies.find? (·.toptierCode = code.text)), m)
  | .agenciesForPeriod period => (.ok (w.recordsIn period), m)
  | .periodsForAgency code => (.ok (w.records.filter (·.toptierCode = code.text)), m)
  | .accountDifferences code period => (.ok (Stores.reportedIn w.differences code period), m)
  | .publications code period => (.ok (Stores.reportedIn w.publications code period), m)
  | .cacheGet key => (.ok (if use.caches then m.cached.get? key else none), m)
  | .cachePut key body =>
    (.ok (), if use.caches then { m with cached := m.cached.put key body } else m)

/-- The stores, with the questions that are made to fail. -/
def backend (outage : Question → Option Failure) : Backend Memory where
  answer q m :=
    match outage q with
    | some how => (.error how, m)
    | none => respond use q m

end Memory

end Outlays

import Outlays.Database.Statement

/-!
# Answers of the database

How the rows of a statement answer a question. A statement that wants one row takes the first. A
question that the database has nothing to say about has no answer here.

## Main definitions

* `DatabaseFailure`, `Connection` — what a statement comes to
* `Database.answer?` — the answer to a question
-/

namespace Outlays

/-- Why a statement yields no rows. -/
inductive DatabaseFailure where
  /-- There is no connection to be had. -/
  | unreachable (words : String)
  /-- The connection is closed. -/
  | closed
  /-- The database rejects the statement. -/
  | rejected (words : String)
  deriving DecidableEq, Repr

/-- A connection: the rows of a statement, and the state of the connection afterwards. -/
abbrev Connection (σ : Type) :=
  (s : Statement) → σ → Except DatabaseFailure (List s.Row) × σ

namespace Database

/-- What an answer comes to, in the state that it leaves. -/
abbrev Answering (σ α : Type) := ExceptT Failure (StateM σ) α

/-- A rejected statement as a failure of its store. -/
def rejection (s : Statement) (words : String) : Failure :=
  .rejected s.store s!"{s.label}: {words}"

/-- A failed statement as a failure of its store. -/
def failure (s : Statement) : DatabaseFailure → Failure
  | .unreachable words => .unreachable s.store words
  | .closed => .unreachable s.store s!"{s.label}: database connection error"
  | .rejected words => rejection s words

variable {σ : Type} (c : Connection σ)

/-- The rows of a statement. -/
def rows (s : Statement) : Answering σ (List s.Row) := fun state =>
  let (result, state) := c s state
  (result.mapError (failure s), state)

/-- The first row of a statement, if there is one. -/
def row? (s : Statement) : Answering σ (Option s.Row) := do return (← rows c s).head?

/-- The first row of a statement that must have one. -/
def row (s : Statement) : Answering σ s.Row := do
  match ← row? c s with
  | some r => return r
  | none => throw (rejection s "Record not found")

/-- The UEIs by hash. The rows come from the newest profile to the oldest, and the last of a hash
counts, so that the oldest profile with a UEI gives it. -/
def ueisByHash (rows : List (Uuid × Option String)) : Keyed Uuid String :=
  Keyed.ofList (rows.filterMap fun r => r.2.map (r.1, ·))

/-- Reads one publication in the history of a submission. -/
def readPublication : Json.Reader Publication := fun j => do
  let r ← Json.Record.read
    [{ name := "published_date" }, { name := "certified_date", absence := .null }] j
  return ⟨← r.need "published_date" Instant.read, ← r.may "certified_date" Instant.read⟩

/-- The publications in the history of a submission. -/
def publicationsOf (history : Json) : Except Failure (List Publication) :=
  (Json.Reader.list readPublication history).mapError fun reason =>
    .rejected .reporting s!"invalid submission history: {reason}"

/-- A count of accounts, which is not below zero. -/
def countOf (n : Int) : Except Failure Nat :=
  if n < 0 then .error (.rejected .federalAccounts s!"negative count {n}") else .ok n.toNat

/-- The answer of the database to a question that it can answer. -/
def answer? : (q : Question) → Option (Answering σ q.Answer)
  | .profileExists id => some (row c (.profileExists id))
  | .findEntry hash => some (row? c (.entryByHash hash))
  | .findEntryByDuns duns => some (row? c (.entryByDuns duns))
  | .profileUeis hashes => some do return ueisByHash (← rows c (.profileUeis hashes))
  | .affiliations id => some (row? c (.affiliations id))
  | .childProfiles duns => some (rows c (.childProfiles duns))
  | .entryStates hashes => some do return Keyed.ofList (← rows c (.entryStates hashes))
  | .countryName code => some do return (← row? c (.countryName code)).join
  | .latestRegistration name duns => some (row? c (.latestRegistration name duns))
  | .latestCategories hash since => some do
    return (← row? c (.latestCategories hash since)).join.getD []
  | .defCodes => some (rows c .defCodes)
  | .closedPeriods now => some do
    let quarterly ← row? c (.closedWindow true now)
    let monthly ← row? c (.closedWindow false now)
    return { quarterly := quarterly.map fun w => ⟨w.year, w.quarter⟩
             monthly := monthly.map fun w => ⟨w.year, w.month⟩ }
  | .countAccounts filter => some do
    ExceptT.mk (pure (countOf (← row c (.countAccounts filter))))
  | .findAgency code => some (row? c (.agency code))
  | .agenciesForPeriod period => some (rows c (.recordsOfPeriod period))
  | .periodsForAgency code => some (rows c (.recordsOfAgency code))
  | .accountDifferences code period => some (rows c (.differences code period))
  | .publications code period => some do
    match (← row? c (.history code period)).join with
    | none => return []
    | some history => ExceptT.mk (pure (publicationsOf history))
  | .countTransactions _ | .recipientTotals _ _ | .cacheGet _ | .cachePut _ _ => none

end Database

end Outlays

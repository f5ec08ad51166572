import Outlays.Inquiry.Question
import Outlays.Inquiry.Failure
import Outlays.Json.Parser
import Outlays.Number.Decimal

/-!
# Statements to the database

Each question that the database answers is put as one statement, or as two. A statement has
parameters and yields rows of one type; a row is read from the values of its columns.

## Main definitions

* `Statement`, `Statement.Row`, `Statement.parameters`
* `Statement.store`, `Statement.label` — for messages
* `Statement.readRow` — a row from its columns
-/

namespace Outlays

/-- A statement to the database. -/
inductive Statement where
  | profileExists (id : RecipientId)
  | entryByHash (hash : Uuid)
  | entryByDuns (duns : String)
  | profileUeis (hashes : List Uuid)
  | affiliations (id : RecipientId)
  | childProfiles (duns : List String)
  | entryStates (hashes : List Uuid)
  | countryName (code : String)
  | latestRegistration (name duns : String)
  | latestCategories (hash : Uuid) (since : Date)
  | defCodes
  /-- The last window that has closed, among the quarterly or among the monthly ones. -/
  | closedWindow (quarterly : Bool) (now : Instant)
  | countAccounts (filter : DisasterFilter)
  | agency (code : ToptierCode)
  | recordsOfPeriod (period : FiscalPeriod)
  | recordsOfAgency (code : ToptierCode)
  | differences (code : ToptierCode) (period : FiscalPeriod)
  | history (code : ToptierCode) (period : FiscalPeriod)
  deriving Repr

/-- A window for submissions: its fiscal year, its quarter and its month. -/
structure WindowRow where
  year : Int
  quarter : Int
  month : Int
  deriving DecidableEq, Repr

namespace Statement

/-- The type of a statement's rows. -/
@[reducible] def Row : Statement → Type
  | .profileExists _ => Bool
  | .entryByHash _ => DirectoryEntry
  | .entryByDuns _ => DirectoryEntry
  | .profileUeis _ => Uuid × Option String
  | .affiliations _ => List String
  | .childProfiles _ => Profile
  | .entryStates _ => Uuid × Option String
  | .countryName _ => Option String
  | .latestRegistration _ _ => Registration
  | .latestCategories _ _ => Option (List String)
  | .defCodes => String
  | .closedWindow _ _ => WindowRow
  | .countAccounts _ => Int
  | .agency _ => Agency
  | .recordsOfPeriod _ => PeriodRecord
  | .recordsOfAgency _ => PeriodRecord
  | .differences _ _ => AccountDifference
  | .history _ _ => Option Json

/-- The part of the database that a statement is about. -/
def store : Statement → Store
  | .defCodes | .closedWindow _ _ => .reference
  | .countAccounts _ => .federalAccounts
  | .agency _ | .recordsOfPeriod _ | .recordsOfAgency _ | .differences _ _ | .history _ _ =>
    .reporting
  | _ => .recipients

/-- What a statement is called in messages. -/
def label : Statement → String
  | .profileExists _ => "recipient profile existence"
  | .entryByHash _ => "recipient lookup by hash"
  | .entryByDuns _ => "recipient lookup by duns"
  | .profileUeis _ => "recipient profile ueis"
  | .affiliations _ => "recipient affiliations"
  | .childProfiles _ => "child recipient profiles"
  | .entryStates _ => "recipient lookup states"
  | .countryName _ => "country name"
  | .latestRegistration _ _ => "latest SAM registration"
  | .latestCategories _ _ => "latest transaction categories"
  | .defCodes => "def code listing"
  | .closedWindow true _ => "closed quarterly window"
  | .closedWindow false _ => "closed monthly window"
  | .countAccounts _ => "disaster federal account count"
  | .agency _ => "toptier agency lookup"
  | .recordsOfPeriod _ => "agencies overview"
  | .recordsOfAgency _ => "agency overview"
  | .differences _ _ => "tas differences"
  | .history _ _ => "submission history"

/-- A list of hashes as a parameter. -/
def hashList (hashes : List Uuid) : Json := .texts (hashes.map Uuid.render)

/-- The parameters of a statement, in order. Those that want one row end with the limit. -/
def parameters : Statement → List Json
  | .profileExists id => [.str id.hash.render, .str id.level.code]
  | .entryByHash hash => [.str hash.render, .nat 1]
  | .entryByDuns duns => [.str duns, .nat 1]
  | .profileUeis hashes => [hashList hashes]
  | .affiliations id => [.str id.hash.render, .str id.level.code, .nat 1]
  | .childProfiles duns => [.texts duns, .str Level.child.code]
  | .entryStates hashes => [hashList hashes]
  | .countryName code => [.str code, .nat 1]
  | .latestRegistration name duns => [.str name, .str duns, .nat 1]
  | .latestCategories hash since => [.str hash.render, .str since.render, .nat 1]
  | .defCodes => []
  | .closedWindow quarterly now => [.bool quarterly, .str now.toMicroseconds.render, .nat 1]
  | .countAccounts f =>
    let window (w : Option ClosedPeriod) :=
      [Json.option (fun w => .int w.year) w, Json.option (fun w => .int w.period) w]
    [.texts f.defCodes, .str f.since.render] ++ window f.closed.quarterly
      ++ window f.closed.monthly
  | .agency code => [.str code.text, .nat 1]
  | .recordsOfPeriod period => [.int period.year, .nat period.period]
  | .recordsOfAgency code => [.str code.text]
  | .differences code period => [.str code.text, .int period.year, .nat period.period, .str "0"]
  | .history code period => [.str code.text, .int period.year, .nat period.period, .nat 1]

namespace Columns

open Json (Reader)

/-- A hash. -/
def uuid : Reader Uuid := fun j => do
  match Uuid.read? (← Reader.text j) with
  | some u => return u
  | none => .error "expected a hash"

/-- A decimal number given as text, as the nearest double. -/
def decimal : Reader Float := fun j => do
  match Double.ofText? (← Reader.text j) with
  | some x => return x
  | none => .error "expected a decimal number"

/-- A double given as a number or as text. -/
def double : Reader Float
  | .str s => decimal (.str s)
  | j => Reader.double j

/-- A text that may be null. -/
def text? : Reader (Option String) := Reader.nullable Reader.text

/-- A list of texts that may be null. -/
def texts? : Reader (Option (List String)) := Reader.nullable (Reader.list Reader.text)

/-- The columns of a directory entry. -/
def entry : List Json → Except String DirectoryEntry
  | [hash, name, duns, alternates, line1, line2, city, state, zip, zip4, country, district] => do
    return {
      hash := ← uuid hash
      name := ← text? name
      duns := ← text? duns
      alternateNames := (← texts? alternates).getD []
      location := {
        addressLine1 := ← text? line1
        addressLine2 := ← text? line2
        cityName := ← text? city
        stateCode := ← text? state
        zip := ← text? zip
        zip4 := ← text? zip4
        countryCode := ← text? country
        congressionalCode := ← text? district } }
  | _ => .error "expected twelve columns"

/-- The columns of a record, in the order of its fields. Doubles may be given as texts. -/
def record (columns : List Json) : Except String PeriodRecord :=
  PeriodRecord.readWith double (.arr columns)

/-- The column with the history of a submission: null, or JSON text. -/
def history : Reader (Option Json)
  | .null => .ok none
  | j => do
    let r ← Json.Record.read [{ name := "text" }] j
    match Json.parseText (← r.need "text" Reader.text) with
    | some j => return some j.settled
    | none => .error "expected JSON"

end Columns

open Json (Reader) in
/-- Reads a row from its columns. -/
def readRow (s : Statement) (columns : List Json) : Except String s.Row :=
  match s, columns with
  | .profileExists _, [found] => Reader.bool found
  | .entryByHash _, cs => Columns.entry cs
  | .entryByDuns _, cs => Columns.entry cs
  | .profileUeis _, [hash, uei] => do return (← Columns.uuid hash, ← Columns.text? uei)
  | .affiliations _, [list] => Reader.list Reader.text list
  | .childProfiles _, [hash, name, duns, uei] => do
    return ⟨← Columns.uuid hash, ← Columns.text? name, ← Columns.text? duns,
      ← Columns.text? uei⟩
  | .entryStates _, [hash, state] => do return (← Columns.uuid hash, ← Columns.text? state)
  | .countryName _, [name] => Columns.text? name
  | .latestRegistration _ _, [codes, structure_] => do
    return ⟨(← Columns.texts? codes).getD [], ← Columns.text? structure_⟩
  | .latestCategories _ _, [categories] => Columns.texts? categories
  | .defCodes, [code] => Reader.text code
  | .closedWindow _ _, [year, quarter, month] => do
    return ⟨← Reader.int32 year, ← Reader.int32 quarter, ← Reader.int32 month⟩
  | .countAccounts _, [count] => Reader.int64 count
  | .agency _, [code, name, short] => do
    return ⟨← Reader.text code, ← Reader.text name, ← Columns.text? short⟩
  | .recordsOfPeriod _, cs => Columns.record cs
  | .recordsOfAgency _, cs => Columns.record cs
  | .differences _ _, [tas, a, b] => do
    return ⟨← Reader.text tas, ← Columns.decimal a, ← Columns.decimal b⟩
  | .history _ _, [column] => Columns.history column
  | _, _ => .error "unexpected columns"

end Statement

end Outlays

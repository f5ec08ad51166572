import Outlays.Fault.Basic
import Outlays.Page
import Outlays.Text.Quoted
import Outlays.Uuid

/-!
# Refusals

Every reason for which a request is turned down while the stores behind the service work. Each has
a code, a message and, where one part of the request is at fault, the field that is.
-/

namespace Outlays

/-- Why a request is turned down. -/
inductive Refusal where
  /-- The page or the limit is out of range. -/
  | page (why : PageRefusal)
  /-- The order of a listing is neither of the two. -/
  | order (given : String)
  /-- The listing has no such sort key. -/
  | sortKey (known : List String) (given : String)
  /-- The year is neither a word nor a year of the calendar. -/
  | year (given : String)
  /-- A recipient id without a hyphen. -/
  | missingLevel (given : String)
  /-- The text after the last hyphen of a recipient id is no level. -/
  | unknownLevel (given : String)
  /-- The text before the last hyphen of a recipient id is no UUID. -/
  | malformedHash (given : String)
  /-- No profile has the recipient id. -/
  | unknownRecipient (given : String)
  /-- The recipient has no directory entry. -/
  | unlistedHash (hash : Uuid)
  /-- No directory entry has the DUNS. -/
  | unknownDuns (given : String)
  /-- The DUNS belongs to no parent. -/
  | childlessDuns (given : String)
  /-- The agency code is not three or four digits. -/
  | toptierCode (given : String)
  /-- No agency has the code. -/
  | unknownAgency (given : String)
  /-- The fiscal year is not between the first and the current one. -/
  | fiscalYear (first current : Int)
  /-- The fiscal period is not between 2 and 12. -/
  | fiscalPeriod
  /-- Only one of fiscal year and fiscal period is given. -/
  | halfPeriod
  /-- The last closed monthly window has a period that is no month. -/
  | window (period : Int)
  /-- A required parameter is missing. -/
  | missingParameter (name : String)
  /-- The DEFC list is missing. -/
  | missingDefCodes
  /-- The DEFC list is empty. -/
  | emptyDefCodes
  /-- The DEFC list names an unknown code. -/
  | unknownDefCodes (known : List String)
  /-- A download without filters. -/
  | emptyFilters
  /-- The recipient id of a download filter cannot be read. -/
  | filterRecipient (why : Refusal)
  /-- The body cannot be read. -/
  | body (reason : String)
  /-- The query string cannot be read. -/
  | query (reason : String)
  /-- The path cannot be read. -/
  | path (reason : String)
  deriving Repr

namespace Refusal

/-- The field of the DEFC list, as messages and details name it. -/
def defCodesField : String := "filter|def_codes"

/-- The code of a refusal. -/
def code : Refusal → FaultCode
  | .unknownAgency _ => .notFound
  | .window _ => .internalError
  | .missingDefCodes | .emptyDefCodes | .unknownDefCodes _ | .emptyFilters | .filterRecipient _
  | .body _ => .unprocessableEntity
  | _ => .invalidRequest

/-- The words of a refusal. -/
def message : Refusal → String
  | .page why => why.message
  | .order given => s!"Field 'order' is outside valid values ['asc', 'desc']: '{given}'"
  | .sortKey known given =>
    s!"Field 'sort' is outside valid values {Text.quotedList known}: '{given}'"
  | .year given => s!"Invalid year: {given}."
  | .missingLevel given => s!"ID ('{given}') doesn't include Recipient-Level"
  | .unknownLevel given => s!"Invalid Recipient-Level: '{given}'"
  | .malformedHash given => s!"Recipient Hash not valid UUID: '{given}'."
  | .unknownRecipient given => s!"Recipient ID not found: '{given}'."
  | .unlistedHash hash => s!"Recipient Hash not found: '{hash.render}'."
  | .unknownDuns given => s!"DUNS not found: '{given}'."
  | .childlessDuns given => s!"DUNS is not listed as a parent: '{given}'."
  | .toptierCode given => s!"Invalid toptier code: '{given}'"
  | .unknownAgency given => s!"Agency with a toptier code of '{given}' does not exist"
  | .fiscalYear first current => s!"Field 'fiscal_year' must be between {first} and {current}"
  | .fiscalPeriod => "Field 'fiscal_period' must be between 2 and 12"
  | .halfPeriod => "Fields 'fiscal_year' and 'fiscal_period' must be provided together"
  | .window period => s!"invalid submission window: {period}"
  | .missingParameter name => s!"Missing value: '{name}' is a required field"
  | .missingDefCodes => s!"Missing value: '{defCodesField}' is a required field"
  | .emptyDefCodes => s!"Field '{defCodesField}' value '[]' is below min '1' items"
  | .unknownDefCodes known =>
    s!"Field '{defCodesField}' is outside valid values {Text.quotedList known}"
  | .emptyFilters => "Missing value: 'filters' must not be empty"
  | .filterRecipient why => why.message
  | .body reason => "Invalid request body: " ++ reason
  | .query reason => "Invalid query parameters: " ++ reason
  | .path reason => "Invalid path parameters: " ++ reason

/-- The field at fault, where a refusal names one. -/
def field? : Refusal → Option String
  | .missingDefCodes | .emptyDefCodes | .unknownDefCodes _ => some defCodesField
  | .emptyFilters => some "filters"
  | .filterRecipient _ => some "filters|recipient_id"
  | .body _ => some "body"
  | .query _ => some "query"
  | .path _ => some "path"
  | _ => none

/-- The details of a refusal: the field at fault. -/
def details? (r : Refusal) : Option Json := r.field?.map fun f => .obj [("field", .str f)]

end Refusal

end Outlays

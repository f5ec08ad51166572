import Outlays.Agency.Assurance
import Outlays.Agency.Basic
import Outlays.Agency.Listing
import Outlays.Agency.Reporting
import Outlays.Cache.Key
import Outlays.Calendar.Date
import Outlays.Calendar.Instant
import Outlays.Calendar.Reader
import Outlays.Call
import Outlays.Cents
import Outlays.Database.Answering
import Outlays.Database.Backend
import Outlays.Database.Statement
import Outlays.Digest
import Outlays.Disaster.Accounts
import Outlays.Download.Count
import Outlays.Fault.Basic
import Outlays.Fault.Refusal
import Outlays.Filter
import Outlays.Fiscal.Period
import Outlays.Fiscal.Year
import Outlays.Inquiry.Basic
import Outlays.Inquiry.Failure
import Outlays.Inquiry.Question
import Outlays.Json.Basic
import Outlays.Json.Literal
import Outlays.Json.Parser
import Outlays.Json.Printer
import Outlays.Json.Reader
import Outlays.Keyed
import Outlays.Listing.Column
import Outlays.Listing.Order
import Outlays.Memory.Sample
import Outlays.Memory.Stores
import Outlays.Number.Decimal
import Outlays.Number.Double
import Outlays.Number.Shortest
import Outlays.Number.Width
import Outlays.Page
import Outlays.Proofs.Agency.Filtering
import Outlays.Proofs.Agency.Listings
import Outlays.Proofs.Agency.Periods
import Outlays.Proofs.Agency.Rows
import Outlays.Proofs.Agency.Statements
import Outlays.Proofs.Cache.Fingerprint
import Outlays.Proofs.Cache.Provenance
import Outlays.Proofs.Calendar.Written
import Outlays.Proofs.Database.Profiles
import Outlays.Proofs.Disaster.Accounts
import Outlays.Proofs.Download.Count
import Outlays.Proofs.Download.Filters
import Outlays.Proofs.Download.Schema
import Outlays.Proofs.Fault.Building
import Outlays.Proofs.Fault.Reading
import Outlays.Proofs.Fault.RoundTrip
import Outlays.Proofs.Fault.Written
import Outlays.Proofs.Fiscal.Resolved
import Outlays.Proofs.Fiscal.Windows
import Outlays.Proofs.Inquiry.Failures
import Outlays.Proofs.Inquiry.Flaws
import Outlays.Proofs.Inquiry.Questions
import Outlays.Proofs.Inquiry.Refusals
import Outlays.Proofs.Inquiry.Transcript
import Outlays.Proofs.Json.Grammar
import Outlays.Proofs.Json.Lexemes
import Outlays.Proofs.Json.Records
import Outlays.Proofs.Json.Settled
import Outlays.Proofs.Json.Shapes
import Outlays.Proofs.Json.Written
import Outlays.Proofs.Listing.Paging
import Outlays.Proofs.Listing.Sorting
import Outlays.Proofs.Listing.Ties
import Outlays.Proofs.Listing.Walking
import Outlays.Proofs.Number.Sums
import Outlays.Proofs.Number.Value
import Outlays.Proofs.Recipient.Affiliates
import Outlays.Proofs.Recipient.BusinessTypes
import Outlays.Proofs.Recipient.ChildKeys
import Outlays.Proofs.Recipient.Children
import Outlays.Proofs.Recipient.Id
import Outlays.Proofs.Recipient.Join
import Outlays.Proofs.Recipient.Location
import Outlays.Proofs.Recipient.Overview
import Outlays.Proofs.Recipient.Parents
import Outlays.Proofs.Recipient.Spelling
import Outlays.Proofs.Recipient.Totals
import Outlays.Proofs.Recipient.Ueis
import Outlays.Proofs.Recipient.Years
import Outlays.Proofs.Results
import Outlays.Proofs.Search.Addresses
import Outlays.Proofs.Search.Answers
import Outlays.Proofs.Search.Calls
import Outlays.Proofs.Search.Documents
import Outlays.Proofs.Search.Exchange
import Outlays.Proofs.Search.Index
import Outlays.Proofs.Search.Keywords
import Outlays.Proofs.Search.Previews
import Outlays.Proofs.Search.Unescaping
import Outlays.Proofs.Text.Cuts
import Outlays.Proofs.Text.Encoding
import Outlays.Proofs.Text.Lowering
import Outlays.Proofs.Text.Quoting
import Outlays.Proofs.Text.Sorted
import Outlays.Proofs.Text.Words
import Outlays.Proofs.Web.Addresses
import Outlays.Proofs.Web.ClientFaults
import Outlays.Proofs.Web.Escapes
import Outlays.Proofs.Web.Hosts
import Outlays.Proofs.Web.Paths
import Outlays.Proofs.Web.Redaction
import Outlays.Proofs.Web.Rendered
import Outlays.Proofs.Web.Routing
import Outlays.Proofs.Web.Tracing
import Outlays.Proofs.Web.Visits
import Outlays.Recipient.BusinessType
import Outlays.Recipient.Children
import Outlays.Recipient.Id
import Outlays.Recipient.Location
import Outlays.Recipient.Overview
import Outlays.Search.Answer
import Outlays.Search.Exchange
import Outlays.Search.Query
import Outlays.Search.Request
import Outlays.Search.Script
import Outlays.Text.Blank
import Outlays.Text.CaseTables
import Outlays.Text.CombiningTables
import Outlays.Text.Composed
import Outlays.Text.Digit
import Outlays.Text.Lowercase
import Outlays.Text.Mark
import Outlays.Text.PrintTables
import Outlays.Text.Quoted
import Outlays.Text.Ranges
import Outlays.Text.Sorted
import Outlays.Text.Utf8
import Outlays.Uuid
import Outlays.Web.Body
import Outlays.Web.Domain
import Outlays.Web.Domain.Direction
import Outlays.Web.Domain.Folding
import Outlays.Web.Domain.Joining
import Outlays.Web.Domain.Label
import Outlays.Web.Form
import Outlays.Web.Host
import Outlays.Web.Path
import Outlays.Web.Percent
import Outlays.Web.Request
import Outlays.Web.Response
import Outlays.Web.Route
import Outlays.Web.Serve
import Outlays.Web.Url

import Outlays.Agency.Reporting
import Outlays.Disaster.Accounts
import Outlays.Download.Count
import Outlays.Recipient.Children

/-!
# Calls

Everything that a client can ask for, with the inquiry that answers it and the JSON of the answer.
-/

namespace Outlays

/-- What the services know besides the answers of the stores. -/
structure Circumstances where
  now : Instant
  /-- The address under which all public files are. -/
  files : Url
  /-- The most transactions that a download may hold. -/
  downloadLimit : Nat
  deriving Repr

/-- What a client asks for. -/
inductive Call where
  | overview (id : String) (year : Option String)
  | children (duns : String) (year : Option String)
  | agencies (year : Option Int) (period : Option Nat) (filter : Option String)
    (listing : ListingRequest)
  | periods (code : String) (listing : ListingRequest)
  | differences (code : String) (year : Option Int) (period : Option Nat)
    (listing : ListingRequest)
  | publications (code : String) (year : Int) (period : Nat) (listing : ListingRequest)
  | downloadCount (filters : TransactionFilters)
  | accountCount (codes : Option (List String))
  deriving Repr

/-- The inquiry that answers a call. -/
def Call.inquiry (c : Circumstances) : Call → Inquiry Json
  | .overview id year => Overview.toJson <$> Overview.ask c.now id year
  | .children duns year => do
    return .arr ((← Children.ask c.now duns year).map ChildRow.toJson)
  | .agencies year period filter listing =>
    Listing.toJson ReportRow.agencyJson <$>
      Reporting.agencies c.now c.files year period filter listing
  | .periods code listing =>
    Listing.toJson ReportRow.periodJson <$> Reporting.periods c.files code listing
  | .differences code year period listing =>
    Listing.toJson AccountDifference.rowJson <$>
      Reporting.differences c.now code year period listing
  | .publications code year period listing =>
    Listing.toJson Publication.toJson <$> Reporting.publications c.now code year period listing
  | .downloadCount filters => DownloadCount.toJson <$> DownloadCount.ask c.downloadLimit filters
  | .accountCount codes => Disaster.countJson <$> Disaster.countAccounts c.now codes

end Outlays

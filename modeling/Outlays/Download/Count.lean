import Outlays.Inquiry.Basic

/-!
# The size of a download

How many transactions a download would hold, beside the most that a download may hold.
-/

namespace Outlays

/-- The size of a download and the greatest that is allowed. -/
structure DownloadCount where
  transactions : Nat
  limit : Nat
  deriving DecidableEq, Repr

namespace DownloadCount

/-- The download is too large. -/
def exceeds (c : DownloadCount) : Bool := c.limit < c.transactions

/-- The size as JSON. -/
def toJson (c : DownloadCount) : Json :=
  .obj [("calculated_transaction_count", .nat c.transactions),
    ("maximum_transaction_limit", .nat c.limit), ("transaction_rows_gt_limit", .bool c.exceeds)]

/-- Counts the transactions of a download. Filters that leave everything in are refused. -/
def ask (limit : Nat) (filters : TransactionFilters) : Inquiry DownloadCount := do
  if filters.isEmpty then .refuse .emptyFilters
  else return ⟨← Inquiry.put (.countTransactions filters), limit⟩

end DownloadCount

end Outlays

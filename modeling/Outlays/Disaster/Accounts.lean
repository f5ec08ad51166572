import Outlays.Inquiry.Basic

/-!
# Federal accounts with disaster spending

How many federal accounts spent money under some disaster emergency fund codes, up to the windows
that have closed.
-/

namespace Outlays.Disaster

/-- The day from which disaster spending is reported, 1 April 2020. -/
def reportingStart : Date := ⟨2020, 4, 1, by decide, by decide, by decide⟩

/-- The codes that a client asks for, as a sorted set: at least one, and each of them known. -/
def checkedCodes : Option (List String) → Inquiry (List String)
  | none => .refuse .missingDefCodes
  | some [] => .refuse .emptyDefCodes
  | some codes => do
    let known ← Inquiry.put .defCodes
    if codes.all known.contains then return Text.sortedSet codes
    else .refuse (.unknownDefCodes (Text.sortedSet known))

/-- The number of accounts. Nothing counts before the first window has closed. -/
def countAccounts (now : Instant) (codes : Option (List String)) : Inquiry Nat := do
  let defCodes ← checkedCodes codes
  let closed ← Inquiry.put (.closedPeriods now)
  if closed.quarterly.isNone && closed.monthly.isNone then return 0
  Inquiry.put (.countAccounts { defCodes, since := reportingStart, closed })

/-- The number of accounts as JSON. -/
def countJson (count : Nat) : Json := .obj [("count", .nat count)]

end Outlays.Disaster

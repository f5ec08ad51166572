import Outlays.Search.Exchange

/-!
# Scripted replies

A search index whose replies are written down beforehand, and which writes down what it is sent.
-/

namespace Outlays

/-- The replies still to come, and the requests so far. -/
structure Script where
  replies : List Reply := []
  sent : List SearchRequest := []

namespace Script

/-- The reply after the last one. -/
def spent : Reply := .answered 500 (Text.encode "no more responses")

/-- Takes the next reply and writes the request down. -/
def wire : Wire Script := fun request s =>
  (s.replies.head?.getD spent, ⟨s.replies.drop 1, s.sent ++ [request]⟩)

/-- The way to an index that is out of reach. -/
def nowhere : Wire Script := fun _ s => (.unreachable, s)

end Script

end Outlays

/-!
# Sorted sets of texts

Texts are ordered by code point. A sorted set is a strictly increasing list.
-/

namespace Outlays.Text

/-- The texts in increasing order, repetitions kept. -/
def sorted (texts : List String) : List String := texts.mergeSort fun a b => decide (a ≤ b)

/-- The texts in increasing order, each once. -/
def sortedSet (texts : List String) : List String := sorted texts.eraseDups

end Outlays.Text

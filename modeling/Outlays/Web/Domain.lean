import Outlays.Web.Domain.Direction
import Outlays.Web.Domain.Folding
import Outlays.Web.Domain.Joining
import Outlays.Web.Domain.Label

/-!
# Domain names

A domain name is a row of labels with points between them. Whatever it is written like, it has one
form in ASCII: it is folded, each label is checked, and labels beyond ASCII are written in ASCII. A
label that is written in ASCII already has to be what its characters are written as.

## Main definitions

* `DomainLabel`, `DomainLabel.read?`
* `Domain.toAscii?` — the one form of a domain name
-/

namespace Outlays

/-- A label: its characters and how they are written in ASCII. -/
structure DomainLabel where
  chars : List Char
  ascii : List Char
  deriving DecidableEq, Repr

namespace DomainLabel

/-- What stands in front of the ASCII form of a label beyond ASCII. -/
def mark : List Char := ['x', 'n', '-', '-']

/-- The characters are all of ASCII. -/
def isAscii (cs : List Char) : Bool := cs.all (·.toNat < 0x80)

/-- The longest ASCII form that is read. -/
def longestForm : Nat := 2000

/-- The longest label beyond ASCII. -/
def longestLabel : Nat := 1000

/-- The characters that an ASCII form stands for: they are not all of ASCII, and folding leaves
them as they are. -/
def decode? (form : List Char) : Option (List Char) := do
  if form.getLast?.all (· == '-') || form.length > longestForm then none
  let cs ← Label.decode? form
  if isAscii cs || Domain.fold? cs != some cs then none
  return cs

/-- Nothing combines with what is in front of the label, and its joiners can be seen. -/
def isSound (cs : List Char) : Bool := !cs.head?.any Text.isMark && Domain.joinersFit cs

/-- Reads a label that is folded already. -/
def read? (cs : List Char) : Option DomainLabel := do
  let label : DomainLabel ←
    if mark.isPrefixOf cs then
      if isAscii cs then (decode? (cs.drop mark.length)).map (⟨·, cs⟩) else none
    else some ⟨cs, if isAscii cs then cs else mark ++ Label.encode cs⟩
  if isAscii label.chars || (isSound label.chars && label.chars.length ≤ longestLabel) then
    some label
  else none

end DomainLabel

namespace Domain

/-- No domain name may hold the character. -/
def isForbidden (c : Char) : Bool :=
  c.toNat ≤ 0x20 || c.toNat == 0x7F || ['#', '%', '/', ':', '<', '>', '?', '@', '[', '\\', ']',
    '^', '|'].contains c

/-- The one form of a domain name. -/
def toAscii? (name : List Char) : Option (List Char) := do
  let folded ← fold? name
  if folded.any isForbidden then none
  let labels ← (folded.splitOn '.').mapM DomainLabel.read?
  let isMixed := labels.any (·.chars.any (isBackward <| direction ·))
  if isMixed && !labels.all (isInOrder ·.chars) then none
  return List.intercalate ['.'] (labels.map (·.ascii))

end Domain

end Outlays

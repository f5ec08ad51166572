/-!
# Universally unique identifiers

An identifier is 32 hexadecimal digits. It is read from several spellings, letters in any case,
and always written in one: lower case, in five groups with hyphens between them.

## Main definitions

* `Uuid`, `Uuid.read?`, `Uuid.render`
-/

namespace Outlays

/-- Thirty-two hexadecimal digits. -/
structure Uuid where
  digits : List (Fin 16)
  length_digits : digits.length = 32
  deriving DecidableEq, Repr

namespace Uuid

/-- The value of a hexadecimal digit in either case. -/
def hexDigit? (c : Char) : Option (Fin 16) :=
  if '0' ≤ c && c ≤ '9' then some (Fin.ofNat 16 (c.toNat - '0'.toNat))
  else if 'a' ≤ c && c ≤ 'f' then some (Fin.ofNat 16 (c.toNat - 'a'.toNat + 10))
  else if 'A' ≤ c && c ≤ 'F' then some (Fin.ofNat 16 (c.toNat - 'A'.toNat + 10))
  else none

/-- The lower-case hexadecimal digit of a value. -/
def hexChar (d : Fin 16) : Char := Nat.digitChar d.val

/-- The identifier with these digits, if there are 32 of them. -/
def ofDigits? (digits : List (Fin 16)) : Option Uuid :=
  if h : digits.length = 32 then some ⟨digits, h⟩ else none

/-- The identifier written as 32 digits. -/
def plain? (cs : List Char) : Option Uuid := (cs.mapM hexDigit?).bind ofDigits?

/-- The identifier written in groups of 8, 4, 4, 4 and 12 digits with hyphens between them. -/
def grouped? (cs : List Char) : Option Uuid :=
  let hyphens := [cs[8]?, cs[13]?, cs[18]?, cs[23]?]
  if cs.length = 36 && hyphens.all (· == some '-') then
    plain? (cs.take 8 ++ (cs.drop 9).take 4 ++ (cs.drop 14).take 4 ++ (cs.drop 19).take 4
      ++ cs.drop 24)
  else none

/-- The first nine characters of the spelling as a resource name, in lower case. -/
def resourceName : List Char := ['u', 'r', 'n', ':', 'u', 'u', 'i', 'd', ':']

/-- The identifier that a text spells: 32 digits, or the groups alone, in braces or as a resource
name. -/
def read? (s : String) : Option Uuid :=
  let cs := s.toList
  if cs.length = 32 then plain? cs
  else if cs.length = 36 then grouped? cs
  else if cs.length = 38 && cs.head? == some '\x7b' && cs.getLast? == some '\x7d' then
    grouped? (cs.drop 1).dropLast
  else if cs.length = 45 && (cs.take 9).map Char.toLower == resourceName then
    grouped? (cs.drop 9)
  else none

/-- The groups in lower case, with hyphens between them. -/
def render (u : Uuid) : String :=
  let cs := u.digits.map hexChar
  String.ofList (cs.take 8 ++ '-' :: (cs.drop 8).take 4 ++ '-' :: (cs.drop 12).take 4
    ++ '-' :: (cs.drop 16).take 4 ++ '-' :: cs.drop 20)

end Uuid

end Outlays

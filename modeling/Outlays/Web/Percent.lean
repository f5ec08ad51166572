import Outlays.Text.Utf8

/-!
# Percent-encoding

A character that may not stand in some part of an address is written as its UTF-8 bytes, each as a
percent sign and two hexadecimal digits. Which characters may not stand depends on the part.

## Main definitions

* `Percent.encode` — with the set of characters that may not stand
* `Percent.decode` — the bytes of a text
* `Percent.fragmentSet`, `Percent.pathSet`, … — the sets of the parts of an address
-/

namespace Outlays.Percent

/-- The upper-case hexadecimal digit of a value. -/
def hexUpper (n : Nat) : Char := (Nat.digitChar n).toUpper

/-- A byte as a percent sign and two digits. -/
def encodeByte (b : UInt8) : List Char := ['%', hexUpper (b.toNat / 16), hexUpper (b.toNat % 16)]

/-- The text with every character of the set, and every one beyond ASCII, percent-encoded. -/
def encode (set : Char → Bool) (cs : List Char) : List Char :=
  cs.flatMap fun c =>
    if set c || c.toNat ≥ 0x80 then (String.utf8EncodeChar c).flatMap encodeByte else [c]

/-- The value of a hexadecimal digit in either case. -/
def hexValue? (b : UInt8) : Option Nat :=
  if 48 ≤ b && b ≤ 57 then some (b.toNat - 48)
  else if 65 ≤ b && b ≤ 70 then some (b.toNat - 55)
  else if 97 ≤ b && b ≤ 102 then some (b.toNat - 87)
  else none

/-- Replaces every percent sign with two hexadecimal digits by the byte they stand for, unless it
is one of those to keep; any other percent sign stands for itself. -/
def decodeExcept (kept : UInt8 → Bool) : List UInt8 → List UInt8
  | 37 :: a :: b :: rest =>
    match hexValue? a, hexValue? b with
    | some x, some y =>
      let byte := UInt8.ofNat (16 * x + y)
      if kept byte then 37 :: decodeExcept kept (a :: b :: rest)
      else byte :: decodeExcept kept rest
    | _, _ => 37 :: decodeExcept kept (a :: b :: rest)
  | b :: rest => b :: decodeExcept kept rest
  | [] => []

/-- Replaces every percent sign with two hexadecimal digits by the byte they stand for. -/
def decode (bytes : List UInt8) : List UInt8 := decodeExcept (fun _ => false) bytes

/-- The controls of ASCII. -/
def controlSet (c : Char) : Bool := c.toNat < 0x20 || c.toNat == 0x7F

/-- What may not stand in a fragment. -/
def fragmentSet (c : Char) : Bool :=
  controlSet c || c == ' ' || c == '"' || c == '<' || c == '>' || c.toNat == 0x60

/-- What may not stand in a path. -/
def pathSet (c : Char) : Bool :=
  fragmentSet c || c == '#' || c == '?' || c.toNat == 0x7B || c.toNat == 0x7D

/-- What may not stand in one segment of a path; a backslash only where it would divide paths. -/
def segmentSet (special : Bool) (c : Char) : Bool :=
  pathSet c || c == '/' || c == '%' || (special && c == '\\')

/-- What may not stand in the user part of an authority. -/
def userSet (c : Char) : Bool :=
  pathSet c || c == '/' || c == ':' || c == ';' || c == '=' || c == '@' || c == '['
    || c == '\\' || c == ']' || c == '^' || c == '|'

/-- What may not stand in a query; an apostrophe only in the addresses of the web. -/
def querySet (special : Bool) (c : Char) : Bool :=
  controlSet c || c == ' ' || c == '"' || c == '#' || c == '<' || c == '>'
    || (special && c.toNat == 0x27)

end Outlays.Percent

import Outlays.Json.Basic
import Outlays.Text.Utf8

/-!
# Writing JSON texts

Values are written without blanks, fields in their order, doubles by the shortest decimal that
reads back. Only quotes, backslashes and the controls below the space are escaped.
-/

namespace Outlays.Json

/-- One character as it stands in a string literal. -/
def escapeChar (c : Char) : List Char :=
  match c with
  | '"' => ['\\', '"']
  | '\\' => ['\\', '\\']
  | '\x08' => ['\\', 'b']
  | '\x0c' => ['\\', 'f']
  | '\n' => ['\\', 'n']
  | '\r' => ['\\', 'r']
  | '\t' => ['\\', 't']
  | c =>
    if c.toNat < 0x20 then
      ['\\', 'u', '0', '0', Nat.digitChar (c.toNat / 16), Nat.digitChar (c.toNat % 16)]
    else [c]

/-- The characters of a text as a string literal. -/
def textChars (s : String) : List Char := '"' :: (s.toList.flatMap escapeChar ++ ['"'])

/-- A number; what is not finite is written as null. -/
def numberText : Number → String
  | .whole n => toString n
  | .double x => (Double.render? x).getD "null"

mutual

/-- The characters of a value; what denotes nothing is written as null. -/
def chars : Json → List Char
  | .null => ['n', 'u', 'l', 'l']
  | .bool true => ['t', 'r', 'u', 'e']
  | .bool false => ['f', 'a', 'l', 's', 'e']
  | .num n => (numberText n).toList
  | .str s => textChars s
  | .arr items => '[' :: (itemsChars items ++ [']'])
  | .obj fields => '\x7b' :: (fieldsChars fields ++ ['\x7d'])
  | .unreadable => ['n', 'u', 'l', 'l']

/-- The items of an array, with commas between them. -/
def itemsChars : List Json → List Char
  | [] => []
  | [j] => chars j
  | j :: rest => chars j ++ ',' :: itemsChars rest

/-- The fields of an object, with commas between them. -/
def fieldsChars : List (String × Json) → List Char
  | [] => []
  | [(name, j)] => textChars name ++ ':' :: chars j
  | (name, j) :: rest => textChars name ++ ':' :: (chars j ++ ',' :: fieldsChars rest)

end

/-- The text of a value. -/
def render (j : Json) : String := String.ofList (chars j)

/-- The bytes of a value's text. -/
def renderBytes (j : Json) : List UInt8 := Text.encodeChars (chars j)

end Outlays.Json

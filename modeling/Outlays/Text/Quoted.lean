import Outlays.Text.PrintTables

/-!
# Quoted texts

Some messages show a text as a quoted literal: quotes and backslashes are escaped, the usual
controls have short escapes, and every character that would not be seen is written by its code
point in hexadecimal.
-/

namespace Outlays.Text

/-- The digits of a number in lower-case hexadecimal. -/
def hexDigits (n : Nat) : List Char := Nat.toDigits 16 n

/-- A character written by its code point. -/
def codePointEscape (c : Char) : List Char :=
  ['\\', 'u', '\x7b'] ++ hexDigits c.toNat ++ ['\x7d']

/-- The character has a visible form of its own. -/
def isShown (c : Char) : Bool :=
  !inRanges extendRanges c.toNat && !inRanges hiddenRanges c.toNat
    && !inRanges fillerRanges c.toNat

/-- One character as it stands between quotes. -/
def quoteChar (c : Char) : List Char :=
  match c with
  | '\x00' => ['\\', '0']
  | '\t' => ['\\', 't']
  | '\n' => ['\\', 'n']
  | '\r' => ['\\', 'r']
  | '"' => ['\\', '"']
  | '\\' => ['\\', '\\']
  | c => if isShown c then [c] else codePointEscape c

/-- The text as a quoted literal. -/
def quoted (s : String) : String :=
  String.ofList ('"' :: (s.toList.flatMap quoteChar ++ ['"']))

/-- A list of texts as quoted literals between brackets. -/
def quotedList (texts : List String) : String :=
  "[" ++ String.intercalate ", " (texts.map quoted) ++ "]"

end Outlays.Text

import Outlays.Json.Literal
import Outlays.Text.Utf8

/-!
# Reading JSON texts

The input is a list of characters in which `none` stands for bytes that are no character: these
may stand inside a string, which then is unreadable, and nowhere else. The grammar is that of
JSON: no comments, no trailing commas, no raw controls in strings, one value with blanks around
it.

## Main definitions

* `Json.parse` — the value of a text, if it is JSON
* `Json.parseBytes`, `Json.parseText` — the same from bytes and from a string
-/

namespace Outlays.Json

/-- Characters, with `none` for bytes that are no character. -/
abbrev Symbols := List (Option Char)

/-- Space, tab, line feed and carriage return. -/
def isGap (c : Option Char) : Bool :=
  c == some ' ' || c == some '\n' || c == some '\t' || c == some '\r'

/-- The input without its leading blanks. -/
def skipGap (s : Symbols) : Symbols := s.dropWhile isGap

/-- One element of a string literal. -/
inductive Mark where
  /-- A character, written as itself or by a short escape. -/
  | char (c : Char)
  /-- A sixteen-bit unit, written in hexadecimal. -/
  | unit (n : Nat)
  /-- Bytes that are no character. -/
  | broken
  deriving Repr, DecidableEq

/-- The value of a hexadecimal digit. -/
def hexValue (c : Char) : Option Nat :=
  if '0' ≤ c && c ≤ '9' then some (c.toNat - '0'.toNat)
  else if 'a' ≤ c && c ≤ 'f' then some (c.toNat - 'a'.toNat + 10)
  else if 'A' ≤ c && c ≤ 'F' then some (c.toNat - 'A'.toNat + 10)
  else none

/-- The value of four hexadecimal digits. -/
def hexUnit (a b c d : Char) : Option Nat := do
  return (← hexValue a) * 4096 + (← hexValue b) * 256 + (← hexValue c) * 16 + (← hexValue d)

/-- The character of a short escape. -/
def shortEscape (c : Char) : Option Char :=
  match c with
  | '"' => some '"'
  | '\\' => some '\\'
  | '/' => some '/'
  | 'b' => some '\x08'
  | 'f' => some '\x0c'
  | 'n' => some '\n'
  | 'r' => some '\r'
  | 't' => some '\t'
  | _ => none

/-- The marks of a string whose opening quote is read, and the input after the closing one. -/
def marks : Symbols → Option (List Mark × Symbols)
  | [] => none
  | none :: rest => (marks rest).map fun (ms, r) => (.broken :: ms, r)
  | some '"' :: rest => some ([], rest)
  | some '\\' :: some 'u' :: some a :: some b :: some c :: some d :: rest => do
    let n ← hexUnit a b c d
    let (ms, r) ← marks rest
    return (.unit n :: ms, r)
  | some '\\' :: some e :: rest => do
    let c ← shortEscape e
    let (ms, r) ← marks rest
    return (.char c :: ms, r)
  | some c :: rest =>
    if c.toNat < 0x20 || c = '\\' then none
    else (marks rest).map fun (ms, r) => (.char c :: ms, r)

/-- The characters that marks stand for. Two units that form a surrogate pair are one character;
a surrogate without its partner is none, and neither are broken bytes. -/
def assemble : List Mark → Option (List Char)
  | [] => some []
  | .char c :: rest => (assemble rest).map (c :: ·)
  | .broken :: _ => none
  | .unit n :: rest =>
    if 0xDC00 ≤ n && n ≤ 0xDFFF then none
    else if 0xD800 ≤ n && n ≤ 0xDBFF then
      match rest with
      | .unit m :: rest =>
        if 0xDC00 ≤ m && m ≤ 0xDFFF then
          (assemble rest).map
            (Char.ofNat (0x10000 + (n - 0xD800) * 0x400 + (m - 0xDC00)) :: ·)
        else none
      | _ => none
    else (assemble rest).map (Char.ofNat n :: ·)

/-- The text of a string whose opening quote is read (`none` when it denotes none), and the input
after it. -/
def stringRest (s : Symbols) : Option (Option String × Symbols) :=
  (marks s).map fun (ms, rest) => ((assemble ms).map String.ofList, rest)

/-- The value of a decimal digit. -/
def digitValue (c : Char) : Option Nat :=
  if '0' ≤ c && c ≤ '9' then some (c.toNat - '0'.toNat) else none

/-- The digits at the head of the input, and what follows them. -/
def digits : Symbols → List Nat × Symbols
  | some c :: rest =>
    match digitValue c with
    | some d => let (ds, r) := digits rest; (d :: ds, r)
    | none => ([], some c :: rest)
  | s => ([], s)

/-- The exponent at the head of the input, if there is one; a mark without digits is malformed. -/
def exponentPart (s : Symbols) : Option (Option (Bool × List Nat) × Symbols) :=
  let signed (negative : Bool) (s : Symbols) :=
    match digits s with
    | ([], _) => none
    | (ds, rest) => some (some (negative, ds), rest)
  let unsigned (s : Symbols) := match s with
    | some '-' :: rest => signed true rest
    | some '+' :: rest => signed false rest
    | rest => signed false rest
  match s with
  | some 'e' :: rest => unsigned rest
  | some 'E' :: rest => unsigned rest
  | rest => some (none, rest)

/-- The fraction at the head of the input, if there is one; a point without digits is malformed. -/
def fractionPart (s : Symbols) : Option (Option (List Nat) × Symbols) :=
  match s with
  | some '.' :: rest =>
    match digits rest with
    | ([], _) => none
    | (ds, rest) => some (some ds, rest)
  | rest => some (none, rest)

/-- A number literal without its sign: the whole part is zero alone or starts with no zero. -/
def literalRest (negative : Bool) (s : Symbols) : Option (Literal × Symbols) := do
  let (whole, rest) := digits s
  if whole.isEmpty || (whole.head? == some 0 && whole.length > 1) then none
  let (fraction, rest) ← fractionPart rest
  let (exponent, rest) ← exponentPart rest
  return (⟨negative, whole, fraction, exponent⟩, rest)

/-- A number at the head of the input. -/
def literal (s : Symbols) : Option (Literal × Symbols) :=
  match s with
  | some '-' :: rest => literalRest true rest
  | rest => literalRest false rest

/-- The value that a literal denotes. -/
def ofLiteral (l : Literal) : Json :=
  match l.number? with
  | some n => .num n
  | none => .unreadable

/-- The string value of a text that may denote nothing. -/
def ofText : Option String → Json
  | some s => .str s
  | none => .unreadable

/-- The object with these members; a name that denotes nothing spoils the whole object. -/
def ofMembers (members : List (Option String × Json)) : Json :=
  match members.mapM fun (name, value) => name.map (·, value) with
  | some fields => .obj fields
  | none => .unreadable

mutual

/-- A value at the head of the input. The fuel bounds the steps and is spent by one on each. -/
def value : Nat → Symbols → Option (Json × Symbols)
  | 0, _ => none
  | fuel + 1, s =>
    match skipGap s with
    | some '"' :: rest => (stringRest rest).map fun (text, r) => (ofText text, r)
    | some '[' :: rest =>
      match skipGap rest with
      | some ']' :: rest => some (.arr [], rest)
      | rest => (items fuel rest).map fun (js, r) => (.arr js, r)
    | some '\x7b' :: rest =>
      match skipGap rest with
      | some '\x7d' :: rest => some (.obj [], rest)
      | rest => (members fuel rest).map fun (ms, r) => (ofMembers ms, r)
    | some 't' :: some 'r' :: some 'u' :: some 'e' :: rest => some (.bool true, rest)
    | some 'f' :: some 'a' :: some 'l' :: some 's' :: some 'e' :: rest => some (.bool false, rest)
    | some 'n' :: some 'u' :: some 'l' :: some 'l' :: rest => some (.null, rest)
    | rest => (literal rest).map fun (l, r) => (ofLiteral l, r)

/-- The items of an array from the first one on, and the input after the closing bracket. -/
def items : Nat → Symbols → Option (List Json × Symbols)
  | 0, _ => none
  | fuel + 1, s =>
    match value fuel s with
    | none => none
    | some (j, rest) =>
      match skipGap rest with
      | some ']' :: rest => some ([j], rest)
      | some ',' :: rest => (items fuel rest).map fun (js, r) => (j :: js, r)
      | _ => none

/-- The members of an object from the first one on, and the input after the closing brace. -/
def members : Nat → Symbols → Option (List (Option String × Json) × Symbols)
  | 0, _ => none
  | fuel + 1, s =>
    match skipGap s with
    | some '"' :: rest =>
      match stringRest rest with
      | none => none
      | some (name, rest) =>
        match skipGap rest with
        | some ':' :: rest =>
          match value fuel rest with
          | none => none
          | some (j, rest) =>
            match skipGap rest with
            | some '\x7d' :: rest => some ([(name, j)], rest)
            | some ',' :: rest =>
              (members fuel rest).map fun (ms, r) => ((name, j) :: ms, r)
            | _ => none
        | _ => none
    | _ => none

end

/-- The value of an input, if the input is one JSON value with blanks around it. -/
def parse (s : Symbols) : Option Json :=
  match value (2 * s.length + 2) s with
  | some (j, rest) => if (skipGap rest).isEmpty then some j else none
  | none => none

/-- The value of a text. -/
def parseText (s : String) : Option Json := parse (s.toList.map some)

/-- The characters of the bytes, with `none` for each piece that is no UTF-8. -/
def symbols : List UInt8 → Symbols
  | [] => []
  | b :: rest =>
    let piece := Text.firstPiece b rest
    (match piece with
      | .char c _ => some c
      | .broken _ => none) :: symbols (rest.drop (piece.size - 1))
  termination_by bytes => bytes.length
  decreasing_by simp only [List.length_drop, List.length_cons]; omega

/-- The value of a sequence of bytes. -/
def parseBytes (bytes : List UInt8) : Option Json := parse (symbols bytes)

end Outlays.Json

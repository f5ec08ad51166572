import Outlays.Text.Blank

/-!
# Bytes and text

Bytes are read as UTF-8 piece by piece. A piece is a character or the longest run of bytes that
starts one and does not finish it. `Text.decodeLossy` reads everything and writes the replacement
character U+FFFD for each broken piece; readers that refuse such bytes look at the pieces
themselves.
-/

namespace Outlays.Text

/-- What the first bytes of a list stand for. -/
inductive Piece where
  /-- A character, written in this many bytes. -/
  | char (c : Char) (size : Nat)
  /-- This many bytes that start a character and do not finish it. -/
  | broken (size : Nat)
  deriving Repr, DecidableEq

/-- The number of bytes that a piece takes. -/
def Piece.size : Piece → Nat
  | .char _ n => n
  | .broken n => n

/-- The character of a piece, with U+FFFD for a broken one. -/
def Piece.toChar : Piece → Char
  | .char c _ => c
  | .broken _ => '\uFFFD'

/-- The second byte that may follow the first byte `b`, as bounds. -/
def secondBounds (b : UInt8) : UInt8 × UInt8 :=
  if b == 0xE0 then (0xA0, 0xBF)
  else if b == 0xED then (0x80, 0x9F)
  else if b == 0xF0 then (0x90, 0xBF)
  else if b == 0xF4 then (0x80, 0x8F)
  else (0x80, 0xBF)

/-- The byte continues a character. -/
def isTail (b : UInt8) : Bool := 0x80 ≤ b && b ≤ 0xBF

/-- The low six bits of a byte that continues a character. -/
def tailBits (b : UInt8) : Nat := b.toNat % 64

/-- The piece at the head of the bytes `b :: rest`. -/
def firstPiece (b : UInt8) (rest : List UInt8) : Piece :=
  let (low, high) := secondBounds b
  if b < 0x80 then .char (Char.ofNat b.toNat) 1
  else if 0xC2 ≤ b && b ≤ 0xDF then
    match rest with
    | c :: _ =>
      if isTail c then .char (Char.ofNat (b.toNat % 32 * 64 + tailBits c)) 2 else .broken 1
    | [] => .broken 1
  else if 0xE0 ≤ b && b ≤ 0xEF then
    match rest with
    | c :: rest =>
      if low ≤ c && c ≤ high then
        match rest with
        | d :: _ =>
          if isTail d then
            .char (Char.ofNat (b.toNat % 16 * 4096 + tailBits c * 64 + tailBits d)) 3
          else .broken 2
        | [] => .broken 2
      else .broken 1
    | [] => .broken 1
  else if 0xF0 ≤ b && b ≤ 0xF4 then
    match rest with
    | c :: rest =>
      if low ≤ c && c ≤ high then
        match rest with
        | d :: rest =>
          if isTail d then
            match rest with
            | e :: _ =>
              if isTail e then
                .char (Char.ofNat (b.toNat % 8 * 262144 + tailBits c * 4096
                  + tailBits d * 64 + tailBits e)) 4
              else .broken 3
            | [] => .broken 3
          else .broken 2
        | [] => .broken 2
      else .broken 1
    | [] => .broken 1
  else .broken 1

/-- Reads every list of bytes as text, with U+FFFD for each piece that is no UTF-8. -/
def decodeLossy : List UInt8 → List Char
  | [] => []
  | b :: rest =>
    let piece := firstPiece b rest
    piece.toChar :: decodeLossy (rest.drop (piece.size - 1))
  termination_by bytes => bytes.length
  decreasing_by simp only [List.length_drop, List.length_cons]; omega

/-- The bytes of characters, each of which takes one to four. -/
def encodeChars (cs : List Char) : List UInt8 := cs.flatMap String.utf8EncodeChar

/-- The bytes of a text. -/
def encode (s : String) : List UInt8 := encodeChars s.toList

end Outlays.Text

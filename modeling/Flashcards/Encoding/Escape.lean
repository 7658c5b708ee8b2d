import Flashcards.Encoding.Unicode
import Flashcards.Text.Numeral

/-!
# Escapes

Texts in which a character may be written by its number after a backslash. Every byte but the backslash is the character of its number.
In full escapes there are also signs for controls and numbers in the octal system, a backslash at the end of a line hides the end, and a
backslash before any other character stands for itself. In bare escapes there are only numbers after `u` and `U`.

Two numbers one after the other that are halves of a pair of units write one character. Names of characters are not known, so what calls
one by its name is a gap.
-/

namespace Flashcards.Encoding.Escape

/-- The character of a byte by its number. -/
def byteChar (b : UInt8) : Char := Char.ofNat b.toNat

/-- The value of a hexadecimal digit. -/
def hexDigit? (b : UInt8) : Option Nat := if Text.isHexDigit (byteChar b) then some (Text.hexValue (byteChar b)) else none

/-- The value of an octal digit. -/
def octalDigit? (b : UInt8) : Option Nat := if 0x30 ≤ b && b ≤ 0x37 then some (b.toNat - 0x30) else none

/-- The digits that bytes begin with, up to a number of them. -/
def digits (digit? : UInt8 → Option Nat) (most : Nat) (bytes : Bytes) : List Nat :=
  (((bytes.take most).map digit?).takeWhile Option.isSome).filterMap id

/-- The number that digits write. -/
def value (base : Nat) (ds : List Nat) : Nat := ds.foldl (fun n d => base * n + d) 0

/-- The second half of a pair that an escape at the start of bytes writes. -/
def lowHalf? : Bytes → Option Nat
  | 0x5C :: 0x75 :: rest =>
    let ds := digits hexDigit? 4 rest
    if ds.length = 4 && isLowHalf (value 16 ds) then some (value 16 ds) else none
  | _ => none

/-- The piece of a number in so many hexadecimal digits, after a backslash and a letter. -/
def numberPiece (count : Nat) (bytes : Bytes) : Piece :=
  let ds := digits hexDigit? count bytes
  let n := value 16 ds
  if ds.length < count || 0x10FFFF < n then .gap (2 + ds.length)
  else match ofPoint? n, isHighHalf n, lowHalf? (bytes.drop count) with
    | some c, _, _ => .ofChar c (2 + count)
    | none, true, some low => .ofChar (ofHalves n low) (8 + count)
    | none, _, _ => .ofChar '\uFFFD' (2 + count)

/-- The piece that calls a character by its name, after a backslash and the letter for names. -/
def namePiece : Bytes → Piece
  | 0x7B :: rest =>
    let name := rest.takeWhile (· != 0x7D)
    if name.length = rest.length || name.isEmpty then .gap (3 + name.length) else .gap (4 + name.length)
  | _ => .gap 2

/-- The character of a sign after a backslash, if it has one of its own. -/
def signChar? (b : UInt8) : Option Char :=
  match byteChar b with
  | '\\' => some '\\'
  | '\'' => some '\''
  | '"' => some '"'
  | 'a' => some '\x07'
  | 'b' => some '\x08'
  | 'f' => some '\x0c'
  | 'n' => some '\n'
  | 'r' => some '\r'
  | 't' => some '\t'
  | 'v' => some '\x0b'
  | _ => none

/-- The piece after a backslash in full escapes. -/
def fullPiece (b : UInt8) (rest : Bytes) : Piece :=
  match signChar? b, byteChar b with
  | some c, _ => .ofChar c 2
  | none, '\n' => .silent 2
  | none, 'x' => numberPiece 2 rest
  | none, 'u' => numberPiece 4 rest
  | none, 'U' => numberPiece 8 rest
  | none, 'N' => namePiece rest
  | none, c =>
    match digits octalDigit? 3 (b :: rest) with
    | [] => ⟨[some '\\', some c], 2⟩
    | ds => .ofChar (Char.ofNat (value 8 ds)) (1 + ds.length)

/-- The reader of full escapes. -/
def full : Reader Unit :=
  .plain fun b rest =>
    match b, rest with
    | 0x5C, c :: rest => fullPiece c rest
    | 0x5C, [] => .gap 1
    | b, _ => .ofChar (byteChar b) 1

/-- The reader of bare escapes. -/
def bare : Reader Unit :=
  .plain fun b rest =>
    match b, rest with
    | 0x5C, 0x75 :: rest => numberPiece 4 rest
    | 0x5C, 0x55 :: rest => numberPiece 8 rest
    | 0x5C, c :: _ => ⟨[some '\\', some (byteChar c)], 2⟩
    | b, _ => .ofChar (byteChar b) 1

end Flashcards.Encoding.Escape

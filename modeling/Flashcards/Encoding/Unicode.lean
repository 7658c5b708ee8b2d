import Flashcards.Encoding.Reader

/-!
# UTF-8, UTF-16 and UTF-32

The readers of the encodings of Unicode in bytes, in pairs of bytes and in fours. In pairs, a character above U+FFFF is written with two
units, and half of such a pair that stands alone is a gap; in fours, a number that is no character is one. What is cut off at the end is
one gap.
-/

namespace Flashcards.Encoding

/-- The order in which the bytes of a unit stand. -/
inductive ByteOrder where
  | highFirst
  | lowFirst
  deriving DecidableEq, Repr

/-- The unit of two bytes. -/
def ByteOrder.unit (order : ByteOrder) (a b : UInt8) : Nat :=
  match order with
  | .highFirst => a.toNat * 256 + b.toNat
  | .lowFirst => b.toNat * 256 + a.toNat

/-- The number of four bytes. -/
def ByteOrder.number (order : ByteOrder) (a b c d : UInt8) : Nat :=
  match order with
  | .highFirst => order.unit a b * 65536 + order.unit c d
  | .lowFirst => order.unit c d * 65536 + order.unit a b

/-- The first half of a pair of units. -/
def isHighHalf (n : Nat) : Bool := 0xD800 ≤ n && n ≤ 0xDBFF

/-- The second half of a pair of units. -/
def isLowHalf (n : Nat) : Bool := 0xDC00 ≤ n && n ≤ 0xDFFF

/-- The character of a pair of units. -/
def ofHalves (high low : Nat) : Char := Char.ofNat (0x10000 + (high - 0xD800) * 0x400 + (low - 0xDC00))

/-- The character with a code point, if there is one. -/
def ofPoint? (n : Nat) : Option Char := if n ≤ 0x10FFFF && !isHighHalf n && !isLowHalf n then some (Char.ofNat n) else none

/-- The reader of UTF-8. -/
def utf8Reader : Reader Unit :=
  .plain fun b rest =>
    match Utf8.headChar b rest with
    | .ok (c, size) => .ofChar c size
    | .error (count, _) => .gap count

/-- The piece at a unit of UTF-16, with the bytes after it. -/
def unitPiece (order : ByteOrder) (n : Nat) (rest : Bytes) : Piece :=
  if isHighHalf n then
    match rest with
    | a :: b :: _ => if isLowHalf (order.unit a b) then .ofChar (ofHalves n (order.unit a b)) 4 else .gap 2
    | rest => .gap (2 + rest.length)
  else if isLowHalf n then .gap 2
  else .ofChar (Char.ofNat n) 2

/-- The reader of UTF-16. -/
def utf16Reader (order : ByteOrder) : Reader Unit :=
  .plain fun a rest =>
    match rest with
    | [] => .gap 1
    | b :: rest => unitPiece order (order.unit a b) rest

/-- The reader of UTF-32. -/
def utf32Reader (order : ByteOrder) : Reader Unit :=
  .plain fun a rest =>
    match rest with
    | b :: c :: d :: _ =>
      match ofPoint? (order.number a b c d) with
      | some c => .ofChar c 4
      | none => .gap 4
    | rest => .gap (1 + rest.length)

/-- What bytes come to in UTF-16 where a mark at their start may tell the order; without one, the low byte is first. -/
def readMarked16 : Bytes → List (Option Char)
  | 0xFE :: 0xFF :: bytes => (utf16Reader .highFirst).read bytes
  | 0xFF :: 0xFE :: bytes => (utf16Reader .lowFirst).read bytes
  | bytes => (utf16Reader .lowFirst).read bytes

/-- What bytes come to in UTF-32 where a mark at their start may tell the order; without one, the low byte is first. -/
def readMarked32 : Bytes → List (Option Char)
  | 0x00 :: 0x00 :: 0xFE :: 0xFF :: bytes => (utf32Reader .highFirst).read bytes
  | 0xFF :: 0xFE :: 0x00 :: 0x00 :: bytes => (utf32Reader .lowFirst).read bytes
  | bytes => (utf32Reader .lowFirst).read bytes

end Flashcards.Encoding

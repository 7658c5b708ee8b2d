import Flashcards.Text.Basic

/-!
# UTF-8

The reading of bytes as UTF-8. A byte that cannot stand where it stands is a fault with a reason and a place: the bytes from its
start on that belong to no character. A reader that goes on over faults goes on behind those bytes.
-/

namespace Flashcards

/-- Bytes in order. -/
abbrev Bytes := List UInt8

namespace Utf8

/-- Why bytes are not UTF-8. -/
inductive Reason where
  | startByte
  | continuationByte
  | endOfData
  deriving DecidableEq, Repr

/-- The words for a reason. -/
def Reason.message : Reason → Text
  | .startByte => "invalid start byte"
  | .continuationByte => "invalid continuation byte"
  | .endOfData => "unexpected end of data"

/-- Bytes that are not UTF-8: the place of the first, the first itself, how many there are, and why. -/
structure Fault where
  position : Nat
  byte : UInt8
  count : Nat
  reason : Reason
  deriving DecidableEq, Repr

/-- The words for a fault. -/
def Fault.message (f : Fault) : Text :=
  if f.count = 1 then
    "'utf-8' codec can't decode byte 0x" ++ Text.hex 2 f.byte.toNat ++ " in position " ++ Text.ofNat f.position ++ ": " ++
      f.reason.message
  else
    "'utf-8' codec can't decode bytes in position " ++ Text.ofNat f.position ++ "-" ++
      Text.ofNat (f.position + f.count - 1) ++ ": " ++ f.reason.message

/-- A byte that continues a character. -/
def isContinuation (b : UInt8) : Bool := 0x80 ≤ b && b ≤ 0xBF

/-- Whether the second byte of a character may follow the first: it continues a character, and the two together are neither an
overlong form, nor half of a pair of code units, nor above the last code point. -/
def mayFollow (first second : UInt8) : Bool :=
  isContinuation second && !(first == 0xE0 && second < 0xA0) && !(first == 0xED && 0xA0 ≤ second) &&
    !(first == 0xF0 && second < 0x90) && !(first == 0xF4 && 0x90 ≤ second)

/-- The number of bytes a character has that begins with a byte, if one does. -/
def lengthFrom? (b : UInt8) : Option Nat :=
  if b < 0x80 then some 1
  else if b < 0xC2 then none
  else if b < 0xE0 then some 2
  else if b < 0xF0 then some 3
  else if b < 0xF5 then some 4
  else none

/-- The six bits a byte adds to the character it continues. -/
def continueWith (n : Nat) (b : UInt8) : Nat := n * 64 + b.toNat % 64

/-- The character at the start of the bytes and its number of bytes, or the number of bytes that are none and why. -/
def headChar (b : UInt8) (rest : Bytes) : Except (Nat × Reason) (Char × Nat) :=
  match lengthFrom? b with
  | none => .error (1, .startByte)
  | some 1 => .ok (Char.ofNat b.toNat, 1)
  | some 2 =>
    match rest with
    | [] => .error (1, .endOfData)
    | c :: _ => if mayFollow b c then .ok (Char.ofNat (continueWith (b.toNat % 32) c), 2) else .error (1, .continuationByte)
  | some 3 =>
    match rest with
    | [] => .error (1, .endOfData)
    | c :: rest =>
      if !mayFollow b c then .error (1, .continuationByte)
      else match rest with
        | [] => .error (2, .endOfData)
        | d :: _ =>
          if isContinuation d then .ok (Char.ofNat (continueWith (continueWith (b.toNat % 16) c) d), 3)
          else .error (2, .continuationByte)
  | some _ =>
    match rest with
    | [] => .error (1, .endOfData)
    | c :: rest =>
      if !mayFollow b c then .error (1, .continuationByte)
      else match rest with
        | [] => .error (2, .endOfData)
        | d :: rest =>
          if !isContinuation d then .error (2, .continuationByte)
          else match rest with
            | [] => .error (3, .endOfData)
            | e :: _ =>
              if isContinuation e then
                .ok (Char.ofNat (continueWith (continueWith (continueWith (b.toNat % 8) c) d) e), 4)
              else .error (3, .continuationByte)

/-- Reads bytes from a place on, where `skip` more bytes belong to a character that has been read. -/
def decodeFrom : (skip position : Nat) → Bytes → Except Fault Text
  | _, _, [] => .ok []
  | skip + 1, position, _ :: rest => decodeFrom skip (position + 1) rest
  | 0, position, b :: rest =>
    match headChar b rest with
    | .error (count, reason) => .error ⟨position, b, count, reason⟩
    | .ok (c, size) => (decodeFrom (size - 1) (position + 1) rest).map (c :: ·)

/-- The text that bytes write in UTF-8. -/
def decode (bytes : Bytes) : Except Fault Text := decodeFrom 0 0 bytes

/-- The bytes of a character in UTF-8. -/
def encodeChar (c : Char) : Bytes :=
  let n := c.toNat
  let tail (k : Nat) : UInt8 := UInt8.ofNat (0x80 + n / Nat.pow 64 k % 64)
  if n < 0x80 then [UInt8.ofNat n]
  else if n < 0x800 then [UInt8.ofNat (0xC0 + n / 64), tail 0]
  else if n < 0x10000 then [UInt8.ofNat (0xE0 + n / 4096), tail 1, tail 0]
  else [UInt8.ofNat (0xF0 + n / 262144), tail 2, tail 1, tail 0]

/-- The bytes of a text in UTF-8. -/
def encode (t : Text) : Bytes := t.flatMap encodeChar

end Utf8

end Flashcards

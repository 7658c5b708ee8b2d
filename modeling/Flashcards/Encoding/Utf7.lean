import Flashcards.Encoding.Unicode

/-!
# UTF-7

Unicode in the characters of ASCII. Most stand for themselves. A plus sign begins a section whose digits, of six bits each, write units of
UTF-16; the first other character ends it, and belongs to it if it is a hyphen. A plus sign and a hyphen alone write a plus sign.

A section is one piece. Where bits are left over at its end that write nothing, it ends in a gap, which swallows the character after it.
-/

namespace Flashcards.Encoding.Utf7

/-- The six bits of a digit. -/
def digit? (b : UInt8) : Option Nat :=
  if 0x41 ≤ b && b ≤ 0x5A then some (b.toNat - 0x41)
  else if 0x61 ≤ b && b ≤ 0x7A then some (b.toNat - 0x61 + 26)
  else if 0x30 ≤ b && b ≤ 0x39 then some (b.toNat - 0x30 + 52)
  else if b = 0x2B then some 62
  else if b = 0x2F then some 63
  else none

/-- What the digits of a section have come to: bits that are not yet a unit, and the first half of a pair that waits for the second. -/
structure Pending where
  bits : Nat
  value : Nat
  half : Option Nat
  deriving DecidableEq, Repr

/-- What has to be written for half of a pair that stands alone. -/
def lone (half : Option Nat) : List (Option Char) := if half.isSome then [some '\uFFFD'] else []

/-- A unit taken in: what it writes, and the half that waits afterwards. -/
def takeUnit (half : Option Nat) (n : Nat) : List (Option Char) × Option Nat :=
  match half, isLowHalf n with
  | some high, true => ([some (ofHalves high n)], none)
  | _, _ =>
    if isHighHalf n then (lone half, some n)
    else (lone half ++ [some (if isLowHalf n then '\uFFFD' else Char.ofNat n)], none)

/-- A digit taken in: what it writes, and what is pending afterwards. -/
def Pending.take (p : Pending) (digit : Nat) : List (Option Char) × Pending :=
  let value := p.value * 64 + digit
  let bits := p.bits + 6
  if bits < 16 then ([], ⟨bits, value, p.half⟩)
  else
    let left := Nat.pow 2 (bits - 16)
    let (chars, half) := takeUnit p.half (value / left)
    (chars, ⟨bits - 16, value % left, half⟩)

/-- The digits of a section taken in: what they write, and what is pending at their end. -/
def takeDigits (p : Pending) : List Nat → List (Option Char) × Pending
  | [] => ([], p)
  | d :: ds => ((p.take d).1 ++ (takeDigits (p.take d).2 ds).1, (takeDigits (p.take d).2 ds).2)

/-- Whether the bits that are left over write nothing. -/
def Pending.isSettled (p : Pending) : Bool := p.bits < 6 && p.value = 0

/-- The section after a plus sign. -/
def sectionPiece (rest : Bytes) : Piece :=
  let digits := (rest.map digit?).takeWhile Option.isSome
  let (chars, p) := takeDigits ⟨0, 0, none⟩ (digits.filterMap id)
  let size := 1 + digits.length
  match rest.drop digits.length with
  | [] => if p.isSettled && p.half.isNone then ⟨chars, size⟩ else ⟨chars ++ [none], size⟩
  | b :: _ =>
    if !p.isSettled then ⟨chars ++ [none], size + 1⟩
    else ⟨chars ++ (if b < 0x80 && b != 0x2B then lone p.half else []), if b = 0x2D then size + 1 else size⟩

/-- The reader of UTF-7. -/
def reader : Reader Unit :=
  .plain fun b rest =>
    if b != 0x2B then if b < 0x80 then .ofChar (Char.ofNat b.toNat) 1 else .gap 1
    else match rest with
      | c :: _ => if c = 0x2D then .ofChar '+' 2 else if (digit? c).isNone then .gap 2 else sectionPiece rest
      | [] => sectionPiece rest

end Flashcards.Encoding.Utf7

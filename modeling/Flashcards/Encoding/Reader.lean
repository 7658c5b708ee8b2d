import Flashcards.Encoding.Utf8

/-!
# Readers of bytes

Bytes are read piece by piece. A piece comes to characters, and to gaps in the place of characters that its bytes should stand for and
do not. A reader may be in one of several states, which pieces change.

What is read without a gap is the text that the bytes write (`complete?`); else there is a text with a replacement character for each gap
(`mended`).
-/

namespace Flashcards.Encoding

/-- What stands at the start of bytes: its characters and gaps, and how many bytes it takes. -/
structure Piece where
  chars : List (Option Char)
  size : Nat
  deriving DecidableEq, Repr

namespace Piece

/-- A character written with a number of bytes. -/
def ofChar (c : Char) (size : Nat) : Piece := ⟨[some c], size⟩

/-- A number of bytes that stand for no character. -/
def gap (size : Nat) : Piece := ⟨[none], size⟩

/-- A number of bytes that write nothing. -/
def silent (size : Nat) : Piece := ⟨[], size⟩

/-- A character written with a number of bytes; where there is none, the first byte alone is a gap. -/
def ofChar? (c : Option Char) (size : Nat) : Piece :=
  match c with
  | some c => ofChar c size
  | none => gap 1

end Piece

/-- A way to read bytes piece by piece: the state at the start, and the piece at a byte with the bytes after it. -/
structure Reader (σ : Type) where
  start : σ
  step : σ → UInt8 → Bytes → Piece × σ

namespace Reader

variable {σ : Type}

/-- A reader without states. -/
def plain (step : UInt8 → Bytes → Piece) : Reader Unit := ⟨(), fun _ b rest => (step b rest, ())⟩

/-- A reader without states that reads a byte below 128 as the character of its number. -/
def aboveAscii (step : UInt8 → Bytes → Piece) : Reader Unit :=
  plain fun b rest => if b < 0x80 then .ofChar (Char.ofNat b.toNat) 1 else step b rest

/-- What bytes come to from a state on, where `skip` more bytes belong to a piece that has been read. -/
def readFrom (r : Reader σ) : (skip : Nat) → σ → Bytes → List (Option Char)
  | _, _, [] => []
  | skip + 1, s, _ :: rest => r.readFrom skip s rest
  | 0, s, b :: rest => (r.step s b rest).1.chars ++ r.readFrom ((r.step s b rest).1.size - 1) (r.step s b rest).2 rest

/-- What bytes come to. -/
def read (r : Reader σ) (bytes : Bytes) : List (Option Char) := r.readFrom 0 r.start bytes

end Reader

/-- The text of characters without gaps. -/
def complete? : List (Option Char) → Option Text
  | [] => some []
  | none :: _ => none
  | some c :: chars => (complete? chars).map (c :: ·)

/-- The text of characters with a replacement character for each gap. -/
def mended (chars : List (Option Char)) : Text := chars.map (·.getD '\uFFFD')

end Flashcards.Encoding

import Flashcards.Encoding.Reader

/-!
# Character sets of two bytes

Sets of some thousand characters that are laid out in rows of cells, both counted from one. Several encodings share a set and differ in
how they write its rows and cells as bytes. The sets themselves are in the modules below this one.
-/

namespace Flashcards.Encoding

/-- Characters in rows of cells, with the replacement character in a cell without one. -/
structure CharacterSet where
  rows : Array (Array Char)

namespace CharacterSet

/-- The set with the given rows. Cells may be missing at the end of a row. -/
def ofRows (rows : List String) : CharacterSet := ⟨(rows.map fun row => row.toList.toArray).toArray⟩

/-- The character in a row and a cell. -/
def char? (set : CharacterSet) (row cell : Nat) : Option Char :=
  if row = 0 || cell = 0 then none else ((set.rows[row - 1]?.getD #[])[cell - 1]?).filter (· != '\uFFFD')

/-- The character of two bytes that are 32 above the row and the cell. -/
def lowChar? (set : CharacterSet) (b c : UInt8) : Option Char := set.char? (b.toNat - 0x20) (c.toNat - 0x20)

/-- The character of two bytes that are 160 above the row and the cell. -/
def highChar? (set : CharacterSet) (b c : UInt8) : Option Char := set.char? (b.toNat - 0xA0) (c.toNat - 0xA0)

/-- The characters of the set, in order. -/
def toList (set : CharacterSet) : List Char := (set.rows.toList.flatMap Array.toList).filter (· != '\uFFFD')

end CharacterSet

/-- A character written with two bytes; where they stand for none, the first byte alone is a gap. -/
def Piece.ofPair (char? : UInt8 → UInt8 → Option Char) (b : UInt8) : Bytes → Piece
  | [] => gap 1
  | c :: _ => ofChar? (char? b c) 2

end Flashcards.Encoding

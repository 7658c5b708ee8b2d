import Flashcards.Encoding.Reader

/-!
# Code pages

Encodings of one byte a character. A page gives the characters of the 256 bytes, with the replacement character for a byte that stands
for none. The pages themselves are in the modules below this one.
-/

namespace Flashcards.Encoding

/-- The characters of the 256 bytes, with the replacement character for a byte that stands for none. -/
structure CodePage where
  chars : Array Char
  deriving DecidableEq

namespace CodePage

/-- The characters with the code points from one number up to another. -/
def pointsBetween (first last : Nat) : List Char := (List.range (last + 1 - first)).map fun n => Char.ofNat (first + n)

/-- The page with the given rows of characters. -/
def whole (rows : List String) : CodePage := ⟨(rows.flatMap String.toList).toArray⟩

/-- The page that agrees with ASCII on the lower half and has the given rows of characters in the upper half. -/
def aboveAscii (rows : List String) : CodePage := ⟨(pointsBetween 0 0x7F ++ rows.flatMap String.toList).toArray⟩

/-- The page that agrees with ASCII on the lower half, has 32 controls above it, and then the given rows of characters. -/
def aboveControls (rows : List String) : CodePage := ⟨(pointsBetween 0 0x9F ++ rows.flatMap String.toList).toArray⟩

/-- The page with another character for one byte. -/
def set (page : CodePage) (byte : Nat) (c : Char) : CodePage := ⟨page.chars.setIfInBounds byte c⟩

/-- The page of the first 128 characters alone. -/
def ascii : CodePage := aboveAscii []

/-- The page of the first 256 characters. -/
def latin1 : CodePage := ⟨(pointsBetween 0 0xFF).toArray⟩

/-- The character of a byte. -/
def char? (page : CodePage) (b : UInt8) : Option Char := (page.chars[b.toNat]?).filter (· != '\uFFFD')

/-- The reader of texts in a page. -/
def reader (page : CodePage) : Reader Unit := .plain fun b _ => .ofChar? (page.char? b) 1

end CodePage

end Flashcards.Encoding

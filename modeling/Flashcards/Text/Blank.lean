import Flashcards.Text.Basic

/-!
# Blank characters

Three classes are kept apart: the blanks of Unicode, at which words and tags are split; the four blanks allowed between the
tokens of JSON; and the five ASCII blanks that collapse in markup.
-/

namespace Flashcards.Text

/-- Whitespace in the sense of Unicode: the characters of bidirectional class `WS`, `B` or `S` and the space separators. -/
def isBlank (c : Char) : Bool :=
  let n := c.toNat
  (9 ≤ n && n ≤ 13) || (28 ≤ n && n ≤ 32) || n == 0x85 || n == 0xA0 || n == 0x1680 || (0x2000 ≤ n && n ≤ 0x200A) ||
    n == 0x2028 || n == 0x2029 || n == 0x202F || n == 0x205F || n == 0x3000

/-- The blanks that may stand between the tokens of a JSON text: space, tab, line feed and carriage return. -/
def isJsonBlank (c : Char) : Bool := c == ' ' || c == '\t' || c == '\n' || c == '\r'

/-- The blanks a run of which counts as one in markup: space, line feed, tab, form feed and carriage return. -/
def isMarkupBlank (c : Char) : Bool := c == ' ' || c == '\n' || c == '\t' || c == '\x0c' || c == '\r'

/-- The text without blanks at its two ends. -/
def strip (t : Text) : Text := trim isBlank t

/-- The maximal runs of characters that are not blank, in order. -/
def words (t : Text) : List Text := (splitWhere isBlank t).filter nonEmpty

/-- The distinct words of a text, each at the place of its first occurrence. -/
def distinct (ws : List Text) : List Text :=
  ws.foldl (fun seen w => if w ∈ seen then seen else seen ++ [w]) []

/-- Whether the text holds nothing but blanks. -/
def allBlank (t : Text) : Bool := t.all isBlank

end Flashcards.Text

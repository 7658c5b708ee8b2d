import Flashcards.Json.Basic
import Flashcards.Text.Quoted

/-!
# The plain text of a value

Where a manifest or a model resource holds something else than the text that is expected, the value is taken by its plain text: a
text is itself, and everything else is written out, texts inside lists and objects between quotes.
-/

namespace Flashcards.Json

mutual

/-- The value written out, a text between quotes. -/
def written : Json → Text
  | .null => "None"
  | .bool b => if b then "True" else "False"
  | .int n => Text.ofInt n
  | .float x => x.toText
  | .text t => Text.quoted t
  | .list items => "[" ++ writtenItems items ++ "]"
  | .object entries => ['\x7b'] ++ writtenEntries entries ++ ['\x7d']

/-- Values written out with a comma and a space between each two. -/
def writtenItems : List Json → Text
  | [] => []
  | [x] => written x
  | x :: xs => written x ++ ", " ++ writtenItems xs

/-- Entries written out, each name between quotes and followed by its value. -/
def writtenEntries : List (Text × Json) → Text
  | [] => []
  | [(k, v)] => Text.quoted k ++ ": " ++ written v
  | (k, v) :: es => Text.quoted k ++ ": " ++ written v ++ ", " ++ writtenEntries es

end

/-- The plain text of a value. -/
def plain : Json → Text
  | .text t => t
  | v => written v

/-- The plain text of a value, or a default where the value is blank. -/
def plainOr (default : Text) (v : Json) : Text := if v.isBlank then default else v.plain

end Flashcards.Json

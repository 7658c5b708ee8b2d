import Flashcards.Manifest
import Flashcards.Text.Word

/-!
# Files for pages

The page of a deck is written to a file named after the deck's path: its slashes, and every run of characters that are neither word
characters nor points nor hyphens, become low lines.
-/

namespace Flashcards

open Text

namespace PageFile

/-- A character that stands in the name of a file as it is. -/
def isSafe (c : Char) : Bool := isWord c || c == '.' || c == '-'

/-- A text in which every run of other characters is one low line; `inRun` tells whether a run has begun. -/
def joinUnsafe : (inRun : Bool) → Text → Text
  | _, [] => []
  | inRun, c :: t =>
    if isSafe c then c :: joinUnsafe false t
    else if inRun then joinUnsafe true t else '_' :: joinUnsafe true t

/-- The name of the file without its ending. -/
def stem (path : Text) : Text := joinUnsafe false ((stripSlashes path).map fun c => if c = '/' then '_' else c)

/-- The name of the file for the page of a deck. -/
def name (path : Text) : Text :=
  let stem := if (stem path).isEmpty then ("deck" : Text) else stem path
  stem ++ ".html"

end PageFile

end Flashcards

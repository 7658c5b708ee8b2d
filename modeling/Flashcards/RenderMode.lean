import Flashcards.Failure
import Flashcards.Text.Case

/-!
# Render modes

Cards are shown raw, as a table of their fields, or by their model, as a card with two sides. A mode is given by its name in any
case, with blanks around it.
-/

namespace Flashcards

open Text

/-- How cards are shown. -/
inductive RenderMode where
  | raw
  | model
  deriving DecidableEq, Repr

namespace RenderMode

/-- The name of a mode. -/
def name : RenderMode → Text
  | .raw => "raw"
  | .model => "model"

/-- The mode with a name. -/
def named? (t : Text) : Option RenderMode :=
  if t = RenderMode.raw.name then some .raw else if t = RenderMode.model.name then some .model else none

/-- The mode that a value gives by its plain text. -/
def ofJson (v : Json) : Except Failure RenderMode :=
  match named? (lower (strip v.plain)) with
  | some mode => .ok mode
  | none => .error (.unknownMode v.plain)

end RenderMode

end Flashcards

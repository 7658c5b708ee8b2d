import Flashcards.Failure
import Flashcards.Text.Case

/-!
# Levels of messages

Messages have levels, which are numbers with names; a name is read in any case. A log lets through what is at least at the level it
is set to. A level that is not given, or whose name is not known, is that of information.
-/

namespace Flashcards

open Text

namespace Logging

/-- The names of levels. -/
def levels : List (Text × Int) :=
  [("CRITICAL", 50), ("FATAL", 50), ("ERROR", 40), ("WARNING", 30), ("WARN", 30), ("INFO", 20), ("DEBUG", 10), ("NOTSET", 0)]

/-- The level of information. -/
def information : Int := 20

/-- The level of errors. -/
def error : Int := 40

/-- The level that counts where the level is set to zero, which says that none is set. -/
def whereUnset : Int := 30

/-- The level of a name. -/
def levelNamed (name : Text) : Int :=
  match levels.find? fun l => isCapitalised l.1 name with
  | some l => l.2
  | none => information

/-- A level as it is asked for. -/
inductive Level where
  | unset
  | named (name : Text)
  | number (n : Int)
  deriving DecidableEq, Repr

/-- The number of a level. -/
def Level.toInt : Level → Int
  | .unset => information
  | .named name => levelNamed name
  | .number n => n

/-- The level that a value asks for. -/
def Level.ofJson : Json → Except Failure Level
  | .null => .ok .unset
  | .text name => .ok (.named name)
  | .int n => .ok (.number n)
  | .bool b => .ok (.number (if b then 1 else 0))
  | v => .error (.notALevel v.written)

/-- Whether a log that is set to a level lets a message of another through. -/
def lets (threshold level : Int) : Bool := (if threshold = 0 then whereUnset else threshold) ≤ level

/-- The name by which a level of messages is shown. -/
def nameOf (level : Int) : Text := if level = error then "ERROR" else "INFO"

end Logging

end Flashcards

import Flashcards.Text.Numeral

/-!
# Settings

What can be set from outside, by variables of the environment. A variable that is set to the empty text counts as set, except where
an integer is wanted: there a blank text, or one that writes no integer, leaves the default.
-/

namespace Flashcards

open Text

/-- The variables of an environment, by name. -/
abbrev Environment := List (Text × Text)

/-- The value of a variable. -/
def Environment.find? (name : Text) : Environment → Option Text
  | [] => none
  | (n, value) :: rest => if n = name then some value else Environment.find? name rest

/-- What can be set from outside. -/
structure Settings where
  /-- Where decks are: a directory or the address of one. -/
  source : Text
  /-- The path of the manifest, within the source. -/
  manifest : Text
  /-- The path of the models that all decks share. -/
  rootModels : Text
  /-- The name of a render mode. -/
  renderMode : Text
  /-- How many connections to one host may be open. -/
  concurrency : Int
  /-- How many seconds a request may take. -/
  timeout : Int
  /-- The directory that pages are written to. -/
  output : Text
  /-- The name of the least level of messages that are logged. -/
  logLevel : Text
  deriving DecidableEq, Repr

namespace Settings

/-- The settings of a program that lives in a directory, where nothing is set. -/
def defaults (base : Text) : Settings where
  source := base ++ "/decks"
  manifest := "manifest.json"
  rootModels := "models.json"
  renderMode := "raw"
  concurrency := 4
  timeout := 30
  output := base ++ "/data/output"
  logLevel := "INFO"

/-- The value of a variable, or a default. -/
def textOf (env : Environment) (name default : Text) : Text := (env.find? name).getD default

/-- The integer a variable writes, or a default. -/
def intOf (env : Environment) (name : Text) (default : Int) : Int := ((env.find? name).bind int?).getD default

/-- The settings of a program that lives in a directory, by the variables of an environment. -/
def ofEnvironment (base : Text) (env : Environment) : Settings :=
  let d := defaults base
  { source := textOf env "DECKVIEW_SOURCE" d.source
    manifest := textOf env "DECKVIEW_MANIFEST" d.manifest
    rootModels := textOf env "DECKVIEW_ROOT_MODELS" d.rootModels
    renderMode := textOf env "DECKVIEW_RENDER_MODE" d.renderMode
    concurrency := intOf env "DECKVIEW_CONCURRENCY" d.concurrency
    timeout := intOf env "DECKVIEW_TIMEOUT" d.timeout
    output := textOf env "DECKVIEW_OUTPUT_DIR" d.output
    logLevel := textOf env "DECKVIEW_LOG_LEVEL" d.logLevel }

end Settings

end Flashcards

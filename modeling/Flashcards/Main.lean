import Flashcards.CommandLine.Batch

/-!
# The program

The outer layer of the command line: the disk, the environment and the terminal. Everything else is decided by `Batch.run`.
-/

namespace Flashcards.Terminal

/-- A text as a string. -/
def string (t : Text) : String := String.ofList t

/-- The variables of the environment that settings are read from. -/
def settingVariables : List String :=
  ["DECKVIEW_SOURCE", "DECKVIEW_MANIFEST", "DECKVIEW_ROOT_MODELS", "DECKVIEW_RENDER_MODE", "DECKVIEW_CONCURRENCY",
   "DECKVIEW_TIMEOUT", "DECKVIEW_OUTPUT_DIR", "DECKVIEW_LOG_LEVEL"]

/-- The environment as far as settings are read from it. -/
def environment : IO Environment :=
  settingVariables.filterMapM fun name => do return (← IO.getEnv name).map fun value => (name.toList, value.toList)

/-- Whether the system reports that something on the way to a place is no directory; some of its calls turn the sign of the number
they report. -/
def isNoDirectory (code : UInt32) : Bool := code == 20 || code == 0 - 20

/-- What is at a place of the disk. -/
def look (place : Place) : IO Found := do
  try
    let bytes ← IO.FS.readBinFile (string place.toText)
    return .file bytes.toList
  catch
    | .noFileOrDirectory .. => return .missing
    | .inappropriateType _ code _ => return if isNoDirectory code then .throughFile else .directory
    | failure => throw failure

/-- The surroundings of the program. It has no connection to the web. -/
def surroundings : Surroundings IO where
  look := look
  request _ := return .broken (.connection "ConnectionError".toList "no connection to the web".toList)
  makeDirectory path := IO.FS.createDirAll (string path)
  write path t := IO.FS.writeFile (string path) (string t)
  log level message := IO.eprintln ("[" ++ string (Logging.nameOf level) ++ "] " ++ string message)

/-- What the program says when it is asked for help. -/
def help : String :=
  "usage: flashcards [-h] [--source SOURCE] [--manifest MANIFEST] [--mode raw|model] [--deck DECK] [--output OUTPUT]\n" ++
    "                  [--log-level LEVEL]\n\n" ++
    "Render flashcard decks to HTML pages.\n\n" ++
    "Decks share one page session, so each page also carries the stylesheets and libraries of decks rendered before it."

/-- The directory that the program stands in. -/
def here : IO Place := do
  let path := (← IO.currentDir).toString.toList
  return match Place.ofPath [] path with
    | .ok place => place
    | .error _ => []

/-- The program run with its arguments. -/
def run (args : List Text) : IO UInt32 := do
  let settings := Settings.ofEnvironment (← IO.appDir).toString.toList (← environment)
  if Options.read settings args = .help then IO.println help
  match ← Batch.run surroundings settings (← here) args with
  | .exit code => return code.toUInt32
  | .crash failure =>
    IO.eprintln (string failure.message)
    return 1

end Flashcards.Terminal

/-- The command line. -/
def main (args : List String) : IO UInt32 := Flashcards.Terminal.run (args.map String.toList)

import Flashcards.CommandLine.Options
import Flashcards.Logging
import Flashcards.PageFile
import Flashcards.Session.Calls
import Flashcards.Source.Basic

/-!
# Rendering decks in a batch

The decks of a manifest are rendered one after the other in one session, and the page is written to a file of its own after each. So
every page carries the style sheets and the libraries of the decks before it as well.

What has to be done outside is asked of `Surroundings`, in any monad; what is done, and in which order, is decided here.
-/

namespace Flashcards

open Text

/-- What is asked of the world outside. -/
structure Surroundings (m : Type → Type) extends Outside m where
  /-- A directory made at a path, with those on the way to it. -/
  makeDirectory : Text → m Unit
  /-- A text written to the file at a path. -/
  write : Text → Text → m Unit
  /-- A message of a level logged. -/
  log : Int → Text → m Unit

/-- How a batch ends: with a code, or by a failure that nothing deals with. -/
inductive Ending where
  | exit (code : Nat)
  | crash (failure : Failure)
  deriving DecidableEq

/-- The ending of a batch that went well, or not. -/
def Ending.ofSuccess (success : Bool) : Ending := .exit (if success then 0 else 1)

namespace Batch

/-! ## Paths of files -/

/-- The slashes that a tidy path begins with: as many as are written if there are two, else at most one. -/
def leadingSlashes (path : Text) : Text :=
  let slashes := path.takeWhile (· == '/')
  if slashes.length ≤ 2 then slashes else ['/']

/-- The names in a path; empty ones and single points do not count. -/
def names (path : Text) : List Text := (splitOn '/' path).filter fun name => nonEmpty name && name != "."

/-- The path of a file in a directory, written tidily. -/
def fileIn (directory name : Text) : Text := leadingSlashes directory ++ joinWith ['/'] (names directory ++ [name])

/-! ## Decks -/

/-- What the log says of a deck that is not there. -/
def missingMessage (path : Text) : Text := "Deck '" ++ path ++ "' not found in manifest"

/-- What the log says of a manifest that cannot be read. -/
def manifestMessage (path : Text) (failure : Failure) : Text := "Cannot load manifest " ++ path ++ ": " ++ failure.message

/-- What the log says of a page that has been written. -/
def pageMessage (result : DeckResult) (file : Text) : Text :=
  "[" ++ result.status.name ++ "] " ++ result.deck.path ++ " -> " ++ file ++ " (" ++ ofNat result.cards.length ++ " cards)"

variable {m : Type → Type} [Monad m]

/-- The surroundings with a log that lets through what is at least at a level. -/
def logFrom (threshold : Int) (s : Surroundings m) : Surroundings m :=
  { s with log := fun level message => if Logging.lets threshold level then s.log level message else pure () }

/-- The decks of a manifest with the paths given, in the order of these. One that is not there is logged and left out. -/
def findDecks (s : Surroundings m) (manifest : DeckNode) : List Argument → m (Except Failure (List DeckNode))
  | [] => pure (.ok [])
  | .noText :: _ => pure (.error (.notADeckPath .list))
  | .text path :: paths =>
    match manifest.find? path with
    | some node => return (← findDecks s manifest paths).map (node :: ·)
    | none => do
      s.log Logging.error (missingMessage path)
      findDecks s manifest paths

/-- The decks that options ask for: all where they give no path. -/
def decksFor (s : Surroundings m) (manifest : DeckNode) (paths : List Argument) : m (Except Failure (List DeckNode)) :=
  if paths.isEmpty then pure (.ok manifest.walk) else findDecks s manifest paths

/-- A call made and worked off: what it has come to, and the session after it. -/
def call (s : Surroundings m) (source : DeckSource) (request : Request) (a : SessionAgenda) :
    m (Option (Except Failure CallResult) × SessionAgenda) := do
  let a' ← (a.call request).settleWith (source.fetch s.toOutside)
  return (a'.result? a.state.calls, a')

/-- Decks rendered one after the other, each page written; the answer tells whether all went well, unless a failure ends it. -/
def renderAll (s : Surroundings m) (output : Text) (source : DeckSource) :
    (success : Bool) → List DeckNode → SessionAgenda → m Ending
  | success, [], _ => pure (.ofSuccess success)
  | success, node :: nodes, a => do
    let (result, a) ← call s source (.select node) a
    match result with
    | some (.error failure) => return .crash failure
    | some (.ok (.shown result)) =>
      let file := fileIn output (PageFile.name node.path)
      s.write file a.state.session.page.render
      s.log Logging.information (pageMessage result file)
      renderAll s output source (success && result.status != .failed) nodes a
    | _ => renderAll s output source success nodes a

/-- The directory that an argument names. -/
def directoryOf : Argument → Except Failure Text
  | .text t => if t.contains '\x00' then .error .zeroInPath else .ok t
  | .noText => .error (.notADirectory .list)

/-- Decks rendered in a session of their own. -/
def renderDecks (s : Surroundings m) (settings : Settings) (o : Options) (source : DeckSource) (nodes : List DeckNode) :
    m Ending := do
  match RenderMode.ofJson o.mode.toJson with
  | .error failure => return .crash failure
  | .ok mode =>
    let (result, a) ← call s source .loadRootModels (SessionAgenda.fresh mode (.text settings.rootModels))
    match result, directoryOf o.output with
    | some (.error failure), _ => return .crash failure
    | _, .error failure => return .crash failure
    | _, .ok output =>
      s.makeDirectory output
      renderAll s output source (o.decks.isEmpty || nodes.length == o.decks.length) nodes a

/-- The decks of a manifest that options ask for rendered; there has to be one. -/
def renderManifest (s : Surroundings m) (settings : Settings) (o : Options) (source : DeckSource) (manifest : DeckNode) :
    m Ending := do
  match ← decksFor s manifest o.decks with
  | .error failure => return .crash failure
  | .ok [] => return .exit 1
  | .ok nodes => renderDecks s settings o source nodes

/-- The batch that options ask for, with a log that is set to their level. -/
def runLogged (s : Surroundings m) (settings : Settings) (here : Place) (o : Options) : m Ending := do
  match DeckSource.ofText settings here none o.source.toJson.plain with
  | .error failure => return .crash failure
  | .ok source =>
    match (← source.fetch s.toOutside o.manifest.toJson) >>= Manifest.read with
    | .ok manifest => renderManifest s settings o source manifest
    | .error failure =>
      if failure.isOfReading then
        s.log Logging.error (manifestMessage o.manifest.toJson.plain failure)
        return .exit 1
      else return .crash failure

/-- The batch that options ask for. -/
def runWith (s : Surroundings m) (settings : Settings) (here : Place) (o : Options) : m Ending :=
  match Logging.Level.ofJson o.logLevel.toJson with
  | .error failure => pure (.crash failure)
  | .ok level => runLogged (logFrom level.toInt s) settings here o

/-- The batch that a command line asks for, made by someone who stands at a place. -/
def run (s : Surroundings m) (settings : Settings) (here : Place) (args : List Text) : m Ending :=
  match Options.read settings args with
  | .help => pure (.exit 0)
  | .misuse => pure (.exit 2)
  | .options o => runWith s settings here o

end Batch

end Flashcards

import Flashcards.Settings
import Flashcards.Source.Directory
import Flashcards.Source.Web

/-!
# Sources of decks

A source is given by a text: an address of the web, which has to begin with one of two schemes, or else a directory.
-/

namespace Flashcards

open Text

/-- Where decks are. -/
inductive DeckSource where
  | web (source : WebSource)
  | directory (source : DirectorySource)
  deriving DecidableEq, Repr

namespace DeckSource

/-- Whether a text is an address of the web. -/
def isWeb (t : Text) : Bool := startsWith "http://" t || startsWith "https://" t

/-- The source a text gives to someone who stands at a place, with a limit in seconds for requests, if there is one. -/
def ofText (settings : Settings) (here : Place) (timeout : Option Int) (t : Text) : Except Failure DeckSource :=
  if isWeb t then .ok (.web (WebSource.ofAddress t timeout none settings.timeout settings.concurrency))
  else (Place.ofPath here t).map fun root => .directory ⟨root⟩

end DeckSource

/-- The text of a path; a value that is none cannot be fetched. -/
def pathText : Json → Except Failure Text
  | .text t => .ok t
  | v => .error (.notAPath v.kind)

/-- How the world outside is looked at: what is found at a place of the disk, and what comes of a request to an address. -/
structure Outside (m : Type → Type) where
  look : Place → m Found
  request : Text → m Exchange

namespace DeckSource

/-- A resource of a text as its path fetched. -/
def fetchText {m : Type → Type} [Monad m] (outside : Outside m) (source : DeckSource) (path : Text) : m Answer :=
  match source with
  | .directory s =>
    match s.placeOf path with
    | .error failure => pure (.error failure)
    | .ok place => return DirectorySource.answerOf path place (← outside.look place)
  | .web s =>
    match s.addressOf path with
    | .error failure => pure (.error failure)
    | .ok address => return WebSource.answerOf path (← outside.request address)

/-- A resource fetched. -/
def fetch {m : Type → Type} [Monad m] (outside : Outside m) (source : DeckSource) (path : Json) : m Answer :=
  match pathText path with
  | .error failure => pure (.error failure)
  | .ok t => source.fetchText outside t

end DeckSource

end Flashcards

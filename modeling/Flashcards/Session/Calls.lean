import Flashcards.Cache
import Flashcards.Session.Basic

/-!
# Calls to a session

A session is called to load the models that all decks share, to select a deck, or to change the mode. Calls may overlap: each is cut
into jobs where it waits, and jobs of different calls run in any order (`SessionDesk.program`).

A call that selects a deck asks for the deck's data and for its notes at the same time, and goes on when both have arrived. Then it
asks for the deck's models, if it has any, and brings the selection to its end. If both the data and the notes fail, the failure of
the data is the one that counts. Models that cannot be fetched are done without; any other failure of theirs ends the call.
-/

namespace Flashcards

open Text

/-- What a session is called to do. -/
inductive Request where
  | loadRootModels
  | select (node : DeckNode)
  /-- To show cards in the mode that a value names, and so to select the current deck anew. -/
  | setMode (value : Json)

/-- What a call comes to. -/
inductive CallResult where
  | loaded (found : Bool)
  | shown (result : DeckResult)
  /-- There was no deck to show. -/
  | nothing

/-- What a call waits for at the cache, with what it needs to go on. -/
inductive Waiter where
  | rootModels (call : Nat)
  | deckData (call : Nat)
  | deckModels (selection : Selection) (notes : List Note)

/-- A fetch: of a resource for the cache, or of the notes of a deck for a call. -/
inductive Fetch where
  | resource (path : Json)
  | notes (call : Nat) (path : Text)

/-- The path that a fetch asks for. -/
def Fetch.path : Fetch → Json
  | .resource path => path
  | .notes _ path => .text path

/-- A selection for which the deck's data and its notes are being gathered, with what has arrived. -/
structure Gathering where
  selection : Selection
  data : Option Outcome
  notes : Option Answer

/-- The jobs of calls. -/
inductive CallJob where
  | begin (call : Nat) (request : Request)
  | askData (call : Nat) (path : Text)
  | askNotes (call : Nat) (path : Text)
  | dataArrived (call : Nat) (outcome : Outcome)
  | notesArrived (call : Nat) (answer : Answer)
  | gathered (selection : Selection) (data : Outcome) (notes : Answer)
  | chore (chore : Chore Waiter)

/-- A session with its cache and its calls: what is being gathered, how many calls there have been, and what those that have ended
came to, in the order in which they ended. -/
structure SessionDesk where
  session : Session
  /-- The path of the models that all decks share. -/
  rootModels : Json
  cache : Cache Waiter
  gathering : List Gathering
  calls : Nat
  ended : List (Nat × Except Failure CallResult)

namespace SessionDesk

/-- What a job of a session's calls leaves. -/
abbrev Step := Turn SessionDesk CallJob Fetch

/-- A session that has shown nothing, before any call. -/
def fresh (mode : RenderMode) (rootModels : Json) : SessionDesk := ⟨Session.fresh mode, rootModels, Cache.empty, [], 0, []⟩

/-- The session changed. -/
def change (f : Session → Session) (d : SessionDesk) : SessionDesk := { d with session := f d.session }

/-- A call ended. -/
def finish (call : Nat) (result : Except Failure CallResult) (d : SessionDesk) : SessionDesk :=
  { d with ended := d.ended ++ [(call, result)] }

/-- A call ended, with the state of the session that it leaves. -/
def conclude {α : Type} (call : Nat) (wrap : α → CallResult) (r : Session × Except Failure α) (d : SessionDesk) : SessionDesk :=
  { d with session := r.1 }.finish call (r.2.map wrap)

/-- A request at the cache: what is done when it is answered at once is given. -/
def ask (waiter : Waiter) (path : Json) (answered : Outcome → Step) (d : SessionDesk) : Step :=
  match d.cache.ask waiter path with
  | (_, .now outcome) => answered outcome
  | (cache, .later chores) => ⟨{ d with cache := cache }, chores.map .chore, []⟩

/-! ## The stages of calls -/

/-- The call for the models that all decks share brought to its end. -/
def rootModelsCame (call : Nat) (outcome : Outcome) (d : SessionDesk) : SessionDesk :=
  match Optional.ofOutcome outcome with
  | .error failure => d.finish call (.error failure)
  | .ok found => d.conclude call .loaded (d.session.takeRootModels found.data?)

/-- A call for the models that all decks share begun. -/
def beginRootModels (call : Nat) (d : SessionDesk) : Step :=
  if d.rootModels.isBlank then .rest (d.conclude call .loaded (d.session.takeRootModels none))
  else d.ask (.rootModels call) d.rootModels fun outcome => .rest (d.rootModelsCame call outcome)

/-- The selection of a deck begun: its data and its notes are asked for. -/
def beginSelect (call : Nat) (node : DeckNode) (d : SessionDesk) : Step :=
  let session := d.session.select node
  let d := { d with session := session, gathering := d.gathering ++ [⟨⟨call, node, session.token⟩, none, none⟩] }
  ⟨d, [.askData call node.deckPath, .askNotes call node.notesHtmlPath], []⟩

/-- A change of mode begun: the deck that is shown is selected anew. A value that names no mode changes nothing. -/
def beginSetMode (call : Nat) (value : Json) (d : SessionDesk) : Step :=
  match RenderMode.ofJson value with
  | .error failure => .rest (d.finish call (.error failure))
  | .ok mode =>
    let d := d.change fun s => { s with mode := mode }
    match d.session.current with
    | none => .rest (d.finish call (.ok .nothing))
    | some node => d.beginSelect call node

/-- A call begun. -/
def begin (call : Nat) (d : SessionDesk) : Request → Step
  | .loadRootModels => d.beginRootModels call
  | .select node => d.beginSelect call node
  | .setMode value => d.beginSetMode call value

/-- A gathering changed by what has arrived for it; when both parts are there, the call goes on. -/
def arrive (call : Nat) (f : Gathering → Gathering) (d : SessionDesk) : Step :=
  let gathering := d.gathering.map fun g => if g.selection.call = call then f g else g
  match gathering.find? fun g => g.selection.call == call with
  | some ⟨selection, some data, some notes⟩ =>
    ⟨{ d with gathering := gathering.filter fun g => g.selection.call != call }, [.gathered selection data notes], []⟩
  | _ => .rest { d with gathering := gathering }

/-- The selection of a deck failed, and with it the call ended. -/
def failSelection (selection : Selection) (failure : Failure) (d : SessionDesk) : SessionDesk :=
  let (session, result) := d.session.fail selection failure
  { d with session := session }.finish selection.call (.ok (.shown result))

/-- The selection of a deck brought to its end. -/
def showDeck (selection : Selection) (notes : List Note) (models : Option Json) (d : SessionDesk) : SessionDesk :=
  d.conclude selection.call .shown (d.session.showDeck selection notes models)

/-- The models of a deck came, or could not. -/
def deckModelsCame (selection : Selection) (notes : List Note) (outcome : Outcome) (d : SessionDesk) : SessionDesk :=
  match Optional.ofOutcome outcome with
  | .error failure => d.finish selection.call (.error failure)
  | .ok found => d.showDeck selection notes found.data?

/-- The notes of a deck are there: its models are asked for, if it has any. -/
def askModels (selection : Selection) (notes : List Note) (d : SessionDesk) : Step :=
  let path := selection.node.modelsPath
  if path.isBlank then .rest (d.showDeck selection notes none)
  else d.ask (.deckModels selection notes) path fun outcome => .rest (d.deckModelsCame selection notes outcome)

/-- The notes in what has been gathered. -/
def notesOf (data : Outcome) (notes : Answer) : Except Failure (List Note) := do
  let _ ← data
  readNotes (← notes)

/-- The data of a deck and its notes are there, or could not be. -/
def gathered (selection : Selection) (data : Outcome) (notes : Answer) (d : SessionDesk) : Step :=
  match notesOf data notes with
  | .error failure => .rest (d.failSelection selection failure)
  | .ok notes => d.askModels selection notes

/-- One who waits at the cache told an outcome. -/
def wake (outcome : Outcome) (d : SessionDesk) : Waiter → Step
  | .rootModels call => .rest (d.rootModelsCame call outcome)
  | .deckData call => ⟨d, [.dataArrived call outcome], []⟩
  | .deckModels selection notes => .rest (d.deckModelsCame selection notes outcome)

/-! ## The program -/

/-- A job of a call run. -/
def perform : CallJob → SessionDesk → Step
  | .begin call request, d => d.begin call request
  | .askData call path, d => d.ask (.deckData call) (.text path) fun outcome => ⟨d, [.dataArrived call outcome], []⟩
  | .askNotes call path, d => ⟨d, [], [.notes call path]⟩
  | .dataArrived call outcome, d => d.arrive call fun g => { g with data := some outcome }
  | .notesArrived call answer, d => d.arrive call fun g => { g with notes := some answer }
  | .gathered selection data notes, d => d.gathered selection data notes
  | .chore (.load path), d => ⟨{ d with cache := d.cache.beginFetch }, [], [.resource path]⟩
  | .chore (.forget path), d => .rest { d with cache := d.cache.forget path }
  | .chore (.wake waiter outcome), d => d.wake outcome waiter

/-- The answer to a fetch received. -/
def receive : Fetch → Answer → SessionDesk → Step
  | .resource path, answer, d =>
    let (cache, chores) := d.cache.finish path answer
    ⟨{ d with cache := cache }, chores.map .chore, []⟩
  | .notes call _, answer, d => ⟨d, [.notesArrived call answer], []⟩

/-- The work of calls to a session. -/
def program : Program SessionDesk CallJob Fetch := ⟨perform, receive, Fetch.path⟩

end SessionDesk

/-- The calls to a session under way. -/
abbrev SessionAgenda := Agenda SessionDesk CallJob Fetch

namespace SessionAgenda

/-- A session that has shown nothing, with no calls. -/
def fresh (mode : RenderMode) (rootModels : Json) : SessionAgenda := Agenda.idle (SessionDesk.fresh mode rootModels)

/-- A call made. Its number is how many calls there were before it. -/
def call (request : Request) (a : SessionAgenda) : SessionAgenda :=
  Agenda.add (.begin a.state.calls request) (a.change fun d => { d with calls := d.calls + 1 })

/-- How many steps are enough for all calls under way: each job, each fetch that is out and each who waits leads to fewer than twenty
more. -/
def enough (a : SessionAgenda) : Nat := 20 * (a.ready.length + a.out.length + a.state.cache.waiting)

/-- The calls worked off as far as the source has answers. -/
def settle (source : Json → Option Answer) (a : SessionAgenda) : SessionAgenda :=
  Agenda.settle SessionDesk.program source (enough a) a

/-- The calls worked off to their ends, each fetch waited for. -/
def settleWith {m : Type → Type} [Monad m] (fetch : Json → m Answer) (a : SessionAgenda) : m SessionAgenda :=
  Agenda.settleWith SessionDesk.program fetch (enough a) a

/-- What a call has come to, if it has ended. -/
def result? (number : Nat) (a : SessionAgenda) : Option (Except Failure CallResult) :=
  (a.state.ended.find? fun e => e.1 == number).map (·.2)

end SessionAgenda

end Flashcards

import Flashcards.Card
import Flashcards.Manifest
import Flashcards.ModelRegistry

/-!
# Sessions

A session shows one deck after the other on one page. The models it has seen and the addresses it has claimed only grow; the cards,
the waiting scripts and the scripts run belong to the deck that is shown, or that could not be.

A deck is selected in two steps with a wait between them. `Session.select` makes the page say that the deck is being loaded and
numbers the selection. When all is there, `Session.showDeck` renders the notes, and when something is missing, `Session.fail` says so;
both leave the page alone if another selection has come in between, whose number is higher.

The cards of the session are the very elements that stand in the page. When the page takes them away, the session keeps them as they
were then (`Session.cards`).
-/

namespace Flashcards

open Text

/-! ## Results -/

/-- How the selection of a deck ended. -/
inductive DeckStatus where
  | rendered
  | empty
  | failed
  /-- Another selection had begun before this one was done. -/
  | superseded
  deriving DecidableEq, Repr

/-- The name of a status. -/
def DeckStatus.name : DeckStatus → Text
  | .rendered => "rendered"
  | .empty => "empty"
  | .failed => "failed"
  | .superseded => "superseded"

/-- What came of the selection of a deck. -/
structure DeckResult where
  deck : DeckNode
  status : DeckStatus
  cards : List Card
  scriptsRun : Nat
  error : Option Failure

/-- The kinds of notices. -/
inductive NoticeKind where
  | log
  | progress
  deriving DecidableEq, Repr

/-- What a session says about its progress: words, and for a notice of progress a percentage. -/
structure Notice where
  kind : NoticeKind
  message : Text
  value : Binary64
  deriving DecidableEq

/-- The notice that some of all notes have been rendered. -/
def Notice.progress (message : Text) (done total : Nat) : Notice :=
  ⟨.progress, message, Binary64.scale (Binary64.ofRatio false done total) 100⟩

/-- A notice without a percentage. -/
def Notice.log (message : Text) : Notice := ⟨.log, message, Binary64.zero false⟩

/-! ## State -/

/-- Where the cards of a session are: they stand in the page, which has their elements, and show these sides; or they have been taken
away. -/
inductive Deal where
  | standing (sides : List (Option Side))
  | taken (cards : List Card)

/-- The selection of a deck, by a call. Selections are numbered in the order in which they begin. -/
structure Selection where
  call : Nat
  node : DeckNode
  token : Nat

/-- The state of a session. -/
structure Session where
  mode : RenderMode
  workspace : Workspace
  models : ModelRegistry
  current : Option DeckNode
  deal : Deal
  token : Nat
  notices : List Notice

namespace Session

/-- A session that has shown nothing. -/
def fresh (mode : RenderMode) : Session := ⟨mode, Workspace.blank, ModelRegistry.empty, none, .taken [], 0, []⟩

/-- The page of a session. -/
def page (s : Session) : Page := s.workspace.page

/-- The cards of a session with what they show. -/
def cards (s : Session) : List Card :=
  match s.deal with
  | .standing sides => s.page.cards.zipWith Card.mk sides
  | .taken cards => cards

/-- The sides that the cards show. -/
def sides (s : Session) : List (Option Side) :=
  match s.deal with
  | .standing sides => sides
  | .taken cards => cards.map Card.side

/-- The page changed. -/
def onPage (change : Page → Page) (s : Session) : Session := { s with workspace := s.workspace.onPage change }

/-- A notice given. -/
def notify (n : Notice) (s : Session) : Session := { s with notices := s.notices ++ [n] }

/-! ## Cards and models -/

/-- Nodes of which one, at a position, is turned to a side. -/
def turnAt (i : Nat) (side : Side) (nodes : List Markup.Node) : List Markup.Node := nodes.modify i (Card.turnTo side)

/-- A click on the card at a position, which has to be there. One that has no other side stays as it is. -/
def click (i : Nat) (s : Session) : Session :=
  match s.deal with
  | .taken cards => { s with deal := .taken (cards.modify i Card.click) }
  | .standing sides =>
    match sides[i]? with
    | some (some side) =>
      let s := s.onPage fun p => p.showNodes (turnAt i side.toggle p.cards)
      { s with deal := .standing (sides.set i (some side.toggle)) }
    | _ => s

/-- Models registered, and the libraries of their templates taken in. What has been done before a template cannot be hoisted stays. -/
def register (models : List NoteModel) (s : Session) : Session × Option Failure :=
  let (workspace, failure) := s.workspace.preload models
  ({ s with models := s.models.merge models, workspace := workspace }, failure)

/-- A fragment stripped of its resources, which are taken into the page of the session. -/
def strip (librariesOnly : Bool) (fragment : Text) (s : Session) : Session × Except Failure Text :=
  let (workspace, left) := s.workspace.strip librariesOnly fragment
  ({ s with workspace := workspace }, left)

/-- A fragment hoisted into the page of the session. -/
def hoist (librariesOnly : Bool) (fragment : Text) (s : Session) : Except Failure (Text × Session) :=
  (s.workspace.hoist librariesOnly fragment).map fun r => (r.1, { s with workspace := r.2 })

/-! ## Selecting a deck -/

/-- The selection of a deck begun: it gets the next number, and the page says that the deck is being loaded. -/
def select (node : DeckNode) (s : Session) : Session :=
  let waiting (p : Page) : Page := (((p.setTitle node.name).setControls s.mode.name).showMessage Chrome.loading).1
  { s.onPage waiting with token := s.token + 1, current := some node, deal := .taken s.cards }

/-- Whether a selection is the newest. -/
def isNewest (selection : Selection) (s : Session) : Bool := selection.token == s.token

/-- The result of a selection that another one has overtaken. -/
def superseded (selection : Selection) (error : Option Failure) : DeckResult :=
  ⟨selection.node, .superseded, [], 0, error⟩

/-- A message put in the place of the cards, which has to be markup that is not rejected. -/
def showMessage (markup : Text) (s : Session) : Session := s.onPage fun p => (p.showMessage markup).1

/-- The selection of a deck failed: the page says so, if the selection is still the newest. -/
def fail (selection : Selection) (failure : Failure) (s : Session) : Session × DeckResult :=
  if s.isNewest selection then
    let s := { s with deal := .taken [], workspace := (s.workspace.onPage Page.resetScripts).dropDeferred }
    (s.showMessage (Chrome.errorMarkup failure.message), ⟨selection.node, .failed, [], 0, some failure⟩)
  else (s, superseded selection (some failure))

/-- The page cleared for the cards of a deck. -/
def clearTable (s : Session) : Session :=
  { s with
    deal := .standing []
    workspace := (s.workspace.onPage fun p => p.clearCards.resetScripts).dropDeferred }

/-- A card put in the page. -/
def placeCard (card : Card) (s : Session) : Session :=
  let sides := match s.deal with
    | .standing sides => sides
    | .taken _ => []
  { s.onPage (Page.appendCard card.element) with deal := .standing (sides ++ [card.side]) }

/-- The notes of a deck rendered, of which some have been before. The first note that cannot be rendered ends it. -/
def renderFrom (node : DeckNode) (total : Nat) : (done : Nat) → List Note → Session → Session × Option Failure
  | _, [], s => (s, none)
  | done, note :: notes, s =>
    match Card.render note (s.models.resolve note) s.mode s.workspace with
    | (workspace, .error failure) => ({ s with workspace := workspace }, some failure)
    | (workspace, .ok card) =>
      let s := { s with workspace := workspace }
      renderFrom node total (done + 1) notes ((s.placeCard card).notify (Notice.progress node.name (done + 1) total))

/-- The waiting scripts run, in order. -/
def runDeferred (s : Session) : Session := s.onPage fun p => s.workspace.deferred.items.foldl (fun p t => p.runScript t) p

/-- What the log says when the notes of a deck have been rendered. -/
def renderedMessage (count : Nat) (node : DeckNode) (mode : RenderMode) : Text :=
  "Rendered " ++ ofNat count ++ " cards for " ++ node.name ++ " (" ++ mode.name ++ " mode)"

/-- The notes of a deck rendered on a cleared page, and the scripts they bring run. -/
def renderDeck (node : DeckNode) (notes : List Note) (s : Session) : Session × Except Failure DeckResult :=
  let s := s.clearTable
  if notes.isEmpty then ({ s with deal := .taken [] }.showMessage Chrome.noNotes, .ok ⟨node, .empty, [], 0, none⟩)
  else
    match s.renderFrom node notes.length 0 notes with
    | (s, some failure) => (s, .error failure)
    | (s, none) =>
      let s := s.runDeferred.notify (Notice.log (renderedMessage notes.length node s.mode))
      (s, .ok ⟨node, .rendered, s.cards, s.workspace.deferred.size, none⟩)

/-- The selection of a deck brought to its end when its notes are there, and its models, if it has any. The models are registered in
any case; the notes are rendered if the selection is still the newest. -/
def showDeck (selection : Selection) (notes : List Note) (models : Option Json) (s : Session) :
    Session × Except Failure DeckResult :=
  match s.register ((models.map NoteModel.listOf).getD []) with
  | (s, some failure) => (s, .error failure)
  | (s, none) =>
    if s.isNewest selection then s.renderDeck selection.node notes else (s, .ok (superseded selection none))

/-! ## The models that all decks share -/

/-- What the log says when the models that all decks share have been loaded. -/
def loadedMessage (count : Nat) : Text := "Loaded " ++ ofNat count ++ " root note models"

/-- The models that all decks share registered, if they are there; the answer tells whether they were. -/
def takeRootModels (resource : Option Json) (s : Session) : Session × Except Failure Bool :=
  match resource with
  | none => (s, .ok false)
  | some data =>
    let models := NoteModel.listOf data
    match s.register models with
    | (s, some failure) => (s, .error failure)
    | (s, none) => (s.notify (Notice.log (loadedMessage models.length)), .ok true)

end Session

end Flashcards

import Flashcards.Hoist
import Flashcards.RenderMode
import Flashcards.Template

/-!
# Cards

A card is an element: a container with what the note shows, and below it the note's tags, if it has any. A raw card is a table with a
row for each field. A templated card has two faces, of which one is shown, and a hint below them that says what a click will show; it
starts on its front, and a click is the only way to the other side.

The faces are found in what the templates make, which may be anything: the first face among the children of the card, or else the
first one anywhere in it.
-/

namespace Flashcards

open Text Markup

/-- The sides of a card. -/
inductive Side where
  | front
  | back
  deriving DecidableEq, Repr

namespace Side

/-- The name of a side. -/
def name : Side → Text
  | .front => "front"
  | .back => "back"

/-- The other side. -/
def toggle : Side → Side
  | .front => .back
  | .back => .front

/-- The side of a name. -/
def ofName (t : Text) : Except Failure Side :=
  if t = Side.front.name then .ok .front else if t = Side.back.name then .ok .back else .error (.unknownSide t)

/-- The class by which a face is found. -/
def faceClass : Side → Text
  | .front => "card-front"
  | .back => "card-back"

/-- What the hint says while a side is shown. -/
def hint : Side → Text
  | .front => Chrome.hintAnswer
  | .back => Chrome.hintQuestion

end Side

/-- A card: its element, and the side it shows if it has two. -/
structure Card where
  element : Node
  side : Option Side
  deriving DecidableEq

namespace Card

/-- Whether a card is made from a template. -/
def templated (c : Card) : Bool := c.side.isSome

/-! ## Faces -/

/-- Whether an element is a face of a side. -/
def isFace (side : Side) (n : Node) : Bool :=
  n.isNamed "div" && ((n.attribute? "class").map (AttributeValue.holds side.faceClass)).getD false

/-- Nodes with the face of a side among them changed. -/
def updateFace (side : Side) (f : Node → Node) (nodes : List Node) : List Node :=
  match Node.updateFirstChild? (isFace side) f nodes with
  | some nodes' => nodes'
  | none => (Node.updateFirstAmong? (isFace side) f nodes).getD nodes

/-- An element shown: it has no style of its own. -/
def reveal (n : Node) : Node := n.removeAttribute "style"

/-- An element hidden. -/
def hide (n : Node) : Node := n.setAttribute "style" (.text "display:none")

/-- Nodes of which the last is changed. -/
def updateLast (f : Node → Node) : List Node → List Node
  | [] => []
  | [n] => [f n]
  | n :: ns => n :: updateLast f ns

/-- The element with the faces, showing a side. -/
def showSide (side : Side) (n : Node) : Node :=
  let appearance (face : Side) : Node → Node := if face = side then reveal else hide
  let faces := updateFace .back (appearance .back) (updateFace .front (appearance .front) n.children)
  let hinted := updateLast (Node.withChildren [Page.plain side.hint]) faces
  (n.withChildren hinted).setAttribute "data-side" (.text side.name)

/-- The element of a templated card, showing a side: the faces are in its first child. -/
def turnTo (side : Side) : Node → Node
  | .element n as (faces :: rest) => .element n as (showSide side faces :: rest)
  | n => n

/-- The card after a click; one that has no other side stays as it is. -/
def click (c : Card) : Card :=
  match c.side with
  | none => c
  | some side => ⟨turnTo side.toggle c.element, some side.toggle⟩

/-! ## Making cards -/

/-- The bar of a note's tags, if it has any. -/
def tagBar (note : Note) : List Node :=
  if note.tags.isEmpty then []
  else [Page.classed "div" "card-tags" (note.tags.map fun t => Page.classed "span" "tag" [Page.plain t])]

/-- The element of a card with what the note shows. -/
def containerOf (shown : Node) (note : Note) : Node := Page.classed "div" "card-container" (shown :: tagBar note)

/-- The heading of a field at a position, counted from zero: its name, or its number. -/
def heading (names : List Text) (i : Nat) : Text := (names[i]?).getD ("Field " ++ ofNat (i + 1))

/-- The rows of fields from a position on. -/
def rowsFrom (names : List Text) : Nat → List Text → Except Failure (List Node)
  | _, [] => .ok []
  | i, field :: fields => do
    let content ← Page.fragment field
    let rows ← rowsFrom names (i + 1) fields
    pure (Page.element "tr" []
      [Page.element "th" [] [Page.plain (heading names i)], Page.element "td" [] content] :: rows)

/-- The raw card of a note: its fields under the names that its model gives them, if it has one. -/
def raw (note : Note) (model : Option NoteModel) : Except Failure Card := do
  let rows ← rowsFrom ((model.map NoteModel.fieldNames).getD []) 0 note.fields
  let shown := Page.classed "div" "card-render card-raw" [Page.element "table" [] rows]
  pure ⟨containerOf shown note, none⟩

/-- The markup of the two faces of a note, made from a template of its model. -/
def facesMarkup (note : Note) (model : NoteModel) (template : CardTemplate) : Text :=
  let sides := Template.sides template.question template.answer (Template.contextOf note model)
  Chrome.cardMarkup model.css sides.front sides.back

/-- The templated card of a note with given faces, on its front. -/
def ofFaces (faces : List Node) (note : Note) : Card :=
  let hint := Page.classed "div" "card-flip-hint" []
  let shown := (Page.classed "div" "card-render" (faces ++ [hint])).setAttribute "style" (.text "cursor:pointer")
  ⟨turnTo .front (containerOf shown note), some .front⟩

/-- The card of a note from a template of its model. What its faces give up is taken in also if no card can be made. -/
def fromTemplate (note : Note) (model : NoteModel) (template : CardTemplate) (w : Workspace) :
    Workspace × Except Failure Card :=
  match w.strip false (facesMarkup note model template) with
  | (w, .error failure) => (w, .error failure)
  | (w, .ok markup) => (w, (Page.fragment markup).map (ofFaces · note))

/-- The card of a note: from the template of its model if cards are shown by their models and there is one, else raw. -/
def render (note : Note) (model : Option NoteModel) (mode : RenderMode) (w : Workspace) : Workspace × Except Failure Card :=
  match mode, model with
  | .model, some m =>
    match m.firstTemplate? with
    | some template => fromTemplate note m template w
    | none => (w, raw note model)
  | _, _ => (w, raw note model)

end Card

end Flashcards

import Flashcards.Note
import Flashcards.NoteModel

/-!
# Templates

A template is markup with slots: a name between two pairs of braces, blanks around it aside, stands for the field of that name. A
slot whose name is not known stays as it is. What is put in is not looked at again, with one exception: the back of a card may show
the front, and every mark for the front in it becomes the front that has been made.

A text is first cut into pieces (`Template.pieces`), characters that stand for themselves and slots; then each piece is filled.
-/

namespace Flashcards

open Text

namespace Template

/-- A piece of a template: a character that stands for itself, or a slot with what is written between its braces. -/
inductive Piece where
  | char (c : Char)
  | slot (inside : Text)
  deriving DecidableEq, Repr

/-- A character that may stand in a slot. -/
def inSlot (c : Char) : Bool := !(c == '\x7b' || c == '\x7d')

/-- What is written in the slot that a text begins with, if it begins with one: at least one character. -/
def slotAt? : Text → Option Text
  | '\x7b' :: '\x7b' :: t =>
    match t.takeWhile inSlot, t.dropWhile inSlot with
    | [], _ => none
    | inside, '\x7d' :: '\x7d' :: _ => some inside
    | _, _ => none
  | _ => none

/-- The pieces of a text from a place on, where `skip` more characters belong to a slot. -/
def piecesFrom : Nat → Text → List Piece
  | _, [] => []
  | skip + 1, _ :: t => piecesFrom skip t
  | 0, c :: t =>
    match slotAt? (c :: t) with
    | some inside => .slot inside :: piecesFrom (inside.length + 3) t
    | none => .char c :: piecesFrom 0 t

/-- The pieces of a template, in order. -/
def pieces (t : Text) : List Piece := piecesFrom 0 t

/-- Texts by name, each name once. -/
abbrev Context := List (Text × Text)

/-- The text under a name. -/
def Context.find? (name : Text) (context : Context) : Option Text := Note.lookupText? name context

/-- A context with a text put under a name: in its place if the name is there, else at the end. -/
def Context.put (name value : Text) : Context → Context
  | [] => [(name, value)]
  | (n, t) :: rest => if n = name then (n, value) :: rest else (n, t) :: Context.put name value rest

/-- A slot as it is written. -/
def written (inside : Text) : Text := ['\x7b', '\x7b'] ++ inside ++ ['\x7d', '\x7d']

/-- A piece filled from a context. -/
def fill (context : Context) : Piece → Text
  | .char c => [c]
  | .slot inside => (Context.find? (strip inside) context).getD (written inside)

/-- A template filled from a context. -/
def apply (context : Context) (template : Text) : Text := (pieces template).flatMap (fill context)

/-! ## Cards -/

/-- The name under which templates see the tags of a note. -/
def tagsName : Text := "Tags"

/-- The context of a note of a model: its fields under the model's names for them, by position, and its tags. -/
def contextOf (note : Note) (model : NoteModel) : Context :=
  let named : Context := (note.fields.zip model.fieldNames).foldl (fun context f => Context.put f.2 f.1 context) []
  Context.put tagsName note.tagsText named

/-- The mark for the front in the template of a back. -/
def frontMark : Text := written "FrontSide"

/-- The two sides of a card. -/
structure Sides where
  front : Text
  back : Text
  deriving DecidableEq

/-- The sides of a card from the templates of its question and its answer. -/
def sides (question answer : Text) (context : Context) : Sides :=
  let front := apply context question
  ⟨front, replaceAll frontMark front (apply context answer)⟩

end Template

end Flashcards

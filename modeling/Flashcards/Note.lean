import Flashcards.Json.Plain
import Flashcards.Json.Reader
import Flashcards.Failure
import Flashcards.Markup.Tree
import Flashcards.Markup.Query
import Flashcards.Markup.Writer
import Flashcards.Encoding.Detect

/-!
# Notes

A note is the source of one card: a few attributes, the contents of its fields by position, its tags, and extra values by name. The
notes of a deck come as one markup document: the first element of class `cards` holds one element of class `card` for each note,
and that holds an element of class `field` for each field, in order, one of class `tags`, and one of class `extra` for each extra
value, under the name in its attribute `key`.

A field is what its element holds as markup, with the bare content of the texts that stand directly in it. Tags are the distinct
words of the text of their element. An extra value is JSON where its text is, and else the text itself.
-/

namespace Flashcards

open Text Markup

/-- The source of one card. -/
structure Note where
  attributes : List (Text × Text)
  fields : List Text
  tags : List Text
  extra : List (Text × Json)
  deriving DecidableEq

namespace Note

/-- The attributes a note takes from the element of its card, in order. -/
def attributeNames : List Text := ["guid", "note_model_uuid", "deck_name"]

/-- The value under a name among texts by name. -/
def lookupText? (name : Text) : List (Text × Text) → Option Text
  | [] => none
  | (n, t) :: rest => if n = name then some t else lookupText? name rest

/-- The name by which a note is known. -/
def guid (n : Note) : Option Text := lookupText? "guid" n.attributes

/-- The first reference to the note's model. -/
def modelUuid (n : Note) : Option Text := lookupText? "note_model_uuid" n.attributes

/-- The second reference to the note's model: an extra value, unless that is a list or an object. -/
def modelId (n : Note) : Option Text :=
  match Json.find? "note_model_id" n.extra with
  | none | some .null | some (.list _) | some (.object _) => none
  | some v => some v.plain

/-- The tags with a space between each two. -/
def tagsText (n : Note) : Text := joinWith [' '] n.tags

/-! ## Reading a document -/

/-- The distinct words of a text in the order in which they first occur. -/
def splitTags (t : Text) : List Text := distinct (words t)

/-- An extra value: what its text is as JSON, or the text itself if it is none. -/
def decodeExtra (t : Text) : Json :=
  match Json.readStrict t with
  | .ok v => v
  | .error _ => .text t

/-- The attributes of a note that the element of its card has. -/
def attributesOf (card : Node) : List (Text × Text) :=
  attributeNames.filterMap fun name => (card.attributeText? name).map (name, ·)

/-- The extra values of a note with the one of an element put among them; an element without a name adds none. -/
def putExtra (extra : List (Text × Json)) (element : Node) : List (Text × Json) :=
  match element.attributeText? "key" with
  | none | some [] => extra
  | some key => Json.put key (decodeExtra element.textContent) extra

/-- The note of the element of its card. -/
def ofCard (card : Node) : Note where
  attributes := attributesOf card
  fields := (card.childrenWithClass "field").map Node.innerShown
  tags := ((card.childWithClass? "tags").map fun e => splitTags e.textContent).getD []
  extra := (card.childrenWithClass "extra").foldl putExtra []

/-- The notes in a document tree; a document without an element for its cards has none. -/
def ofNodes (nodes : List Node) : List Note :=
  match (rootOf nodes).findClass? "cards" with
  | none => []
  | some container => (container.childrenWithClass "card").map ofCard

end Note

/-- The nodes of a notes document. -/
def documentNodes (t : Text) : Except Failure (List Node) := (parse t).mapError (Failure.ofMarkup .malformedMarkup)

/-- The tree of a notes document, under one root. -/
def readMarkup (t : Text) : Except Failure Node := (documentNodes t).map rootOf

/-- The notes of a document, in order. -/
def readNotes (t : Text) : Except Failure (List Note) := (documentNodes t).map Note.ofNodes

/-- A notes document as it may be given: as text, as bytes, or as a value that is neither. -/
inductive NotesDocument where
  | text (t : Text)
  | bytes (b : Bytes)
  | other (kind : Json.Kind)
  deriving DecidableEq

namespace NotesDocument

/-- The text of a document. Bytes are read in the encoding that they show themselves to be in (`Encoding.readDocument`). -/
def toText : NotesDocument → Except Failure Text
  | .text t => .ok t
  | .bytes b => .ok (Encoding.readDocument b)
  | .other kind => .error (.notMarkup kind)

/-- The nodes of a document. -/
def nodes (d : NotesDocument) : Except Failure (List Node) := d.toText >>= documentNodes

/-- The tree of a document, under one root. -/
def root (d : NotesDocument) : Except Failure Node := d.toText >>= readMarkup

/-- The notes of a document, in order. -/
def notes (d : NotesDocument) : Except Failure (List Note) := d.toText >>= readNotes

end NotesDocument

end Flashcards

import Flashcards.Failure

/-!
# Models

A model says what the notes of one type look like: the names of their fields by position, the templates of their cards, and a style
sheet. It is known by a name that is unique everywhere, by a number, or by both; a number counts as its decimal text.

Model resources are read with patience: what is missing or of another kind than expected is taken by its plain text, or as empty.
-/

namespace Flashcards

open Text

/-- A template: what the two sides of a card are made from. -/
structure CardTemplate where
  name : Text
  question : Text
  answer : Text
  deriving DecidableEq, Repr

/-- What the notes of one type look like. -/
structure NoteModel where
  uuid : Option Text
  id : Option Text
  name : Text
  fieldNames : List Text
  templates : List CardTemplate
  css : Text
  deriving DecidableEq, Repr

namespace NoteModel

/-- The keys a model is known by. -/
def identifiers (m : NoteModel) : List Text := (m.uuid.toList ++ m.id.toList).filter nonEmpty

/-- The template cards are made from. -/
def firstTemplate? (m : NoteModel) : Option CardTemplate := m.templates.head?

/-! ## Reading -/

/-- A value as a key: null, a truth value, a list, an object and an empty text are none. -/
def keyOf? : Json → Option Text
  | .null | .bool _ | .list _ | .object _ => none
  | v => if v.plain.isEmpty then none else some v.plain

/-- The items of a list that are objects; what is no list has none. -/
def objectsOf : Json → List (List (Text × Json))
  | .list items => items.filterMap fun v => match v with
    | .object entries => some entries
    | _ => none
  | _ => []

/-- The name of a field by its definition: empty if the definition gives none. -/
def fieldName (definition : List (Text × Json)) : Text := ((Json.find? "name" definition).map Json.plain).getD []

/-- The plain text under a name, empty where the value is blank. -/
def textField (name : Text) (entries : List (Text × Json)) : Text := (Json.field name entries).plainOr []

/-- A template by its definition. -/
def templateOf (definition : List (Text × Json)) : CardTemplate :=
  ⟨textField "name" definition, textField "qfmt" definition, textField "afmt" definition⟩

/-- A model by its definition. -/
def ofEntries (entries : List (Text × Json)) : NoteModel where
  uuid := keyOf? (Json.field "crowdanki_uuid" entries)
  id := keyOf? (Json.field "id" entries)
  name := textField "name" entries
  fieldNames := (objectsOf (Json.field "flds" entries)).map fieldName
  templates := (objectsOf (Json.field "tmpls" entries)).map templateOf
  css := textField "css" entries

/-- The model a value defines, which has to be an object. -/
def ofJson : Json → Except Failure NoteModel
  | .object entries => .ok (ofEntries entries)
  | v => .error (.notAnObject v.kind)

/-- The models of a resource: those in its list `note_models` that are defined by objects. -/
def listOf : Json → List NoteModel
  | .object entries => (objectsOf (Json.field "note_models" entries)).map ofEntries
  | _ => []

end NoteModel

end Flashcards

import Flashcards.Note
import Flashcards.NoteModel

/-!
# The registry of models

Models are registered under every key they are known by. A model registered later takes the place of an earlier one under the same
key, so that the models of a deck go before those that all decks share; the key keeps its place in the order of keys.

A note refers to its model by a first and a second reference. The second counts where the first leads nowhere.
-/

namespace Flashcards

open Text

/-- The models by key, each key once, in the order in which keys first occurred. -/
structure ModelRegistry where
  entries : List (Text × NoteModel)
  deriving DecidableEq

namespace ModelRegistry

/-- The registry without models. -/
def empty : ModelRegistry := ⟨[]⟩

/-- The keys in order. -/
def keys (r : ModelRegistry) : List Text := r.entries.map (·.1)

/-- How many keys there are. -/
def size (r : ModelRegistry) : Nat := r.entries.length

/-- The model under a key. -/
def get? (key : Text) (r : ModelRegistry) : Option NoteModel := (r.entries.find? (·.1 == key)).map (·.2)

/-- Whether there is a model under a key. -/
def contains (key : Text) (r : ModelRegistry) : Bool := r.keys.contains key

/-- Entries with a model put under a key: in its place if the key is there, else at the end. -/
def putEntry (key : Text) (model : NoteModel) : List (Text × NoteModel) → List (Text × NoteModel)
  | [] => [(key, model)]
  | (k, m) :: rest => if k = key then (k, model) :: rest else (k, m) :: putEntry key model rest

/-- The registry with a model put under a key. -/
def put (model : NoteModel) (r : ModelRegistry) (key : Text) : ModelRegistry := ⟨putEntry key model r.entries⟩

/-- The registry with a model under each of its keys. -/
def register (r : ModelRegistry) (model : NoteModel) : ModelRegistry := model.identifiers.foldl (put model) r

/-- The registry with models registered in order. -/
def merge (models : List NoteModel) (r : ModelRegistry) : ModelRegistry := models.foldl register r

/-- How many keys are written when models are registered. -/
def keysWritten (models : List NoteModel) : Nat := (models.flatMap NoteModel.identifiers).length

/-- The model that a reference leads to; no reference and an empty one lead nowhere. -/
def lookup (reference : Option Text) (r : ModelRegistry) : Option NoteModel :=
  match reference with
  | none => none
  | some key => if key.isEmpty then none else r.get? key

/-- The model of a note. -/
def resolve (note : Note) (r : ModelRegistry) : Option NoteModel :=
  match r.lookup note.modelUuid with
  | some model => some model
  | none => r.lookup note.modelId

/-- The distinct models in the order of their first keys. -/
def models (r : ModelRegistry) : List NoteModel :=
  r.entries.foldl (fun seen e => if e.2 ∈ seen then seen else seen ++ [e.2]) []

end ModelRegistry

end Flashcards

import Flashcards.Failure
import Flashcards.Text.Word

/-!
# Manifests

A manifest is a tree of decks. Each node has a name and the paths of its resources, and its own path is the chain of names that
leads to it, with slashes between them. A node that does not say where its notes are has them beside its deck data.

A manifest is written as JSON, or as a script that assigns the JSON to a variable.
-/

namespace Flashcards

open Text

/-- A node of the tree of decks. The paths of the notes' source and of the models are used as they stand, whatever they are; null
stands for no path of models. -/
structure DeckNode where
  name : Text
  deckPath : Text
  notesHtmlPath : Text
  notesPath : Json
  modelsPath : Json
  path : Text
  children : List DeckNode

/-! ## Paths with slashes -/

namespace Text

/-- The part of a path before its last name, without the slashes at its end unless there is nothing else. -/
def directory (p : Text) : Text :=
  let head := trimEnd (· != '/') p
  if head.all (· == '/') then head else trimEnd (· == '/') head

/-- A name within a directory. -/
def within (directory name : Text) : Text :=
  if directory.isEmpty then name
  else if directory.getLast? = some '/' then directory ++ name
  else directory ++ ['/'] ++ name

/-- A path without the slashes at its two ends. -/
def stripSlashes (p : Text) : Text := trim (· == '/') p

end Text

namespace DeckNode

/-! ## Reading -/

/-- The path of a node below another: the names with a slash between them, or the name alone where there is no path above. -/
def pathBelow (above name : Text) : Text := if above.isEmpty then name else above ++ ['/'] ++ name

/-- The name of a node by its definition: empty if the definition gives none. -/
def nameOf (entries : List (Text × Json)) : Text := ((Json.find? "name" entries).map Json.plain).getD []

/-- The node of a definition, given its path and its children. -/
def ofFields (entries : List (Text × Json)) (path : Text) (children : List DeckNode) : DeckNode :=
  let deckPath := (Json.field "deckPath" entries).plainOr "deck.json"
  { name := nameOf entries
    deckPath := deckPath
    notesHtmlPath := (Json.field "notesHtmlPath" entries).plainOr (within (directory deckPath) "notes.html")
    notesPath := Json.field "notesPath" entries
    modelsPath := if (Json.field "modelsPath" entries).isBlank then .null else Json.field "modelsPath" entries
    path := path
    children := children }

mutual

/-- The node that a value defines below a path; it has to be an object. -/
def ofJson (above : Text) : Json → Except Failure DeckNode
  | .object entries => do
    let path := pathBelow above (nameOf entries)
    let children ← childrenIn path entries
    pure (ofFields entries path children)
  | .null => .error (.notAnObject .null)
  | .bool _ => .error (.notAnObject .bool)
  | .int _ => .error (.notAnObject .int)
  | .float _ => .error (.notAnObject .float)
  | .text _ => .error (.notAnObject .text)
  | .list _ => .error (.notAnObject .list)

/-- The children in a definition: what its first entry of that name lists. -/
def childrenIn (path : Text) : List (Text × Json) → Except Failure (List DeckNode)
  | [] => .ok []
  | (name, v) :: entries => if name = "children" then childrenOf path v else childrenIn path entries

/-- The children a value lists. A blank value lists none, and so does a text or an object, which have items that are no objects;
another value has no items at all. -/
def childrenOf (path : Text) : Json → Except Failure (List DeckNode)
  | .list items => childrenAmong path items
  | .null | .text _ | .object _ => .ok []
  | .bool b => if b then .error (.notIterable .bool) else .ok []
  | .int n => if n = 0 then .ok [] else .error (.notIterable .int)
  | .float x => if x.isZero then .ok [] else .error (.notIterable .float)

/-- The nodes of the items that are objects. -/
def childrenAmong (path : Text) : List Json → Except Failure (List DeckNode)
  | [] => .ok []
  | v :: items =>
    if v.kind = .object then do
      let child ← ofJson path v
      let others ← childrenAmong path items
      pure (child :: others)
    else childrenAmong path items

end

/-! ## Going through the tree -/

mutual

/-- The node and all nodes below it, each before those below it. -/
def walk : DeckNode → List DeckNode
  | ⟨name, deckPath, notesHtmlPath, notesPath, modelsPath, path, children⟩ =>
    ⟨name, deckPath, notesHtmlPath, notesPath, modelsPath, path, children⟩ :: walkAll children

/-- Nodes and all nodes below them. -/
def walkAll : List DeckNode → List DeckNode
  | [] => []
  | n :: ns => walk n ++ walkAll ns

end

/-- The first node at a path. -/
def at? (path : Text) (root : DeckNode) : Option DeckNode := root.walk.find? (·.path == path)

/-- The node at a path of names, with or without the name of the root in front. Slashes at the ends of the path do not count. -/
def find? (path : Text) (root : DeckNode) : Option DeckNode :=
  let wanted := stripSlashes path
  match root.at? wanted with
  | some n => some n
  | none => root.at? (if wanted.isEmpty then root.name else root.name ++ ['/'] ++ wanted)

end DeckNode

/-! ## Manifest texts -/

namespace Manifest

/-- The text after the assignment to a variable that it begins with, up to the brace of the value; the variable may be a property
of the window. -/
def afterAssignment? (t : Text) : Option Text :=
  let start := t.dropWhile isBlank
  let named := (dropPrefix? "window." start).getD start
  if (named.takeWhile isWord).isEmpty then none
  else match (named.dropWhile isWord).dropWhile isBlank with
    | '=' :: rest =>
      let value := rest.dropWhile isBlank
      if value.head? = some '\x7b' then some value else none
    | _ => none

/-- A text without the semicolon it ends in, if it does, and without blanks before and after that. -/
def dropSemicolon (t : Text) : Text :=
  let trimmed := trimEnd isBlank t
  if trimmed.getLast? = some ';' then trimEnd isBlank trimmed.dropLast else trimmed

/-- The JSON in a script that assigns it; nothing where the text is no such script. -/
def assigned? (t : Text) : Option Text :=
  match afterAssignment? t with
  | none => none
  | some value =>
    let body := dropSemicolon value
    if body.getLast? = some '\x7d' then some body else none

/-- The tree of decks that a manifest writes. -/
def read (t : Text) : Except Failure DeckNode :=
  match Json.read ((assigned? t).getD t) with
  | .error fault => .error (.badJson fault)
  | .ok (.object entries) => DeckNode.ofJson [] (.object entries)
  | .ok _ => .error .manifestNotObject

end Manifest

end Flashcards

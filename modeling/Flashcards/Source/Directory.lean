import Flashcards.Agenda
import Flashcards.Encoding.Utf8

/-!
# Decks in a directory

The resources of a deck may be files below one directory, the root. A path is followed name by name from the root, without looking at
the disk; where it leads out of the root, nothing is read. Files are read as UTF-8, and each way to end a line counts as a line feed.
-/

namespace Flashcards

open Text

/-- A place on a disk: the names that lead to it from the top. -/
abbrev Place := List Text

namespace Place

/-- The place as an absolute path. -/
def toText (p : Place) : Text := '/' :: joinWith ['/'] p

/-- The place to which names lead from another. Empty names and single points are passed over, and two points lead one up. -/
def follow : Place → List Text → Except Failure Place
  | p, [] => .ok p
  | p, name :: names =>
    if name.isEmpty || name = "." then follow p names
    else if name = ".." then follow p.dropLast names
    else if name.contains '\x00' then .error .zeroInPath
    else follow (p ++ [name]) names

/-- The place a path names for someone who stands at a place. -/
def ofPath (here : Place) (path : Text) : Except Failure Place :=
  follow (if path.head? = some '/' then [] else here) (splitOn '/' path)

end Place

/-- What is found at a place. -/
inductive Found where
  | file (bytes : Bytes)
  | directory
  | missing
  /-- Something on the way is a file. -/
  | throughFile
  deriving DecidableEq, Repr

/-- A text in which each way to end a line is a line feed. -/
def unifyLines : Text → Text
  | [] => []
  | '\r' :: '\n' :: t => '\n' :: unifyLines t
  | '\r' :: t => '\n' :: unifyLines t
  | c :: t => c :: unifyLines t

/-- Decks below a directory. -/
structure DirectorySource where
  root : Place
  deriving DecidableEq, Repr

namespace DirectorySource

/-- The place of a resource, which has to be within the root. -/
def placeOf (path : Text) (s : DirectorySource) : Except Failure Place := do
  let place ← s.root.follow (splitOn '/' (path.dropWhile (· == '/')))
  if s.root.isPrefixOf place then pure place else .error (.ofPath path (some 403) "outside deck root")

/-- A place within the root as a path from there; the root itself is a point. -/
def relative (place : Place) (s : DirectorySource) : Text :=
  let names := place.drop s.root.length
  if names.isEmpty then "." else joinWith ['/'] names

/-- What a resource is, by what is found at its place. -/
def answerOf (path : Text) (place : Place) : Found → Answer
  | .file bytes =>
    match Utf8.decode bytes with
    | .ok t => .ok (unifyLines t)
    | .error fault => .error (.ofPath path none fault.message)
  | .missing => .error (.ofPath path (some 404) [])
  | .throughFile => .error (.ofPath path none ("[Errno 20] Not a directory: " ++ quoted place.toText))
  | .directory => .error (.ofPath path none ("[Errno 21] Is a directory: " ++ quoted place.toText))

end DirectorySource

/-! ## Trees of files -/

/-- Files and directories by their places. The directories on the way to what is listed are there too. -/
structure FileTree where
  entries : List (Place × Option Bytes)

namespace FileTree

/-- What is found at a place in a tree of files; an entry without bytes is a directory. -/
def find (tree : FileTree) (place : Place) : Found :=
  match tree.entries.find? (·.1 == place) with
  | some (_, some bytes) => .file bytes
  | some (_, none) => .directory
  | none =>
    if tree.entries.any fun e => place.isPrefixOf e.1 then .directory
    else if tree.entries.any fun e => e.2.isSome && e.1.isPrefixOf place then .throughFile
    else .missing

end FileTree

end Flashcards

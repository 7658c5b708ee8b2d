import Flashcards.Binary64

/-!
# JSON values

Manifests, model resources and extra values are JSON, and much of what they hold is used as it stands, whatever its kind. So the
value type keeps everything a text says: integers of any size apart from floating-point numbers, and the entries of an object in
the order in which their names first occur.

A value is *blank* where a default takes its place: null, false, zero, and the empty text, list and object.
-/

namespace Flashcards

/-- A JSON value. The entries of an object have distinct names, in order of first occurrence. -/
inductive Json where
  | null
  | bool (b : Bool)
  | int (n : Int)
  | float (x : Binary64)
  | text (t : Text)
  | list (items : List Json)
  | object (entries : List (Text × Json))
  deriving Inhabited, Repr

namespace Json

/-- The kinds of JSON values. -/
inductive Kind where
  | null | bool | int | float | text | list | object
  deriving DecidableEq, Repr

/-- The kind of a value. -/
def kind : Json → Kind
  | .null => .null
  | .bool _ => .bool
  | .int _ => .int
  | .float _ => .float
  | .text _ => .text
  | .list _ => .list
  | .object _ => .object

/-- The word by which messages name a kind. -/
def Kind.name : Kind → Text
  | .null => "NoneType"
  | .bool => "bool"
  | .int => "int"
  | .float => "float"
  | .text => "str"
  | .list => "list"
  | .object => "dict"

/-- Whether a default takes the value's place. -/
def isBlank : Json → Bool
  | .null => true
  | .bool b => !b
  | .int n => n == 0
  | .float x => x.isZero
  | .text t => t.isEmpty
  | .list items => items.isEmpty
  | .object entries => entries.isEmpty

/-! ## Equality -/

mutual

/-- Equality of values is decided by their structure. -/
def decEq : (a b : Json) → Decidable (a = b)
  | .null, .null => isTrue rfl
  | .bool a, .bool b => decidable_of_iff (a = b) (by simp)
  | .int a, .int b => decidable_of_iff (a = b) (by simp)
  | .float a, .float b => decidable_of_iff (a = b) (by simp)
  | .text a, .text b => decidable_of_iff (a = b) (by simp)
  | .list a, .list b =>
    match decEqList a b with
    | isTrue h => isTrue (by rw [h])
    | isFalse h => isFalse (by simp [h])
  | .object a, .object b =>
    match decEqEntries a b with
    | isTrue h => isTrue (by rw [h])
    | isFalse h => isFalse (by simp [h])
  | .null, .bool _ | .null, .int _ | .null, .float _ | .null, .text _ | .null, .list _ | .null, .object _ => isFalse nofun
  | .bool _, .null | .bool _, .int _ | .bool _, .float _ | .bool _, .text _ | .bool _, .list _ | .bool _, .object _ =>
    isFalse nofun
  | .int _, .null | .int _, .bool _ | .int _, .float _ | .int _, .text _ | .int _, .list _ | .int _, .object _ => isFalse nofun
  | .float _, .null | .float _, .bool _ | .float _, .int _ | .float _, .text _ | .float _, .list _ | .float _, .object _ =>
    isFalse nofun
  | .text _, .null | .text _, .bool _ | .text _, .int _ | .text _, .float _ | .text _, .list _ | .text _, .object _ =>
    isFalse nofun
  | .list _, .null | .list _, .bool _ | .list _, .int _ | .list _, .float _ | .list _, .text _ | .list _, .object _ =>
    isFalse nofun
  | .object _, .null | .object _, .bool _ | .object _, .int _ | .object _, .float _ | .object _, .text _ | .object _, .list _ =>
    isFalse nofun

/-- Equality of lists of values. -/
def decEqList : (a b : List Json) → Decidable (a = b)
  | [], [] => isTrue rfl
  | x :: xs, y :: ys =>
    match decEq x y, decEqList xs ys with
    | isTrue h, isTrue h' => isTrue (by rw [h, h'])
    | isFalse h, _ => isFalse (by simp [h])
    | _, isFalse h => isFalse (by simp [h])
  | [], _ :: _ | _ :: _, [] => isFalse nofun

/-- Equality of lists of entries. -/
def decEqEntries : (a b : List (Text × Json)) → Decidable (a = b)
  | [], [] => isTrue rfl
  | (k, x) :: xs, (l, y) :: ys =>
    if hk : k = l then
      match decEq x y, decEqEntries xs ys with
      | isTrue h, isTrue h' => isTrue (by rw [hk, h, h'])
      | isFalse h, _ => isFalse (by simp [h])
      | _, isFalse h => isFalse (by simp [h])
    else isFalse (by simp [hk])
  | [], _ :: _ | _ :: _, [] => isFalse nofun

end

instance : DecidableEq Json := decEq

/-! ## Objects -/

/-- The value under a name in a list of entries. -/
def find? (name : Text) : List (Text × Json) → Option Json
  | [] => none
  | (k, v) :: entries => if k = name then some v else find? name entries

/-- The entries with a value put under a name: in the place of the entry of that name if there is one, else at the end. -/
def put (name : Text) (value : Json) : List (Text × Json) → List (Text × Json)
  | [] => [(name, value)]
  | (k, v) :: entries => if k = name then (k, value) :: entries else (k, v) :: put name value entries

/-- The value under a name in an object; null where there is none. -/
def field (name : Text) (entries : List (Text × Json)) : Json := (find? name entries).getD .null

/-! ## Values as keys -/

/-- The number a value counts as, where a key is looked up: true is one and false is zero. -/
def asNumber? : Json → Option Int
  | .bool b => some (if b then 1 else 0)
  | .int n => some n
  | .float x => x.toInt?
  | _ => none

/-- Whether two values are the same key. Numbers of different kinds are, where they have the same value. -/
def sameKey (a b : Json) : Bool :=
  match a.asNumber?, b.asNumber? with
  | some m, some n => m == n
  | none, none => a == b
  | _, _ => false

/-- Whether a value may be a key: lists and objects may not. -/
def isKey : Json → Bool
  | .list _ | .object _ => false
  | _ => true

end Json

end Flashcards

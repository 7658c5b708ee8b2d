import Flashcards.Text.Blank

/-!
# Markup trees

A document is a list of nodes: texts of several kinds, and elements with attributes and children. Nothing in a tree points
upwards, so a node is a value, and a change of a tree is a function to a new tree.

An attribute that may hold several words (`class` on every element, `rel` on links) is the list of its words from the moment it is
read; any other is a text.
-/

namespace Flashcards.Markup

/-- The kinds of text in a tree. The last five are those of running text within an element of special meaning. -/
inductive TextKind where
  | plain
  | comment
  | cdata
  | instruction
  | declaration
  | doctype
  | script
  | stylesheet
  | template
  | rubyText
  | rubyParenthesis
  deriving DecidableEq, Repr

/-- The value of an attribute: a text, or the words it was split into. -/
inductive AttributeValue where
  | text (t : Text)
  | words (ws : List Text)
  deriving DecidableEq, Repr

/-- The value as one text, its words joined by a space. -/
def AttributeValue.joined : AttributeValue → Text
  | .text t => t
  | .words ws => Text.joinWith [' '] ws

/-- Whether a word is the value or one of its words. -/
def AttributeValue.holds (word : Text) : AttributeValue → Bool
  | .text t => t == word
  | .words ws => ws.contains word || Text.joinWith [' '] ws == word

/-- The attributes of an element, each name once. -/
abbrev Attributes := List (Text × AttributeValue)

/-- A node of a tree. -/
inductive Node where
  | text (kind : TextKind) (content : Text)
  | element (name : Text) (attributes : Attributes) (children : List Node)
  deriving Inhabited, Repr

namespace Node

mutual

/-- Equality of nodes is decided by their structure. -/
def decEq : (a b : Node) → Decidable (a = b)
  | .text k s, .text l t => decidable_of_iff (k = l ∧ s = t) (by simp)
  | .element n as cs, .element m bs ds =>
    if h : n = m ∧ as = bs then
      match decEqList cs ds with
      | isTrue h' => isTrue (by rw [h.1, h.2, h'])
      | isFalse h' => isFalse (by simp [h'])
    else isFalse (by simp only [element.injEq, not_and]; intro h1 h2; exact absurd ⟨h1, h2⟩ h)
  | .text _ _, .element _ _ _ | .element _ _ _, .text _ _ => isFalse nofun

/-- Equality of lists of nodes. -/
def decEqList : (a b : List Node) → Decidable (a = b)
  | [], [] => isTrue rfl
  | x :: xs, y :: ys =>
    match decEq x y, decEqList xs ys with
    | isTrue h, isTrue h' => isTrue (by rw [h, h'])
    | isFalse h, _ => isFalse (by simp [h])
    | _, isFalse h => isFalse (by simp [h])
  | [], _ :: _ | _ :: _, [] => isFalse nofun

end

instance : DecidableEq Node := decEq

/-! ## Parts of a node -/

/-- The children of an element; a text has none. -/
def children : Node → List Node
  | .text _ _ => []
  | .element _ _ cs => cs

/-- The attributes of an element; a text has none. -/
def attributes : Node → Attributes
  | .text _ _ => []
  | .element _ as _ => as

/-- Whether the node is an element of a given name. -/
def isNamed (name : Text) : Node → Bool
  | .text _ _ => false
  | .element n _ _ => n == name

end Node

/-! ## Attributes -/

namespace Attributes

/-- The value of an attribute. -/
def find? (name : Text) : Attributes → Option AttributeValue
  | [] => none
  | (n, v) :: rest => if n = name then some v else find? name rest

/-- The attributes with one set: in its place if it is there, else at the end. -/
def set (name : Text) (value : AttributeValue) : Attributes → Attributes
  | [] => [(name, value)]
  | (n, v) :: rest => if n = name then (n, value) :: rest else (n, v) :: set name value rest

/-- The attributes without one. -/
def remove (name : Text) (as : Attributes) : Attributes := as.filter (·.1 != name)

end Attributes

namespace Node

/-- The value of an attribute of an element. -/
def attribute? (name : Text) (n : Node) : Option AttributeValue := n.attributes.find? name

/-- The value of an attribute as one text. -/
def attributeText? (name : Text) (n : Node) : Option Text := (n.attribute? name).map AttributeValue.joined

/-- Whether an element carries a class. -/
def hasClass (name : Text) (n : Node) : Bool :=
  match n.attribute? "class" with
  | some (.words ws) => ws.contains name
  | _ => false

/-- The node with an attribute of it set. -/
def setAttribute (name : Text) (value : AttributeValue) : Node → Node
  | .text k t => .text k t
  | .element n as cs => .element n (as.set name value) cs

/-- The node without an attribute. -/
def removeAttribute (name : Text) : Node → Node
  | .text k t => .text k t
  | .element n as cs => .element n (as.remove name) cs

/-- The node with other children. -/
def withChildren (cs : List Node) : Node → Node
  | .text k t => .text k t
  | .element n as _ => .element n as cs

/-- The node with one more child at the end. -/
def appendChild (c : Node) : Node → Node
  | .text k t => .text k t
  | .element n as cs => .element n as (cs ++ [c])

end Node

end Flashcards.Markup

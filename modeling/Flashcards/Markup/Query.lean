import Flashcards.Markup.Node

/-!
# Looking into trees

A document is searched in the order in which it is written: an element before what is in it, and what is in it before what comes
after. `Node.preorder` lists the nodes in that order, and every search is a search of that list. A change at the first place where a
condition holds (`updateFirst`) finds the same node.
-/

namespace Flashcards.Markup

open Text

namespace Node

mutual

/-- A node and all nodes within it, in document order. -/
def preorder : Node → List Node
  | .text k t => [.text k t]
  | .element n as cs => .element n as cs :: preorderAll cs

/-- Nodes and all nodes within them, in document order. -/
def preorderAll : List Node → List Node
  | [] => []
  | n :: ns => preorder n ++ preorderAll ns

end

/-- The nodes within a node, in document order. -/
def descendants (n : Node) : List Node := preorderAll n.children

mutual

/-- A node with the first node in it, or itself, changed for which a condition holds; nothing where it holds for none. -/
def updateFirst? (p : Node → Bool) (f : Node → Node) : Node → Option Node
  | .text k t => if p (.text k t) then some (f (.text k t)) else none
  | .element n as cs =>
    if p (.element n as cs) then some (f (.element n as cs))
    else (updateFirstAmong? p f cs).map (.element n as ·)

/-- Nodes with the first node among them and in them changed for which a condition holds. -/
def updateFirstAmong? (p : Node → Bool) (f : Node → Node) : List Node → Option (List Node)
  | [] => none
  | n :: ns =>
    match updateFirst? p f n with
    | some n' => some (n' :: ns)
    | none => (updateFirstAmong? p f ns).map (n :: ·)

end

/-- Nodes with the first of them, not looking within them, changed for which a condition holds. -/
def updateFirstChild? (p : Node → Bool) (f : Node → Node) : List Node → Option (List Node)
  | [] => none
  | n :: ns => if p n then some (f n :: ns) else (updateFirstChild? p f ns).map (n :: ·)

/-- The first node within a node that carries a class. -/
def findClass? (name : Text) (n : Node) : Option Node := n.descendants.find? (hasClass name)

/-- The children that carry a class. -/
def childrenWithClass (name : Text) (n : Node) : List Node := n.children.filter (hasClass name)

/-- The first child that carries a class. -/
def childWithClass? (name : Text) (n : Node) : Option Node := n.children.find? (hasClass name)

/-- Whether an element has an attribute with exactly the given value. -/
def hasId (id : Text) (n : Node) : Bool :=
  match n.attribute? "id" with
  | some (.text t) => t == id
  | _ => false

/-- The kinds of text that count as the text of an element. -/
def countsIn (element : Text) (kind : TextKind) : Bool :=
  if element = "script" then kind == .script
  else if element = "style" then kind == .stylesheet
  else if element = "template" then kind == .template
  else if element = "rt" then kind == .rubyText
  else if element = "rp" then kind == .rubyParenthesis
  else kind == .plain || kind == .cdata

/-- The text of a node if its kind counts. -/
def textOfKind (counts : TextKind → Bool) : Node → Text
  | .text k t => if counts k then t else []
  | .element _ _ _ => []

/-- The text of a node: of an element, all texts in it of the kinds that count. -/
def textContent : Node → Text
  | .text _ t => t
  | .element n _ cs => (preorderAll cs).flatMap (textOfKind (countsIn n))

mutual

/-- The text of an element that has no other child than a text, or an element of which that is true. -/
def soleText? : Node → Option Text
  | .text _ t => some t
  | .element _ _ cs => soleTextAmong? cs

/-- The text of the only node there is. -/
def soleTextAmong? : List Node → Option Text
  | [n] => soleText? n
  | _ => none

end

end Node

/-- Nodes at the top of a document as the children of one node, which has no name of its own. -/
def rootOf (nodes : List Node) : Node := .element "[document]" [] nodes

end Flashcards.Markup

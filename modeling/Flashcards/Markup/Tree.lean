import Flashcards.Markup.Lexer
import Flashcards.Markup.Node

/-!
# From tokens to trees

The tokens of a document are taken one after the other into a document under construction: the elements that are still open, the
innermost first, and the running text that has not yet become a node.

An end tag closes the innermost open element of its name and all that is open within it; where none is open it does nothing. No
other tag closes anything. An element whose start tag ends in a slash is closed as soon as it is opened. So is an element that can
have no content, and an end tag that is written for it all the same is passed over: one for each such element.

Releases of the parser differ in what a slash does while an end tag of the name is still to be passed over (`slashIsEndTag`).
-/

namespace Flashcards.Markup

open Text

/-- The elements that can have no content. -/
def isVoid (name : Text) : Bool :=
  (["area", "base", "br", "col", "embed", "hr", "img", "input", "keygen", "link", "menuitem", "meta", "param", "source", "track",
    "wbr", "basefont", "bgsound", "command", "frame", "image", "isindex", "nextid", "spacer"] : List Text).contains name

/-- The elements within which blanks count as they stand. -/
def keepsBlanks (name : Text) : Bool := name == "pre" || name == "textarea"

/-- The kind of the running text within an element of special meaning. -/
def textKindWithin? (name : Text) : Option TextKind :=
  if name = "script" then some .script
  else if name = "style" then some .stylesheet
  else if name = "template" then some .template
  else if name = "rt" then some .rubyText
  else if name = "rp" then some .rubyParenthesis
  else none

/-- Whether an attribute of an element may hold several words. -/
def holdsWords (element name : Text) : Bool :=
  name == "class" || name == "accesskey" || name == "dropzone" ||
    ((name == "rel" || name == "rev") && (element == "a" || element == "link")) ||
    (name == "rel" && element == "area") ||
    (name == "headers" && (element == "td" || element == "th")) ||
    (name == "accept-charset" && element == "form") ||
    (name == "archive" && element == "object") ||
    (name == "sizes" && element == "icon") ||
    (name == "sandbox" && element == "iframe") ||
    (name == "for" && element == "output")

/-- The value an attribute of an element has by its written text. -/
def attributeValue (element name value : Text) : AttributeValue :=
  if holdsWords element name then .words (words value) else .text value

/-- The attributes of an element by their written texts: a repeated name keeps its first place and its last value. -/
def attributesOf (element : Text) (written : RawAttributes) : Attributes :=
  written.foldl (fun as a => as.set a.1 (attributeValue element a.1 a.2)) []

/-- An element that is still open, its children so far in reverse order. -/
structure OpenElement where
  name : Text
  attributes : Attributes
  children : List Node
  deriving Repr

/-- The element as it stands. -/
def OpenElement.close (e : OpenElement) : Node := .element e.name e.attributes e.children.reverse

/-- A document under construction. -/
structure Construction where
  /-- The open elements, the innermost first. -/
  opened : List OpenElement
  /-- The nodes at the top so far, in reverse order. -/
  top : List Node
  /-- The pieces of running text that are not yet a node, in reverse order. -/
  pieces : List Text
  /-- The names of the elements without content whose end tags are to be passed over. -/
  passedOver : List Text
  deriving Repr

namespace Construction

/-- A document of which nothing has been read. -/
def empty : Construction := ⟨[], [], [], []⟩

/-- A node put at the end of what is open. -/
def append (n : Node) (d : Construction) : Construction :=
  match d.opened with
  | [] => { d with top := n :: d.top }
  | e :: es => { d with opened := { e with children := n :: e.children } :: es }

/-- Running text as it becomes a node: a text of blanks alone, even an empty one, becomes one line feed if it holds one and else
one space, except within elements that keep their blanks. -/
def settle (d : Construction) (content : Text) : Text :=
  if content.all isMarkupBlank && !d.opened.any (keepsBlanks ·.name) then
    if content.contains '\n' then ['\n'] else [' ']
  else content

/-- The kind of running text at this place: that of the innermost open element that gives it one. -/
def textKind (d : Construction) : TextKind := (d.opened.findSome? (textKindWithin? ·.name)).getD .plain

/-- The running text so far made a node of a kind; without a piece of text there is none. -/
def flush (kind : TextKind) (d : Construction) : Construction :=
  if d.pieces.isEmpty then d
  else append (.text kind (d.settle d.pieces.reverse.flatten)) { d with pieces := [] }

/-- The running text so far made a node of the kind of its place. -/
def flushText (d : Construction) : Construction := d.flush d.textKind

/-- A node of a kind of its own, such as a comment, after the running text before it. -/
def appendText (kind : TextKind) (content : Text) (d : Construction) : Construction :=
  flush kind { d.flushText with pieces := [content] }

/-- An element opened. -/
def openElement (name : Text) (attributes : Attributes) (d : Construction) : Construction :=
  { d with opened := ⟨name, attributes, []⟩ :: d.opened }

/-- The innermost element closed. -/
def closeInnermost (d : Construction) : Construction :=
  match d.opened with
  | [] => d
  | e :: es => append e.close { d with opened := es }

/-- As many of the innermost elements closed as are given. -/
def closeCount : Nat → Construction → Construction
  | 0, d => d
  | n + 1, d => closeCount n d.closeInnermost

/-- The innermost open element of a name closed with all within it, if there is one. -/
def closeNamed (name : Text) (d : Construction) : Construction :=
  match d.opened.findIdx? (·.name == name) with
  | some i => d.closeCount (i + 1)
  | none => d

/-- An end tag taken in. -/
def endTag (name : Text) (d : Construction) : Construction :=
  if d.passedOver.contains name then { d with passedOver := d.passedOver.erase name } else d.flushText.closeNamed name

/-- Whether the slash at the end of a tag counts as an end tag like any other, which is passed over when one of its name is to be: the
element is left open then, and what follows comes to stand in it. In the release of the parser that is modelled, 4.15, the slash closes
its element in any case: `<br>a<br/>b` is read as `<br/>a<br/>b`. Only that a link has no content is proved from this value. -/
def slashIsEndTag : Bool := false

/-- A token taken in. -/
def take (d : Construction) : Token → Construction
  | .data content => { d with pieces := content :: d.pieces }
  | .startTag name attributes =>
    let d := d.flushText.openElement name (attributesOf name attributes)
    if isVoid name then { d.closeInnermost with passedOver := name :: d.passedOver } else d
  | .emptyTag name attributes =>
    let d := d.flushText.openElement name (attributesOf name attributes)
    if slashIsEndTag then d.endTag name else d.closeInnermost
  | .endTag name => d.endTag name
  | .comment content => d.appendText .comment content
  | .doctype content => d.appendText .doctype content
  | .instruction content => d.appendText .instruction content
  | .declaration content => d.appendText .declaration content
  | .cdata content => d.appendText .cdata content

/-- The nodes of the document at its end: what is still open is closed. -/
def finish (d : Construction) : List Node :=
  let d := d.flushText
  (d.closeCount d.opened.length).top.reverse

end Construction

/-- The nodes that tokens make. -/
def nodesOf (tokens : List Token) : List Node := (tokens.foldl Construction.take Construction.empty).finish

/-- The nodes of a markup text. -/
def parse (t : Text) : Except Fault (List Node) := (Lexer.tokens t).map nodesOf

end Flashcards.Markup

import Flashcards.Markup.Tree

/-!
# From trees to text

An element is written with its attributes sorted by name and always with a value; an element that can have no content, and has none,
ends in a slash and has no end tag. Three characters are written as references, in texts and in values; the text of a script or a
style sheet is written as it is, and comments and declarations within their marks.

A document is written in UTF-8, so an element that declares its character set is written with that name.
-/

namespace Flashcards.Markup

open Text

/-- A character as it is written in a text or a value. -/
def escapeChar (c : Char) : Text :=
  if c = '&' then "&amp;" else if c = '<' then "&lt;" else if c = '>' then "&gt;" else [c]

/-- A text as it is written between tags. -/
def escape (t : Text) : Text := t.flatMap escapeChar

/-- An escaped value between quotes: double ones, unless it holds double quotes and no single ones; where it holds both, its
double quotes are written as references. -/
def quoteValue (t : Text) : Text :=
  if t.contains '\x22' then
    if t.contains '\x27' then ['\x22'] ++ t.flatMap (fun c => if c = '\x22' then "&quot;" else [c]) ++ ['\x22']
    else ['\x27'] ++ t ++ ['\x27']
  else ['\x22'] ++ t ++ ['\x22']

/-- The character set a document is written in. -/
def writtenCharset : Text := "utf-8"

/-- What a parameter that declares a character set keeps at the start of a text: up to its equals sign. It stands at the start of a
line or behind a semicolon. -/
def charsetKey? (lineStart : Bool) (t : Text) : Option Text :=
  let key (s : Text) : Option Text := dropPrefix? "charset=" (s.dropWhile isBlank)
  match (if lineStart then key t else none) with
  | some rest => some (t.take (t.length - rest.length))
  | none =>
    match t with
    | ';' :: s => (key s).map fun rest => t.take (t.length - rest.length)
    | _ => none

/-- A value with every character set that it declares replaced, from a place on, where `skip` more characters are dealt with. -/
def replaceCharsetFrom : (skip : Nat) → (lineStart : Bool) → Text → Text
  | _, _, [] => []
  | skip + 1, _, c :: t => replaceCharsetFrom skip (c == '\n') t
  | 0, lineStart, c :: t =>
    match charsetKey? lineStart (c :: t) with
    | some key =>
      let old := ((c :: t).drop key.length).takeWhile (· != ';')
      key ++ writtenCharset ++ replaceCharsetFrom (key.length + old.length - 1) (c == '\n') t
    | none => c :: replaceCharsetFrom 0 (c == '\n') t

/-- The attributes as they are written: those of an element that declares the character set name the one written in. -/
def declareCharset (name : Text) (as : Attributes) : Attributes :=
  if name = "meta" then
    if (as.find? "charset").isSome then as.set "charset" (.text writtenCharset)
    else match as.find? "http-equiv", as.find? "content" with
      | some kind, some content =>
        if lower kind.joined = "content-type" then as.set "content" (.text (replaceCharsetFrom 0 true content.joined)) else as
      | _, _ => as
  else as

/-- Puts an attribute into a list sorted by name. -/
def insertByName (a : Text × AttributeValue) : Attributes → Attributes
  | [] => [a]
  | b :: bs => if before b.1 a.1 then b :: insertByName a bs else a :: b :: bs

/-- The attributes sorted by name. -/
def sortByName (as : Attributes) : Attributes := as.foldr insertByName []

/-- The attributes of an element, each after a space. -/
def writeAttributes (name : Text) (as : Attributes) : Text :=
  (sortByName (declareCharset name as)).flatMap fun a => [' '] ++ a.1 ++ ['='] ++ quoteValue (escape a.2.joined)

/-- A text node, within an element whose content is written as it is or not. -/
def writeText (raw : Bool) : TextKind → Text → Text
  | .comment, t => "<!--" ++ t ++ "-->"
  | .cdata, t => "<![CDATA[" ++ t ++ "]]>"
  | .instruction, t => "<?" ++ t ++ ">"
  | .declaration, t => "<?" ++ t ++ "?>"
  | .doctype, t => "<!DOCTYPE " ++ t ++ ">\n"
  | .plain, t | .script, t | .stylesheet, t | .template, t | .rubyText, t | .rubyParenthesis, t => if raw then t else escape t

namespace Node

mutual

/-- A node written out. -/
def write (raw : Bool) : Node → Text
  | .text kind t => writeText raw kind t
  | .element name as cs =>
    if cs.isEmpty && isVoid name then ['<'] ++ name ++ writeAttributes name as ++ "/>"
    else
      ['<'] ++ name ++ writeAttributes name as ++ ['>'] ++ writeAll (isRawElement name) cs ++ "</" ++ name ++ ['>']

/-- Nodes written out one after the other. -/
def writeAll (raw : Bool) : List Node → Text
  | [] => []
  | n :: ns => write raw n ++ writeAll raw ns

end

/-- The node as markup. -/
def toMarkup (n : Node) : Text := write false n

/-- The children of a node as markup. -/
def innerMarkup : Node → Text
  | .text _ _ => []
  | .element name _ cs => writeAll (isRawElement name) cs

/-- A node as a field shows it: an element as markup, a text as its bare content. -/
def shown : Node → Text
  | .text _ t => t
  | n => n.toMarkup

/-- The children of a node as a field shows them. -/
def innerShown (n : Node) : Text := n.children.flatMap shown

end Node

/-- A document or a fragment as markup. -/
def toMarkup (nodes : List Node) : Text := Node.writeAll false nodes

end Flashcards.Markup

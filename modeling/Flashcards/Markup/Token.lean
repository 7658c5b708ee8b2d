import Flashcards.Text.Blank
import Flashcards.Text.Case
import Flashcards.Text.Quoted
import Flashcards.Markup.Entity

/-!
# Tokens of markup

The pieces a markup text falls into: running text, tags, comments and declarations, and the scanners that take one construct off
the front of a text. A scanner returns the rest of the text, and nothing where the construct is not complete in what is left.

A start tag is more than its name and its attributes: what looks like one may turn out to be running text (`TagEnd.broken`), or
may still lack its end (`TagEnd.incomplete`).
-/

namespace Flashcards.Markup

open Text

/-- The attributes of a tag in the order in which they are written. -/
abbrev RawAttributes := List (Text × Text)

/-- A piece of a markup text. -/
inductive Token where
  | data (content : Text)
  | startTag (name : Text) (attributes : RawAttributes)
  /-- A start tag that ends in a slash. -/
  | emptyTag (name : Text) (attributes : RawAttributes)
  | endTag (name : Text)
  | comment (content : Text)
  | doctype (content : Text)
  | instruction (content : Text)
  | declaration (content : Text)
  | cdata (content : Text)
  deriving DecidableEq, Repr

/-- Why markup is rejected as a whole: a marked section without a name, or with a name that is none of the known ones. -/
inductive Rejection where
  | unnamedSection (source : Text)
  | unknownSection (name : Text)
  deriving DecidableEq, Repr

/-- The words for a rejection. -/
def Rejection.message : Rejection → Text
  | .unnamedSection source => "expected name token at " ++ quoted source
  | .unknownSection name => "unknown status keyword " ++ quoted name ++ " in marked section"

/-- Why there are no tokens of a markup text: it is rejected, or a number in it has too many digits. -/
inductive Fault where
  | rejected (cause : Rejection)
  | excessDigits (digits : ExcessDigits)
  deriving DecidableEq, Repr

/-! ## Classes of characters -/

/-- A character that ends the name of a tag. -/
def endsTagName (c : Char) : Bool :=
  c == '\t' || c == '\n' || c == '\r' || c == '\x0c' || c == ' ' || c == '/' || c == '>' || c == '\x00'

/-- A character after which an attribute may begin. -/
def precedesAttribute (c : Char) : Bool := c == '\x27' || c == '\x22' || c == '/' || isBlank c

/-- A character an attribute's name may begin with. -/
def beginsAttribute (c : Char) : Bool := !(isBlank c || c == '/' || c == '>')

/-- A character an attribute's name may go on with. -/
def inAttributeName (c : Char) : Bool := !(isBlank c || c == '/' || c == '=' || c == '>')

/-- A character of a value without quotes. -/
def inBareValue (c : Char) : Bool := !(isBlank c || c == '>')

/-- A character of the name in a plain end tag. -/
def inPlainName (c : Char) : Bool := isLetter c || isDigit c || c == '-' || c == '.' || c == ':' || c == '_'

/-- A character of the name of a marked section. -/
def inSectionName (c : Char) : Bool := isLetter c || isDigit c || c == '-' || c == '.' || c == '_'

/-- A character of the name of a character reference. -/
def inReferenceName (c : Char) : Bool := isLetter c || isDigit c || c == '-' || c == '.'

/-! ## Tags -/

/-- The blanks and slashes a text begins with, up to a slash that closes a tag: whether there are any, and the rest. -/
def takeGap : Text → Bool × Text
  | [] => (false, [])
  | '/' :: '>' :: t => (false, '/' :: '>' :: t)
  | c :: t => if isBlank c || c = '/' then (true, (takeGap t).2) else (false, c :: t)

/-- A value without quotes, and the rest of the text. -/
def takeBare (t : Text) : Text × Text := (t.takeWhile inBareValue, t.dropWhile inBareValue)

/-- The value after an attribute's name, whether an attribute may follow it at once, and the rest of the text. The sign that
introduces a value may be repeated. A quote that is never closed does not begin a value; what stands before it counts instead. -/
def takeValue? (t : Text) : Option (Text × Bool × Text) :=
  let afterName := t.dropWhile isBlank
  let signs := afterName.takeWhile (· == '=')
  let afterSigns := afterName.dropWhile (· == '=')
  let start := afterSigns.dropWhile isBlank
  if signs.isEmpty then none
  else match start with
    | [] => some ([], false, [])
    | q :: body =>
      if q = '\x22' || q = '\x27' then
        match breakOn q body with
        | some (value, rest) => some (value, true, rest)
        | none =>
          if start.length < afterSigns.length then some ([], true, start)
          else if 2 ≤ signs.length then let (value, rest) := takeBare ('=' :: start); some (value, false, rest)
          else none
      else let (value, rest) := takeBare start; some (value, false, rest)

/-- The attribute a text begins with: its name as it counts, its value as it is written, whether another may follow at once, and the
rest of the text behind the gap after it. -/
def takeAttribute? (t : Text) : Option ((Text × Text) × Bool × Text) :=
  match t with
  | [] => none
  | c :: body =>
    if !beginsAttribute c then none
    else
      let name := c :: body.takeWhile inAttributeName
      let afterName := body.dropWhile inAttributeName
      match takeValue? afterName with
      | some (value, mayFollow, rest) =>
        let (gap, rest) := takeGap rest
        some ((lower name, value), gap || mayFollow, rest)
      | none =>
        let (gap, rest) := takeGap afterName
        some ((lower name, []), gap || name.getLast?.any precedesAttribute, rest)

/-- The attributes a text begins with, if one may begin there at all, and the rest of the text. -/
def takeAttributes (mayBegin : Bool) (t : Text) : RawAttributes × Text :=
  match mayBegin, takeAttribute? t with
  | true, some (found, mayFollow, rest) =>
    if _ : rest.length < t.length then
      let (others, rest') := takeAttributes mayFollow rest
      (found :: others, rest')
    else ([found], rest)
  | _, _ => ([], t)
termination_by t.length

/-- How what looks like a start tag ends. -/
inductive TagEnd where
  | closed (token : Token) (rest : Text)
  | broken (source rest : Text)
  | incomplete
  deriving DecidableEq, Repr

/-- A tag's name and the rest of the text. -/
def takeTagName (t : Text) : Text × Text := (t.takeWhile (!endsTagName ·), t.dropWhile (!endsTagName ·))

/-- Attributes with the references in their values resolved. -/
def resolveValues (found : RawAttributes) : Except ExcessDigits RawAttributes :=
  found.mapM fun a => (Entity.resolve a.2).map fun value => (a.1, value)

/-- What a text begins with whose first character is `<` and whose second a letter. The values are resolved as soon as the end of the
tag is found, even if it turns out to be broken. -/
def takeStartTag (t : Text) : Except ExcessDigits TagEnd :=
  let (name, afterName) := takeTagName (t.drop 1)
  let (gap, start) := takeGap afterName
  let (found, rest) := takeAttributes (gap || name.getLast?.any precedesAttribute) start
  match rest with
  | [] => .ok .incomplete
  | '>' :: rest => (resolveValues found).map fun attributes => .closed (.startTag (lower name) attributes) rest
  | '/' :: '>' :: rest => (resolveValues found).map fun attributes => .closed (.emptyTag (lower name) attributes) rest
  | c :: _ =>
    if isLetter c || c = '=' || c = '/' then .ok .incomplete
    else (resolveValues found).map fun _ => .broken (t.take (t.length - rest.length)) rest

/-- The elements whose content is not markup. -/
def isRawElement (name : Text) : Bool := name == "script" || name == "style"

/-- Whether two characters are the same but for their case. A long s and an undotted i count as the letters they stand for. -/
def sameLetter (a b : Char) : Bool :=
  let fold (c : Char) : Char := if c = 'ſ' then 's' else if c = 'ı' || c = 'İ' then 'i' else lowerChar c
  fold a == fold b

/-- The rest of a text after a beginning that is given but for case. -/
def dropFolded? : Text → Text → Option Text
  | [], t => some t
  | _ :: _, [] => none
  | p :: ps, c :: t => if sameLetter p c then dropFolded? ps t else none

/-- The rest of a text after an end tag of the given name, case aside, that it begins with. -/
def dropClosing? (name : Text) (t : Text) : Option Text :=
  match dropPrefix? "</" t with
  | none => none
  | some rest =>
    match dropFolded? name (rest.dropWhile isBlank) with
    | none => none
    | some rest =>
      match rest.dropWhile isBlank with
      | '>' :: rest => some rest
      | _ => none

/-- The plain end tag a text begins with: its name, blanks around it aside, and the rest. -/
def takePlainEndTag? (t : Text) : Option (Text × Text) :=
  match dropPrefix? "</" t with
  | none => none
  | some rest =>
    match rest.dropWhile isBlank with
    | [] => none
    | c :: body =>
      if isLetter c then
        match (body.dropWhile inPlainName).dropWhile isBlank with
        | '>' :: rest => some (lower (c :: body.takeWhile inPlainName), rest)
        | _ => none
      else none

/-- What a text that begins with `</` and holds a `>` stands for outside raw elements: its token, if it leaves one, and the rest.
An end tag without a name leaves none, and one that does not begin with a letter is a comment. -/
def takeLooseEndTag (t : Text) : Option Token × Text :=
  let body := t.drop 2
  match body with
  | [] => (none, [])
  | c :: _ =>
    if isLetter c then
      let (name, afterName) := takeTagName body
      (some (.endTag (lower name)), ((breakOn '>' (takeGap afterName).2).map (·.2)).getD [])
    else if c = '>' then (none, body.drop 1)
    else match breakOn '>' body with
      | some (content, rest) => (some (.comment content), rest)
      | none => (none, [])

/-! ## Comments and declarations -/

/-- The rest of a text after the end of a comment that it begins with. -/
def dropCommentEnd? (t : Text) : Option Text :=
  match dropPrefix? "--" t with
  | none => none
  | some rest =>
    match rest.dropWhile isBlank with
    | '>' :: rest => some rest
    | _ => none

/-- The rest of a text after the end of a marked section that it begins with: one bracket for a condition, else two. -/
def dropSectionEnd? (brackets : Nat) (t : Text) : Option Text :=
  match brackets, t with
  | 0, '>' :: rest => some rest
  | n + 1, ']' :: rest => dropSectionEnd? n (rest.dropWhile isBlank)
  | _, _ => none

/-- The number of closing brackets a marked section of a given name ends in, if the name is known. -/
def sectionBrackets? (name : Text) : Option Nat :=
  if ([("temp" : Text), "cdata", "ignore", "include", "rcdata"] : List Text).contains name then some 2
  else if ([("if" : Text), "else", "endif"] : List Text).contains name then some 1
  else none

/-- The token of a declaration with the given content: character data if it says so. -/
def declarationToken (content : Text) : Token :=
  if isCapitalised "CDATA[" (content.take 6) then .cdata (content.drop 6) else .declaration content

/-- What a text that begins with `<![` stands for, its token and the rest; nothing where it is not complete. -/
def takeSection (t : Text) : Except Rejection (Option (Token × Text)) :=
  let body := t.drop 3
  match body with
  | [] => .ok none
  | c :: _ =>
    if !isLetter c then .error (.unnamedSection (t.take 20))
    else
      let afterName := (body.dropWhile inSectionName).dropWhile isBlank
      if afterName.isEmpty then .ok none
      else
        let source := body.take (body.length - afterName.length)
        match sectionBrackets? (lower (body.takeWhile inSectionName)) with
        | none => .error (.unknownSection source)
        | some brackets =>
          match breakAt (dropSectionEnd? brackets) body with
          | none => .ok none
          | some (content, rest) => .ok (some (declarationToken content, rest))

/-- What a text that begins with `<!` stands for, its token and the rest; nothing where it is not complete. -/
def takeDeclaration (t : Text) : Except Rejection (Option (Token × Text)) :=
  if startsWith "<![" t then takeSection t
  else if (t.take 9).map Char.toLower = ("<!doctype" : Text) then
    .ok ((breakOn '>' (t.drop 9)).map fun r => (.doctype (r.1.drop 1), r.2))
  else .ok ((breakOn '>' (t.drop 2)).map fun r => (.comment r.1, r.2))

/-! ## References -/

/-- The number a numbered reference at the start of a text gives, and the rest; nothing where the text ends with its digits, or
where a digit follows that is not of its base. A semicolon after it belongs to it. -/
def takeNumbered? (t : Text) : Option (Except ExcessDigits Nat × Text) :=
  let close (n : Except ExcessDigits Nat) : Text → Option (Except ExcessDigits Nat × Text)
    | [] => none
    | ';' :: rest => some (n, rest)
    | c :: rest => if isHexDigit c then none else some (n, c :: rest)
  let hexadecimal (rest : Text) : Option (Except ExcessDigits Nat × Text) :=
    if (rest.takeWhile isHexDigit).isEmpty then none
    else close (.ok (hexadecimalValue (rest.takeWhile isHexDigit))) (rest.dropWhile isHexDigit)
  match dropPrefix? "&#" t with
  | none => none
  | some ('x' :: rest) => hexadecimal rest
  | some ('X' :: rest) => hexadecimal rest
  | some rest =>
    if (rest.takeWhile isDigit).isEmpty then none
    else close (decimal (rest.takeWhile isDigit)) (rest.dropWhile isDigit)

/-- The name of a named reference at the start of a text, and the rest. The name is as long as it can be with one more character
after it that is neither a letter nor a digit; a semicolon after it belongs to it. -/
def takeNamed? (t : Text) : Option (Text × Text) :=
  match t with
  | '&' :: c :: body =>
    if !isLetter c then none
    else
      let run := body.takeWhile inReferenceName
      match body.dropWhile inReferenceName with
      | ';' :: rest => some (c :: run, rest)
      | d :: rest => some (c :: run, d :: rest)
      | [] =>
        -- The text ends with the run: a mark in it has to serve as the character after the name.
        match run.reverse.dropWhile (fun d => isLetter d || isDigit d) with
        | [] => none
        | mark :: name => some (c :: name.reverse, mark :: run.drop (name.length + 1))
  | _ => none

/-- The running text of a named reference: what it stands for, or the name itself after its ampersand. -/
def namedText (name : Text) : Text := (Entity.named? name).getD ('&' :: name)

end Flashcards.Markup

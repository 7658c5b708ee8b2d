import Flashcards.Encoding.Name

/-!
# The encoding of a document

Markup that comes as bytes is read in the first of these encodings that reads all of it: the one a mark at its start names, the one
it declares (in an XML declaration at its start, or else in the first element that names a character set), UTF-8, and Windows code
page 1252. A document that none of them reads is read with replacement characters, in the first of
them that allows for it.
-/

namespace Flashcards.Encoding

open Text

/-- The encoding that a mark at the start of the bytes names, and the bytes after the mark. -/
def takeMark : Bytes → Option Encoding × Bytes
  | 0xFF :: 0xFE :: 0x00 :: 0x00 :: rest => (some (.utf32 (some .lowFirst)), rest)
  | 0xFE :: 0xFF :: 0x00 :: 0x00 :: rest => (none, 0xFE :: 0xFF :: 0x00 :: 0x00 :: rest)
  | 0xFE :: 0xFF :: a :: b :: rest => (some (.utf16 (some .highFirst)), a :: b :: rest)
  | 0xFF :: 0xFE :: a :: b :: rest => (some (.utf16 (some .lowFirst)), a :: b :: rest)
  | 0xEF :: 0xBB :: 0xBF :: rest => (some .utf8, rest)
  | 0x00 :: 0x00 :: 0xFE :: 0xFF :: rest => (some (.utf32 (some .highFirst)), rest)
  | bytes => (none, bytes)

/-- The bytes as characters one by one, ASCII letters in lower case: enough to look for a declaration. -/
def asciiView (bytes : Bytes) : Text := bytes.map fun b => (Char.ofNat b.toNat).toLower

/-- A blank of ASCII. -/
def isAsciiBlank (c : Char) : Bool := (9 ≤ c.toNat && c.toNat ≤ 13) || c == ' '

/-- A quote of either kind. -/
def isQuote (c : Char) : Bool := c == '\x22' || c == '\x27'

/-- The last place of a text where a matcher accepts, as what the matcher makes of it. -/
def lastMatch? (matcher : Text → Option Text) : Text → Option Text
  | [] => matcher []
  | c :: t =>
    match lastMatch? matcher t with
    | some r => some r
    | none => matcher (c :: t)

/-- The name between quotes after `encoding=`, with the end of the declaration after it. -/
def quotedName? (t : Text) : Option Text :=
  match dropPrefix? "encoding=" t with
  | some (q :: rest) =>
    if isQuote q then
      let name := rest.takeWhile (!isQuote ·)
      match rest.dropWhile (!isQuote ·) with
      | _ :: after => if (breakAt (dropPrefix? "?>") after).isSome then some name else none
      | [] => none
    else none
  | _ => none

/-- The encoding an XML declaration at the start of a text names. -/
def xmlDeclared? (t : Text) : Option Text :=
  match dropPrefix? "<?" ((t.take 1024).dropWhile isAsciiBlank) with
  | some rest => lastMatch? quotedName? (rest.takeWhile (· != '\n'))
  | none => none

/-- Whether a character ends the name of a character set. -/
def endsCharset (c : Char) : Bool := c == ' ' || c == '/' || c == ';' || c == '>' || isQuote c

/-- The name after `charset`, an equals sign and perhaps a quote, at the start of a text. A name that nothing ends is taken for an empty
one where a space or a quote stands before it. -/
def charsetName? (t : Text) : Option Text :=
  match dropPrefix? "charset" t with
  | none => none
  | some rest =>
    match rest.dropWhile isAsciiBlank with
    | '=' :: rest =>
      let inside := rest.dropWhile isAsciiBlank
      let inside := match inside with
        | q :: after => if isQuote q then after else inside
        | [] => inside
      if inside.any endsCharset then some (inside.takeWhile (!endsCharset ·))
      else if rest.any endsCharset then some [] else none
    | _ => none

/-- The character set an element at the start of a text names, if it is a `meta` element. -/
def metaCharset? (t : Text) : Option Text :=
  match dropPrefix? "<" t with
  | none => none
  | some rest =>
    match dropPrefix? "meta" (rest.dropWhile isAsciiBlank) with
    | some (c :: inside) =>
      if c = '>' then none
      else lastMatch? (fun s => if (s.takeWhile (· != '>')).isEmpty then none else charsetName? s) (withinTag inside)
    | _ => none
where
  /-- The text up to the end of the tag, with the mark that ends it. -/
  withinTag : Text → Text
    | [] => []
    | '>' :: _ => ['>']
    | c :: t => c :: withinTag t

/-- The first character set that an element of a text names. -/
def firstMetaCharset? : Text → Option Text
  | [] => none
  | c :: t =>
    match metaCharset? (c :: t) with
    | some name => some name
    | none => firstMetaCharset? t

/-- The name of the encoding that a document declares. -/
def declared? (bytes : Bytes) : Option Text :=
  let view := asciiView bytes
  match xmlDeclared? view with
  | some name => some name
  | none => firstMetaCharset? (view.take (max 2048 (view.length / 20)))

/-- An encoding that a document may be in. -/
structure Candidate where
  encoding : Encoding
  /-- Whether it may be read with replacement characters. -/
  mayMend : Bool

/-- The encoding that a document declares. One that is declared by the plain name of ASCII is not read with replacement characters. -/
def declaredCandidate? (bytes : Bytes) : Option Candidate :=
  (declared? bytes).bind fun name => (named? name).map fun e => ⟨e, name != "ascii"⟩

/-- The encodings a document may be in, in the order in which they are tried, and its bytes after a mark. -/
def candidates (bytes : Bytes) : List Candidate × Bytes :=
  let (mark, body) := takeMark bytes
  let plain (e : Encoding) : Candidate := ⟨e, true⟩
  (mark.toList.map plain ++ (declaredCandidate? body).toList ++ [.utf8, windows1252].map plain, body)

/-- The text of a document that comes as bytes. -/
def readDocument (bytes : Bytes) : Text :=
  let (candidates, body) := candidates bytes
  match candidates.findSome? (·.encoding.decode? body) with
  | some t => t
  | none => ((candidates.filter Candidate.mayMend).findSome? (·.encoding.decodeMended? body)).getD []

end Flashcards.Encoding

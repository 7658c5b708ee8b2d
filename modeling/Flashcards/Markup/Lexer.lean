import Flashcards.Markup.Token

/-!
# From text to tokens

A markup text is read twice over. The first pass stops at whatever is not complete; the second reads what the first has left, and
since nothing more will come it takes an incomplete construct for running text. A numbered reference that is not well formed ends a
pass at once, so that what follows the first such reference is read by the second pass, and what follows the second is running text,
tags and all.

Within a script or a style sheet nothing but the matching end tag counts. If it is missing, the content is dropped.

`Lexer.step` reads one construct and `Lexer.run` repeats it while the text gets shorter.
-/

namespace Flashcards.Markup.Lexer

open Text

/-- What reading one construct comes to: the pass goes on with the rest, or it ends and the rest is left. The element named is the
one whose content is being read as raw text. -/
inductive Step where
  | goOn (tokens : List Token) (raw : Option Text) (rest : Text)
  | halt (tokens : List Token) (rest : Text)
  deriving DecidableEq

/-- An incomplete construct: the first pass ends, and the second takes it for running text up to its `>`, or else up to the next
`<`, or else for its first character alone. -/
def incomplete (final : Bool) (t : Text) : Step :=
  if !final then .halt [] t
  else match t with
    | [] => .halt [] []
    | c :: body =>
      match breakOn '>' body with
      | some (inside, rest) => .goOn [.data (c :: inside ++ ['>'])] none rest
      | none =>
        match breakOn '<' body with
        | some (inside, rest) => .goOn [.data (c :: inside)] none ('<' :: rest)
        | none => .goOn [.data [c]] none body

/-- A construct that has been read, or that is incomplete. -/
def complete (final : Bool) (t : Text) : Option (Token × Text) → Step
  | some (token, rest) => .goOn [token] none rest
  | none => incomplete final t

/-- A start tag, or what only looks like one. -/
def stepStartTag (final : Bool) (t : Text) : Except Fault Step :=
  match takeStartTag t with
  | .error excess => .error (.excessDigits excess)
  | .ok (.closed (.startTag name attributes) rest) =>
    .ok (.goOn [.startTag name attributes] (if isRawElement name then some name else none) rest)
  | .ok (.closed token rest) => .ok (.goOn [token] none rest)
  | .ok (.broken source rest) => .ok (.goOn [.data source] none rest)
  | .ok .incomplete => .ok (incomplete final t)

/-- An end tag. -/
def stepEndTag (final : Bool) (t : Text) : Step :=
  if (breakOn '>' (t.drop 1)).isNone then incomplete final t
  else match takePlainEndTag? t with
    | some (name, rest) => .goOn [.endTag name] none rest
    | none =>
      match takeLooseEndTag t with
      | (some token, rest) => .goOn [token] none rest
      | (none, rest) => .goOn [] none rest

/-- What begins with `<`. -/
def stepMarkup (final : Bool) (t : Text) : Except Fault Step :=
  match t.drop 1 with
  | [] => .ok (.halt [] t)
  | c :: body =>
    if isLetter c then stepStartTag final t
    else if c = '/' then .ok (stepEndTag final t)
    else if startsWith "<!--" t then
      .ok (complete final t ((breakAt dropCommentEnd? (t.drop 4)).map fun r => (.comment r.1, r.2)))
    else if c = '?' then .ok (complete final t ((breakOn '>' body).map fun r => (.instruction r.1, r.2)))
    else if c = '!' then ((takeDeclaration t).mapError Fault.rejected).map (complete final t)
    else .ok (.goOn [.data ['<']] none (c :: body))

/-- What begins with `&`. -/
def stepReference (final : Bool) (t : Text) : Except Fault Step :=
  if startsWith "&#" t then
    match takeNumbered? t with
    | some (.ok n, rest) => .ok (.goOn [.data [Entity.numbered n]] none rest)
    | some (.error excess, _) => .error (.excessDigits excess)
    | none => .ok (if t.contains ';' then .halt [.data "&#"] (t.drop 2) else .halt [] t)
  else match takeNamed? t with
    | some (name, rest) => .ok (.goOn [.data (namedText name)] none rest)
    | none =>
      match t.drop 1 with
      | [] => .ok (.halt [] t)
      | c :: rest =>
        if isLetter c then .ok (if final && rest.isEmpty then .halt [] [c] else .halt [] t)
        else .ok (.goOn [.data ['&']] none (c :: rest))

/-- The content of a raw element up to its end tag, and the end tag. What only looks like the end tag is content. -/
def stepRaw (name : Text) (t : Text) : Step :=
  match breakAt (fun s => if (dropClosing? name s).isSome then some s else none) t with
  | none => .halt [] t
  | some (content, closing) =>
    let before : List Token := if content.isEmpty then [] else [.data content]
    match takePlainEndTag? closing with
    | some (found, rest) =>
      if found = name then .goOn (before ++ [.endTag name]) none rest
      else .goOn (before ++ [.data (closing.take (closing.length - rest.length))]) (some name) rest
    | none =>
      match breakOn '>' closing with
      | some (inside, rest) => .goOn (before ++ [.data (inside ++ ['>'])]) (some name) rest
      | none => .halt before closing

/-- Whether running text ends before a character. -/
def isPlain (c : Char) : Bool := !(c == '<' || c == '&')

/-- Reads one construct of a text that is not empty. -/
def step (final : Bool) (raw : Option Text) (t : Text) : Except Fault Step :=
  match raw with
  | some name => .ok (stepRaw name t)
  | none =>
    match t with
    | [] => .ok (.halt [] [])
    | '<' :: _ => stepMarkup final t
    | '&' :: _ => stepReference final t
    | _ => .ok (.goOn [.data (t.takeWhile isPlain)] none (t.dropWhile isPlain))

/-- What one pass has read: its tokens, the raw element it ended in, and the text it has left. -/
structure Pass where
  tokens : List Token
  raw : Option Text
  rest : Text
  deriving DecidableEq

/-- Tokens put in front of those of a pass. -/
def Pass.after (tokens : List Token) (p : Pass) : Pass := { p with tokens := tokens ++ p.tokens }

/-- One pass over a text. -/
def run (final : Bool) (raw : Option Text) (t : Text) : Except Fault Pass :=
  if t.isEmpty then .ok ⟨[], raw, []⟩
  else match step final raw t with
    | .error e => .error e
    | .ok (.halt tokens rest) => .ok ⟨tokens, raw, rest⟩
    | .ok (.goOn tokens raw' rest) =>
      if _ : rest.length < t.length then (run final raw' rest).map (Pass.after tokens)
      else .ok ⟨tokens, raw', rest⟩
termination_by t.length

/-- The tokens of a markup text. -/
def tokens (t : Text) : Except Fault (List Token) := do
  let first ← run false none t
  let second ← run true first.raw first.rest
  let left : List Token := if second.raw.isNone && !second.rest.isEmpty then [.data second.rest] else []
  pure (first.tokens ++ second.tokens ++ left)

end Flashcards.Markup.Lexer

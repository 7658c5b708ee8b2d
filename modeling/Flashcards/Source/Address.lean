import Flashcards.Failure
import Flashcards.Text.Numeral

/-!
# Addresses

An address has a scheme, a host, a path with parameters of its last part, a query and a fragment. A reference is resolved against a
base address: what it does not say itself it takes from the base, and its path starts where the last part of the base's path does.

Which of this a scheme takes part in is told by three lists of schemes; a reference of another scheme than its base stands for itself.
-/

namespace Flashcards

open Text

/-- The parts of an address. -/
structure Address where
  scheme : Text
  host : Text
  path : Text
  parameters : Text
  query : Text
  fragment : Text
  deriving DecidableEq, Repr

namespace Address

/-! ## Schemes -/

/-- The schemes whose references are resolved by their paths. -/
def relativeSchemes : List Text :=
  ["", "ftp", "http", "gopher", "nntp", "imap", "wais", "file", "https", "shttp", "mms", "prospero", "rtsp", "rtspu", "sftp",
   "svn", "svn+ssh", "ws", "wss"]

/-- The schemes whose addresses have hosts. -/
def hostSchemes : List Text :=
  ["", "ftp", "http", "gopher", "nntp", "telnet", "imap", "wais", "file", "mms", "https", "shttp", "snews", "prospero", "rtsp",
   "rtspu", "rsync", "svn", "svn+ssh", "sftp", "nfs", "git", "git+ssh", "ws", "wss"]

/-- The schemes whose paths have parameters. -/
def parameterSchemes : List Text :=
  ["", "ftp", "hdl", "prospero", "http", "imap", "https", "shttp", "rtsp", "rtspu", "sip", "sips", "mms", "sftp", "tel"]

/-- A character of a scheme. -/
def inScheme (c : Char) : Bool := isLetter c || isDigit c || c == '+' || c == '-' || c == '.'

/-! ## Reading -/

/-- What is dropped at the start of an address: spaces and the control characters of ASCII. -/
def isLeadingBlank (c : Char) : Bool := c.toNat ≤ 32

/-- What is dropped anywhere in an address. -/
def isDropped (c : Char) : Bool := c == '\t' || c == '\r' || c == '\n'

/-- The scheme that a text begins with, in lower case, and the text after its colon. -/
def takeScheme (default t : Text) : Text × Text :=
  match t.takeWhile (· != ':'), t.dropWhile (· != ':') with
  | c :: scheme, _ :: rest =>
    if isLetter c && scheme.all inScheme then ((c :: scheme).map Char.toLower, rest) else (default, t)
  | _, _ => (default, t)

/-- Whether a character ends a host. -/
def endsHost (c : Char) : Bool := c == '/' || c == '?' || c == '#'

/-- The host that a text begins with, after two slashes, and the text after it. -/
def takeHost : Text → Text × Text
  | '/' :: '/' :: t => (t.takeWhile (!endsHost ·), t.dropWhile (!endsHost ·))
  | t => ([], t)

/-- A path and the parameters of its last part. -/
def takeParameters (path : Text) : Text × Text :=
  let last := (path.reverse.takeWhile (· != '/')).reverse
  match breakOn ';' last with
  | none => (path, [])
  | some (name, parameters) => (path.take (path.length - last.length) ++ name, parameters)

/-- The parts of an address; one without a scheme has a default one. -/
def read (default t : Text) : Except Failure Address :=
  let (scheme, t) := takeScheme default ((t.dropWhile isLeadingBlank).filter (!isDropped ·))
  let (host, t) := takeHost t
  let (t, fragment) := cut '#' t
  let (path, query) := cut '?' t
  let (path, parameters) := if parameterSchemes.contains scheme then takeParameters path else (path, [])
  match Host.fault? host with
  | some fault => .error (.badHost fault)
  | none => .ok ⟨scheme, host, path, parameters, query, fragment⟩

/-! ## Writing -/

/-- A text after a mark, or nothing where there is none. -/
def marked (mark : Char) (t : Text) : Text := if t.isEmpty then [] else mark :: t

/-- The host and the path together, with two slashes before the host where there is one or the scheme has hosts. -/
def location (a : Address) : Text :=
  let path := a.path ++ marked ';' a.parameters
  if nonEmpty a.host || (nonEmpty a.scheme && hostSchemes.contains a.scheme && !startsWith "//" path) then
    "//" ++ a.host ++ (if path.isEmpty || path.head? = some '/' then path else '/' :: path)
  else path

/-- The address as text; empty parts are left out. -/
def toText (a : Address) : Text :=
  (if a.scheme.isEmpty then [] else a.scheme ++ [':']) ++ a.location ++ marked '?' a.query ++ marked '#' a.fragment

/-! ## Resolving -/

/-- The parts of a path without the empty ones between its first and its last. -/
def dropEmptyInside : List Text → List Text
  | [] => []
  | first :: rest => first :: (rest.dropLast.filter nonEmpty ++ rest.getLast?.toList)

/-- Parts put down one after the other: a point is passed over, and two points take the part before them back, if there is one. -/
def follow : List Text → List Text → List Text
  | done, [] => done
  | done, part :: parts =>
    if part = ".." then follow done.dropLast parts
    else if part = "." then follow done parts
    else follow (done ++ [part]) parts

/-- The path to which a path leads from another. -/
def pathFrom (base path : Text) : Text :=
  let around := splitOn '/' base
  let start := if around.getLast? = some [] then around else around.dropLast
  let parts := if path.head? = some '/' then splitOn '/' path else dropEmptyInside (start ++ splitOn '/' path)
  let endsInside := parts.getLast? = some "." ∨ parts.getLast? = some ".."
  let found := joinWith ['/'] (follow [] parts ++ if endsInside then [[]] else [])
  if found.isEmpty then ['/'] else found

/-- The address to which a reference of the same scheme leads from a base. -/
def reachedFrom (base reference : Address) : Address :=
  if hostSchemes.contains reference.scheme && nonEmpty reference.host then reference
  else
    let host := if hostSchemes.contains reference.scheme then base.host else reference.host
    if reference.path.isEmpty && reference.parameters.isEmpty then
      { reference with
        host := host, path := base.path, parameters := base.parameters
        query := if reference.query.isEmpty then base.query else reference.query }
    else { reference with host := host, path := pathFrom base.path reference.path }

/-- The address to which a reference leads from a base. An empty reference leads to the base. -/
def resolve (base reference : Text) : Except Failure Text := do
  if base.isEmpty then return reference
  if reference.isEmpty then return base
  let b ← read [] base
  let r ← read b.scheme reference
  if r.scheme != b.scheme || !relativeSchemes.contains r.scheme then return reference
  return (b.reachedFrom r).toText

end Address

end Flashcards

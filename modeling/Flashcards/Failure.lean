import Flashcards.Json.Reader
import Flashcards.Json.Plain
import Flashcards.Markup.Token
import Flashcards.Source.Host

/-!
# Failures

Everything that can go wrong, by its cause. Each failure has words of its own (`Failure.message`), which the page and the log show.
A resource that cannot be fetched is a failure apart, since it is the one that a session expects: an optional resource may be
missing without harm.
-/

namespace Flashcards

open Text

/-- A resource that could not be fetched: its path, the status of the answer if there was one, and a reason if one is known. -/
structure FetchError where
  path : Json
  status : Option Int
  reason : Text
  deriving DecidableEq

/-- The words for a resource that could not be fetched. -/
def FetchError.message (e : FetchError) : Text :=
  let what : Text :=
    match e.status with
    | some s => "HTTP " ++ ofInt s ++ " at " ++ e.path.plain
    | none => "Failed to fetch " ++ e.path.plain
  if e.reason.isEmpty then what else what ++ ": " ++ e.reason

/-- What can go wrong. -/
inductive Failure where
  /-- A resource could not be fetched. -/
  | fetch (error : FetchError)
  /-- What is given for a notes document is no text. -/
  | notMarkup (kind : Json.Kind)
  /-- A notes document is rejected as a whole. -/
  | malformedMarkup (cause : Markup.Rejection)
  /-- A fragment for the page is rejected as a whole. -/
  | rejectedMarkup (cause : Markup.Rejection)
  /-- A number in markup has too many digits. -/
  | excessDigits (digits : ExcessDigits)
  /-- A text is no JSON. -/
  | badJson (fault : Json.Fault)
  /-- A manifest is JSON, but no object. -/
  | manifestNotObject
  /-- A value is looked into by name, but is no object. -/
  | notAnObject (kind : Json.Kind)
  /-- A value is gone through, but has no items. -/
  | notIterable (kind : Json.Kind)
  /-- A list or an object stands where a path is expected. -/
  | notAKey (kind : Json.Kind)
  /-- Another value than a text stands where a path of a file is expected. -/
  | notAPath (kind : Json.Kind)
  /-- Another value than a text stands where a path of names is expected. -/
  | notADeckPath (kind : Json.Kind)
  /-- Another value than a text stands where a directory is expected. -/
  | notADirectory (kind : Json.Kind)
  /-- A value is no level of messages. -/
  | notALevel (given : Text)
  /-- A word names no render mode. -/
  | unknownMode (given : Text)
  /-- A word names no side of a card. -/
  | unknownSide (given : Text)
  /-- The page has no element of a name. -/
  | missingElement (id : Text)
  /-- A path of a file holds the character zero. -/
  | zeroInPath
  /-- The host of an address is not as it has to be. -/
  | badHost (fault : HostFault)
  /-- Something else that a source of resources reports, by the name of its kind. -/
  | reported (kind message : Text)
  deriving DecidableEq

/-- The words of a rejection with its advice. -/
def rejectionMessage (cause : Markup.Rejection) : Text :=
  "The markup you provided was rejected by the parser. " ++
    "Trying a different parser or a different encoding may help.\n\n" ++
    "Original exception(s) from parser:\n AssertionError: " ++ cause.message

/-- The words for a failure. -/
def Failure.message : Failure → Text
  | .fetch e => e.message
  | .notMarkup kind => "Expected markup text, got " ++ kind.name
  | .malformedMarkup cause => rejectionMessage cause
  | .rejectedMarkup cause => rejectionMessage cause
  | .excessDigits digits => digits.message
  | .badJson fault => fault.message
  | .manifestNotObject => "Manifest root must be an object"
  | .notAnObject kind => "'" ++ kind.name ++ "' object has no attribute 'get'"
  | .notIterable kind => "'" ++ kind.name ++ "' object is not iterable"
  | .notAKey kind => "unhashable type: '" ++ kind.name ++ "'"
  | .notAPath kind => "'" ++ kind.name ++ "' object has no attribute 'lstrip'"
  | .notADeckPath kind => "'" ++ kind.name ++ "' object has no attribute 'strip'"
  | .notADirectory kind => "expected str, bytes or os.PathLike object, not " ++ kind.name
  | .notALevel given => "Level not an integer or a valid string: " ++ given
  | .unknownMode given => "Unknown render mode '" ++ given ++ "'. Expected one of: raw, model"
  | .unknownSide given => quoted given ++ " is not a valid CardSide"
  | .missingElement id => quoted ("Page skeleton has no #" ++ id)
  | .zeroInPath => "embedded null byte"
  | .badHost fault => fault.message
  | .reported _ message => message

/-- The failure for a fault of markup, with a failure for markup that is rejected. -/
def Failure.ofMarkup (rejected : Markup.Rejection → Failure) : Markup.Fault → Failure
  | .rejected cause => rejected cause
  | .excessDigits digits => .excessDigits digits

/-- A path that is a text could not be fetched. -/
def Failure.ofPath (path : Text) (status : Option Int) (reason : Text) : Failure := .fetch ⟨.text path, status, reason⟩

/-- Whether a failure says that what was read, or the place it was to be read from, is not as it has to be. -/
def Failure.isOfReading : Failure → Bool
  | .fetch _ | .excessDigits _ | .badJson _ | .manifestNotObject | .zeroInPath | .badHost _ => true
  | _ => false

/-- The failure to fetch, if a failure is one. -/
def Failure.fetchError? : Failure → Option FetchError
  | .fetch e => some e
  | _ => none

end Flashcards

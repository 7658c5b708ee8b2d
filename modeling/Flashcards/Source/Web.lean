import Flashcards.Agenda
import Flashcards.Source.Address

/-!
# Decks on the web

The resources of a deck may be fetched from the web, by addresses that are resolved against one base address. What comes of a request
is an exchange: it breaks down, or it is answered with a status and a body, which may break down in turn. Only a status of success
gives a text.
-/

namespace Flashcards

open Text

/-- How a request or the reading of a body breaks down. -/
inductive Breakdown where
  /-- The connection breaks or takes too long; what is known of it is a message, or else only what kind of thing happened. -/
  | connection (kind message : Text)
  /-- The bytes of a body are no text. -/
  | undecodable (why : Text)
  deriving DecidableEq, Repr

/-- The words for a breakdown. -/
def Breakdown.reason : Breakdown → Text
  | .connection kind message => if message.isEmpty then kind else message
  | .undecodable why => "undecodable body: " ++ why

/-- What comes of a request. -/
inductive Exchange where
  | broken (breakdown : Breakdown)
  | answered (status : Int) (body : Except Breakdown Text)

/-- Decks on the web: the address they are resolved against, and how requests are made. -/
structure WebSource where
  base : Text
  /-- How many seconds a request may take. -/
  timeout : Int
  /-- How many connections to one host may be open. -/
  concurrency : Int
  deriving DecidableEq, Repr

namespace WebSource

/-- A number that is given and is not zero, or a default. -/
def orDefault (default : Int) : Option Int → Int
  | none => default
  | some n => if n = 0 then default else n

/-- The decks at an address, which gets a slash at its end if it has none. -/
def ofAddress (address : Text) (timeout concurrency : Option Int) (defaultTimeout defaultConcurrency : Int) : WebSource where
  base := if address.getLast? = some '/' then address else address ++ ['/']
  timeout := orDefault defaultTimeout timeout
  concurrency := orDefault defaultConcurrency concurrency

/-- How many connections may be open at all. -/
def connections (s : WebSource) : Int := s.concurrency * 2

/-- The address of a resource. Slashes at the start of its path do not count. -/
def addressOf (path : Text) (s : WebSource) : Except Failure Text := Address.resolve s.base (path.dropWhile (· == '/'))

/-- What a request for a resource gets. -/
def answerOf (path : Text) : Exchange → Answer
  | .broken breakdown => .error (.ofPath path none breakdown.reason)
  | .answered status body =>
    if 200 ≤ status ∧ status < 300 then
      match body with
      | .ok t => .ok t
      | .error breakdown => .error (.ofPath path none breakdown.reason)
    else .error (.ofPath path (some status) [])

end WebSource

end Flashcards

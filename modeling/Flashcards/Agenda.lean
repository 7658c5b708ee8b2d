import Flashcards.Failure

/-!
# Work that waits

Several pieces of work go on at the same time. Each is cut into jobs at the places where it has to wait; a job runs at once and leaves
a new state, the jobs that follow from it, and the fetches it has started. A fetch is out until its answer comes, which is received
like a job. What the jobs and the fetches are is told by a `Program`.

An agenda holds what is ready and what is out. Any job that is ready may run next, and any fetch that is out may be answered next, so
every order of things is a sequence of `Agenda.runAt` and `Agenda.answerAt`. One order is fixed by `Agenda.settle`: a fetch is
answered as soon as its source has an answer, and jobs run in the order in which they became ready.
-/

namespace Flashcards

/-- The answer to a fetch: the text of a resource, or why there is none. -/
abbrev Answer := Except Failure Text

/-- What a job leaves: a state, the jobs that are ready now, and the fetches that are out now, each in order. -/
structure Turn (State Job Fetch : Type) where
  state : State
  jobs : List Job
  fetches : List Fetch

/-- A turn after which nothing is left to do. -/
def Turn.rest {State Job Fetch : Type} (s : State) : Turn State Job Fetch := ⟨s, [], []⟩

/-- What the jobs of a kind of work do. -/
structure Program (State Job Fetch : Type) where
  /-- A job run. -/
  perform : Job → State → Turn State Job Fetch
  /-- The answer to a fetch received. -/
  receive : Fetch → Answer → State → Turn State Job Fetch
  /-- The path that a fetch asks for. -/
  path : Fetch → Json

/-- Work under way: the state it has reached, the jobs that are ready, the fetches that are out, and all paths asked for so far. -/
structure Agenda (State Job Fetch : Type) where
  state : State
  ready : List Job
  out : List Fetch
  requested : List Json

namespace Agenda

variable {State Job Fetch : Type}

/-- An agenda with nothing on it. -/
def idle (s : State) : Agenda State Job Fetch := ⟨s, [], [], []⟩

/-- A job put at the end. -/
def add (job : Job) (a : Agenda State Job Fetch) : Agenda State Job Fetch := { a with ready := a.ready ++ [job] }

/-- The state changed, apart from all jobs. -/
def change (f : State → State) (a : Agenda State Job Fetch) : Agenda State Job Fetch := { a with state := f a.state }

/-- What a job leaves taken in. -/
def take (p : Program State Job Fetch) (t : Turn State Job Fetch) (a : Agenda State Job Fetch) : Agenda State Job Fetch where
  state := t.state
  ready := a.ready ++ t.jobs
  out := a.out ++ t.fetches
  requested := a.requested ++ t.fetches.map p.path

/-- One of the jobs that are ready run; nothing where there is none at the position. -/
def runAt (p : Program State Job Fetch) (i : Nat) (a : Agenda State Job Fetch) : Agenda State Job Fetch :=
  match a.ready[i]? with
  | none => a
  | some job => take p (p.perform job a.state) { a with ready := a.ready.eraseIdx i }

/-- One of the fetches that are out answered; nothing where there is none at the position. -/
def answerAt (p : Program State Job Fetch) (i : Nat) (answer : Answer) (a : Agenda State Job Fetch) :
    Agenda State Job Fetch :=
  match a.out[i]? with
  | none => a
  | some fetch => take p (p.receive fetch answer a.state) { a with out := a.out.eraseIdx i }

/-- The first fetch that a source has an answer for, by its position. -/
def firstAnswer? (p : Program State Job Fetch) (source : Json → Option Answer) : Nat → List Fetch → Option (Nat × Answer)
  | _, [] => none
  | i, fetch :: fetches =>
    match source (p.path fetch) with
    | some answer => some (i, answer)
    | none => firstAnswer? p source (i + 1) fetches

/-- Work done, step by step, until nothing can be done without answers that the source does not have. -/
def settle (p : Program State Job Fetch) (source : Json → Option Answer) :
    (steps : Nat) → Agenda State Job Fetch → Agenda State Job Fetch
  | 0, a => a
  | steps + 1, a =>
    match firstAnswer? p source 0 a.out with
    | some (i, answer) => settle p source steps (answerAt p i answer a)
    | none => if a.ready.isEmpty then a else settle p source steps (runAt p 0 a)

/-- Work done to its end where the answer to a fetch is waited for before anything else is done. -/
def settleWith {m : Type → Type} [Monad m] (p : Program State Job Fetch) (fetch : Json → m Answer) :
    (steps : Nat) → Agenda State Job Fetch → m (Agenda State Job Fetch)
  | 0, a => pure a
  | steps + 1, a =>
    match a.out with
    | f :: _ => do
      let answer ← fetch (p.path f)
      settleWith p fetch steps (answerAt p 0 answer a)
    | [] => if a.ready.isEmpty then pure a else settleWith p fetch steps (runAt p 0 a)

end Agenda

end Flashcards

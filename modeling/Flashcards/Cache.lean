import Flashcards.Agenda

/-!
# The cache of resources

Resources are JSON, fetched by path. One that has been fetched and read is stored and never fetched again. Requests for a path that is
being loaded wait for the one load that is under way and get what it gets. A load that fails leaves nothing behind.

A request is answered at once, or it is written down with its load (`Cache.ask`). When the text of a load has come, or its failure, the
load has an outcome (`Cache.finish`); then it is forgotten and those who wait for it are woken, each by a chore of its own. Until it is
forgotten its outcome answers further requests.

A path is used as a key as it stands, whatever it is. A blank one stands for no resource, which is null.
-/

namespace Flashcards

/-- What a request for a resource gets: its value, or why there is none. -/
abbrev Outcome := Except Failure Json

/-- A load under way, with those who wait for it in order, and its outcome as soon as it has one. -/
structure Load (Waiter : Type) where
  path : Json
  waiters : List Waiter
  outcome : Option Outcome

/-- The resources that are stored, each path once, the loads that are under way, and how many fetches there have been. -/
structure Cache (Waiter : Type) where
  stored : List (Json × Json)
  loads : List (Load Waiter)
  fetches : Nat

/-- What is left to do for a cache. -/
inductive Chore (Waiter : Type) where
  /-- The fetch for a load is to be started. -/
  | load (path : Json)
  /-- A load that has an outcome is to be forgotten. -/
  | forget (path : Json)
  /-- One who waits is to be told the outcome. -/
  | wake (waiter : Waiter) (outcome : Outcome)

/-- The reply to a request: an outcome, or that one has to wait, with what there is to do meanwhile. -/
inductive Reply (Waiter : Type) where
  | now (outcome : Outcome)
  | later (chores : List (Chore Waiter))

namespace Cache

variable {Waiter : Type}

/-- The cache before any request. -/
def empty : Cache Waiter := ⟨[], [], 0⟩

/-- The resource stored for a path. -/
def stored? (path : Json) (c : Cache Waiter) : Option Json := (c.stored.find? fun e => e.1.sameKey path).map (·.2)

/-- The load under way for a path. -/
def load? (path : Json) (c : Cache Waiter) : Option (Load Waiter) := c.loads.find? fun l => l.path.sameKey path

/-- The cache with one more who waits for the load of a path. -/
def addWaiter (waiter : Waiter) (path : Json) (c : Cache Waiter) : Cache Waiter :=
  { c with loads := c.loads.map fun l => if l.path.sameKey path then { l with waiters := l.waiters ++ [waiter] } else l }

/-- A request for a path. -/
def ask (waiter : Waiter) (path : Json) (c : Cache Waiter) : Cache Waiter × Reply Waiter :=
  if path.isBlank then (c, .now (.ok .null))
  else if !path.isKey then (c, .now (.error (.notAKey path.kind)))
  else
    match c.stored? path with
    | some data => (c, .now (.ok data))
    | none =>
      match c.load? path with
      | none => ({ c with loads := c.loads ++ [⟨path, [waiter], none⟩] }, .later [.load path])
      | some load =>
        match load.outcome with
        | some outcome => (c, .now outcome)
        | none => (c.addWaiter waiter path, .later [])

/-- The fetch for a load started. -/
def beginFetch (c : Cache Waiter) : Cache Waiter := { c with fetches := c.fetches + 1 }

/-- What a load comes to: what its text is as JSON. -/
def outcomeOf (path : Json) : Answer → Outcome
  | .error failure => .error failure
  | .ok t =>
    match Json.read t with
    | .ok data => .ok data
    | .error fault => .error (.fetch ⟨path, none, "invalid JSON: " ++ fault.message⟩)

/-- Entries with a value put under a path: in place of the value there if there is one, else at the end. -/
def putStored (path data : Json) : List (Json × Json) → List (Json × Json)
  | [] => [(path, data)]
  | (p, d) :: rest => if p.sameKey path then (p, data) :: rest else (p, d) :: putStored path data rest

/-- What an outcome stores. -/
def store (path : Json) (outcome : Outcome) (c : Cache Waiter) : Cache Waiter :=
  match outcome with
  | .ok data => { c with stored := putStored path data c.stored }
  | .error _ => c

/-- The outcome of a load written down. -/
def settleLoad (path : Json) (outcome : Outcome) (c : Cache Waiter) : Cache Waiter :=
  { c with loads := c.loads.map fun l => if l.path.sameKey path then { l with outcome := some outcome } else l }

/-- The answer to the fetch of a load received: the cache, and what there is to do now. -/
def finish (path : Json) (answer : Answer) (c : Cache Waiter) : Cache Waiter × List (Chore Waiter) :=
  let outcome := outcomeOf path answer
  let waiters := ((c.load? path).map Load.waiters).getD []
  ((c.store path outcome).settleLoad path outcome, .forget path :: waiters.map fun w => .wake w outcome)

/-- A load forgotten. -/
def forget (path : Json) (c : Cache Waiter) : Cache Waiter :=
  { c with loads := c.loads.filter fun l => !l.path.sameKey path }

/-- The stored resources dropped. Loads under way go on. -/
def clear (c : Cache Waiter) : Cache Waiter := { c with stored := [] }

/-- The numbers of a cache: how many resources are stored, how many fetches there have been, and how many loads are under way. -/
structure Stats where
  stored : Nat
  fetches : Nat
  loads : Nat
  deriving DecidableEq, Repr

/-- The numbers of a cache as it is. -/
def stats (c : Cache Waiter) : Stats := ⟨c.stored.length, c.fetches, c.loads.length⟩

/-- How many wait for a load that has no outcome yet. -/
def waiting (c : Cache Waiter) : Nat := (c.loads.flatMap fun l => if l.outcome.isSome then [] else l.waiters).length

end Cache

/-! ## Optional resources -/

/-- A resource that may be missing: its value, or the failure to fetch it, if there has been one. -/
inductive Optional where
  | present (data : Json)
  | absent (error : Option FetchError)
  deriving DecidableEq

/-- An outcome where the resource may be missing: a failure to fetch it does no harm, any other failure does. -/
def Optional.ofOutcome : Outcome → Except Failure Optional
  | .ok data => .ok (.present data)
  | .error failure =>
    match failure.fetchError? with
    | some e => .ok (.absent (some e))
    | none => .error failure

/-- The value of a resource, if it is there. -/
def Optional.data? : Optional → Option Json
  | .present data => some data
  | .absent _ => none

/-! ## Requests for themselves -/

namespace Cache

/-- A cache together with what has been answered so far, to whom, in order. -/
structure Desk (Waiter : Type) where
  cache : Cache Waiter
  answered : List (Waiter × Outcome)

/-- The jobs of a desk: requests, and what is left to do for them. -/
inductive Job (Waiter : Type) where
  | ask (waiter : Waiter) (path : Json)
  | chore (chore : Chore Waiter)

variable {Waiter : Type}

/-- A desk before any request. -/
def Desk.empty : Desk Waiter := ⟨Cache.empty, []⟩

/-- Someone answered. -/
def Desk.answer (waiter : Waiter) (outcome : Outcome) (d : Desk Waiter) : Desk Waiter :=
  { d with answered := d.answered ++ [(waiter, outcome)] }

/-- The cache of a desk changed. -/
def Desk.change (f : Cache Waiter → Cache Waiter) (d : Desk Waiter) : Desk Waiter := { d with cache := f d.cache }

/-- A job of a desk run. A fetch is the path that is fetched. -/
def Desk.perform : Job Waiter → Desk Waiter → Turn (Desk Waiter) (Job Waiter) Json
  | .ask waiter path, d =>
    match d.cache.ask waiter path with
    | (_, .now outcome) => .rest (d.answer waiter outcome)
    | (cache, .later chores) => ⟨{ d with cache := cache }, chores.map .chore, []⟩
  | .chore (.load path), d => ⟨d.change Cache.beginFetch, [], [path]⟩
  | .chore (.forget path), d => .rest (d.change (Cache.forget path))
  | .chore (.wake waiter outcome), d => .rest (d.answer waiter outcome)

/-- The answer to a fetch received at a desk. -/
def Desk.receive (path : Json) (answer : Answer) (d : Desk Waiter) : Turn (Desk Waiter) (Job Waiter) Json :=
  let (cache, chores) := d.cache.finish path answer
  ⟨{ d with cache := cache }, chores.map .chore, []⟩

/-- The work of a desk. -/
def Desk.program : Program (Desk Waiter) (Job Waiter) Json := ⟨Desk.perform, Desk.receive, id⟩

/-- How many steps are enough for all that is on the agenda of a desk: five for a request, which may start a load, and fewer for
anything else. -/
def Desk.enough (a : Agenda (Desk Waiter) (Job Waiter) Json) : Nat :=
  5 * (a.ready.length + a.out.length + a.state.cache.waiting)

/-- The agenda of a desk worked off as far as the source has answers. -/
def Desk.settle (source : Json → Option Answer) (a : Agenda (Desk Waiter) (Job Waiter) Json) :
    Agenda (Desk Waiter) (Job Waiter) Json :=
  a.settle Desk.program source (Desk.enough a)

end Cache

end Flashcards

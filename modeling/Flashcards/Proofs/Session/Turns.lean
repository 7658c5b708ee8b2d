import Flashcards.Proofs.Cache.Loads
import Flashcards.Session.Calls

/-!
# What a job of a call does

All that one job can do is said here once (`SessionDesk.Performed`): it ends its call, begins the selection of a deck, asks the cache
and waits, hands something on, or does a chore of the cache. What the end of a call does to the session is said by `Ending`.

Every job carries a thread of work (`CallJob.thread`): the main thread of its call, one of the two threads by which the data and the
notes of a deck are fetched, or a thread of the cache. So does every fetch, and everyone who waits. A job hands its thread on to what
follows from it, unless the thread ends there.
-/

namespace Flashcards

/-- The thread of one who waits. -/
def Waiter.thread : Waiter → Thread
  | .rootModels call => .call call
  | .deckData call => .data call
  | .deckModels selection _ => .call selection.call

/-- The thread of a job. -/
def CallJob.thread : CallJob → Thread
  | .begin call _ => .call call
  | .askData call _ => .data call
  | .askNotes call _ => .notes call
  | .dataArrived call _ => .data call
  | .notesArrived call _ => .notes call
  | .gathered selection _ _ => .call selection.call
  | .chore (.load path) => .load path.key
  | .chore (.forget path) => .forget path.key
  | .chore (.wake waiter _) => waiter.thread

/-- The thread of a fetch. -/
def Fetch.thread : Fetch → Thread
  | .resource path => .load path.key
  | .notes call _ => .notes call

/-- The call and the deck of the selection that a job begins, if it begins one. -/
def CallJob.begins? (s : Session) : CallJob → Option (Nat × DeckNode)
  | .begin call (.select node) => some (call, node)
  | .begin call (.setMode value) =>
    match RenderMode.ofJson value with
    | .ok _ => s.current.map (call, ·)
    | .error _ => none
  | _ => none

namespace SessionDesk

/-! ## What a job finds -/

/-- A job asks the cache for a path, for someone who goes on with the answer. -/
inductive Asks (d : SessionDesk) : CallJob → Waiter → Json → Prop
  | rootModels {call : Nat} (hb : d.rootModels.isBlank = false) :
    Asks d (.begin call .loadRootModels) (.rootModels call) d.rootModels
  | deckData {call : Nat} {path : Text} : Asks d (.askData call path) (.deckData call) (.text path)
  | deckModels {selection : Selection} {data : Outcome} {answer : Answer} {notes : List Note}
    (hn : notesOf data answer = .ok notes) (hb : selection.node.modelsPath.isBlank = false) :
    Asks d (.gathered selection data answer) (.deckModels selection notes) selection.node.modelsPath

/-- A job tells someone an outcome: one who has waited for it, or one who asks and is answered at once. -/
inductive Told (d : SessionDesk) : CallJob → Waiter → Outcome → Prop
  | woken {waiter : Waiter} {outcome : Outcome} : Told d (.chore (.wake waiter outcome)) waiter outcome
  | atOnce {job : CallJob} {waiter : Waiter} {path : Json} {outcome : Outcome} (ha : Asks d job waiter path)
    (h : (d.cache.ask waiter path).2 = .now outcome) : Told d job waiter outcome

/-- A job has what it needs to bring the selection of a deck to its end: its notes, and its models, if there are any. -/
inductive DeckReady (d : SessionDesk) : CallJob → Selection → List Note → Option Json → Prop
  | noModels {selection : Selection} {data : Outcome} {answer : Answer} {notes : List Note}
    (hn : notesOf data answer = .ok notes) (hb : selection.node.modelsPath.isBlank = true) :
    DeckReady d (.gathered selection data answer) selection notes none
  | models {job : CallJob} {selection : Selection} {notes : List Note} {outcome : Outcome} {found : Optional}
    (ht : Told d job (.deckModels selection notes) outcome) (h : Optional.ofOutcome outcome = .ok found) :
    DeckReady d job selection notes found.data?

/-- A job has what it needs to register the models that all decks share, if there are any. -/
inductive RootReady (d : SessionDesk) : CallJob → Nat → Option Json → Prop
  | noPath {call : Nat} (hb : d.rootModels.isBlank = true) : RootReady d (.begin call .loadRootModels) call none
  | models {job : CallJob} {call : Nat} {outcome : Outcome} {found : Optional} (ht : Told d job (.rootModels call) outcome)
    (h : Optional.ofOutcome outcome = .ok found) : RootReady d job call found.data?

/-- A job brings something that is gathered for a selection. -/
inductive Brings : CallJob → Nat → (Gathering → Gathering) → Prop
  | data {call : Nat} {outcome : Outcome} : Brings (.dataArrived call outcome) call fun g => { g with data := some outcome }
  | notes {call : Nat} {answer : Answer} : Brings (.notesArrived call answer) call fun g => { g with notes := some answer }

/-! ## What a job does -/

/-- A job begins the selection of a deck, in a mode. -/
inductive Opening (d : SessionDesk) : CallJob → Nat → DeckNode → RenderMode → Prop
  | select {call : Nat} {node : DeckNode} : Opening d (.begin call (.select node)) call node d.session.mode
  | setMode {call : Nat} {value : Json} {mode : RenderMode} {node : DeckNode} (hm : RenderMode.ofJson value = .ok mode)
    (hc : d.session.current = some node) : Opening d (.begin call (.setMode value)) call node mode

/-- A job ends a call, with the session that it leaves and what the call comes to. -/
inductive Ending (d : SessionDesk) : CallJob → Nat → Session → Except Failure CallResult → Prop
  | badMode {call : Nat} {value : Json} {failure : Failure} (hm : RenderMode.ofJson value = .error failure) :
    Ending d (.begin call (.setMode value)) call d.session (.error failure)
  | noDeck {call : Nat} {value : Json} {mode : RenderMode} (hm : RenderMode.ofJson value = .ok mode)
    (hc : d.session.current = none) : Ending d (.begin call (.setMode value)) call { d.session with mode := mode } (.ok .nothing)
  | noRootModels {job : CallJob} {call : Nat} {outcome : Outcome} {failure : Failure} (ht : Told d job (.rootModels call) outcome)
    (h : Optional.ofOutcome outcome = .error failure) : Ending d job call d.session (.error failure)
  | rootModels {job : CallJob} {call : Nat} {resource : Option Json} (hr : RootReady d job call resource) :
    Ending d job call (d.session.takeRootModels resource).1 ((d.session.takeRootModels resource).2.map .loaded)
  | failed {selection : Selection} {data : Outcome} {answer : Answer} {failure : Failure} (hn : notesOf data answer = .error failure) :
    Ending d (.gathered selection data answer) selection.call (d.session.fail selection failure).1
      (.ok (.shown (d.session.fail selection failure).2))
  | noDeckModels {job : CallJob} {selection : Selection} {notes : List Note} {outcome : Outcome} {failure : Failure}
    (ht : Told d job (.deckModels selection notes) outcome) (h : Optional.ofOutcome outcome = .error failure) :
    Ending d job selection.call d.session (.error failure)
  | shown {job : CallJob} {selection : Selection} {notes : List Note} {models : Option Json}
    (hr : DeckReady d job selection notes models) :
    Ending d job selection.call (d.session.showDeck selection notes models).1
      ((d.session.showDeck selection notes models).2.map .shown)

/-- A gathering changed by what has arrived for it, among all gatherings. -/
def arrived (call : Nat) (f : Gathering → Gathering) (gathering : List Gathering) : List Gathering :=
  gathering.map fun g => if g.selection.call = call then f g else g

/-- All that a job can do. -/
inductive Performed (d : SessionDesk) : CallJob → Step → Prop
  | ends {job : CallJob} {call : Nat} {session : Session} {result : Except Failure CallResult}
    (he : Ending d job call session result) : Performed d job (.rest ({ d with session := session }.finish call result))
  | opens {job : CallJob} {call : Nat} {node : DeckNode} {mode : RenderMode} (ho : Opening d job call node mode) :
    Performed d job
      ⟨{ d with
          session := ({ d.session with mode := mode } : Session).select node
          gathering := d.gathering ++ [⟨⟨call, node, d.session.token + 1⟩, none, none⟩] },
        [.askData call node.deckPath, .askNotes call node.notesHtmlPath], []⟩
  | asks {job : CallJob} {waiter : Waiter} {path : Json} (ha : Asks d job waiter path) (hl : d.cache.load? path = none) :
    Performed d job
      ⟨{ d with cache := { d.cache with loads := d.cache.loads ++ [⟨path, [waiter], none⟩] } }, [.chore (.load path)], []⟩
  | joins {job : CallJob} {waiter : Waiter} {path : Json} {load : Load Waiter} (ha : Asks d job waiter path)
    (hl : d.cache.load? path = some load) (ho : load.outcome = none) :
    Performed d job ⟨{ d with cache := d.cache.addWaiter waiter path }, [], []⟩
  | passes {job : CallJob} {call : Nat} {outcome : Outcome} (ht : Told d job (.deckData call) outcome) :
    Performed d job ⟨d, [.dataArrived call outcome], []⟩
  | sends {call : Nat} {path : Text} : Performed d (.askNotes call path) ⟨d, [], [.notes call path]⟩
  | arrives {job : CallJob} {call : Nat} {f : Gathering → Gathering} (hb : Brings job call f)
    (hg : ∀ selection data notes,
      (arrived call f d.gathering).find? (fun g => g.selection.call == call) ≠ some ⟨selection, some data, some notes⟩) :
    Performed d job (.rest { d with gathering := arrived call f d.gathering })
  | gathers {job : CallJob} {call : Nat} {f : Gathering → Gathering} {selection : Selection} {data : Outcome} {notes : Answer}
    (hb : Brings job call f)
    (hg : (arrived call f d.gathering).find? (fun g => g.selection.call == call) = some ⟨selection, some data, some notes⟩) :
    Performed d job
      ⟨{ d with gathering := (arrived call f d.gathering).filter fun g => g.selection.call != call },
        [.gathered selection data notes], []⟩
  | loads {path : Json} : Performed d (.chore (.load path)) ⟨{ d with cache := d.cache.beginFetch }, [], [.resource path]⟩
  | forgets {path : Json} : Performed d (.chore (.forget path)) (.rest { d with cache := d.cache.forget path })

variable {d : SessionDesk}

/-- A request is answered at once, or it begins a load or joins one. -/
theorem ask_cases {job : CallJob} {waiter : Waiter} {path : Json} (ha : Asks d job waiter path) {answered : Outcome → Step}
    (h : ∀ outcome, Told d job waiter outcome → Performed d job (answered outcome)) :
    Performed d job (d.ask waiter path answered) := by
  have hr := d.cache.asked waiter path
  have ht : ∀ outcome, (d.cache.ask waiter path).2 = .now outcome → Told d job waiter outcome := fun _ => Told.atOnce ha
  rw [ask]
  generalize d.cache.ask waiter path = r at hr ht
  cases hr with
  | blank | notAKey | stored | loaded => exact h _ (ht _ rfl)
  | begins _ _ _ hl => exact Performed.asks ha hl
  | joins _ _ _ hl ho => exact Performed.joins ha hl ho

/-- The models that all decks share came: their call ends. -/
theorem performed_rootModelsCame {job : CallJob} {call : Nat} {outcome : Outcome} (ht : Told d job (.rootModels call) outcome) :
    Performed d job (.rest (d.rootModelsCame call outcome)) := by
  rw [rootModelsCame]
  split
  · rename_i failure h
    exact Performed.ends (Ending.noRootModels ht h)
  · rename_i found h
    exact Performed.ends (Ending.rootModels (RootReady.models ht h))

/-- The models of a deck came: the call that selects it ends. -/
theorem performed_deckModelsCame {job : CallJob} {selection : Selection} {notes : List Note} {outcome : Outcome}
    (ht : Told d job (.deckModels selection notes) outcome) :
    Performed d job (.rest (d.deckModelsCame selection notes outcome)) := by
  rw [deckModelsCame]
  split
  · rename_i failure h
    exact Performed.ends (Ending.noDeckModels ht h)
  · rename_i found h
    exact Performed.ends (Ending.shown (DeckReady.models ht h))

/-- A call begins with a request. -/
theorem performed_begin (call : Nat) (request : Request) (d : SessionDesk) :
    Performed d (.begin call request) (d.begin call request) := by
  cases request with
  | loadRootModels =>
    rw [begin, beginRootModels]
    cases hb : d.rootModels.isBlank with
    | true => exact Performed.ends (Ending.rootModels (RootReady.noPath hb))
    | false => exact ask_cases (Asks.rootModels hb) fun outcome ht => performed_rootModelsCame ht
  | select node => exact Performed.opens Opening.select
  | setMode value =>
    rw [begin, beginSetMode]
    cases hm : RenderMode.ofJson value with
    | error failure => exact Performed.ends (Ending.badMode hm)
    | ok mode =>
      simp only [change]
      split
      · rename_i hc
        exact Performed.ends (Ending.noDeck hm hc)
      · rename_i node hc
        exact Performed.opens (Opening.setMode hm hc)

/-- Something arrives for a selection. -/
theorem performed_arrive {job : CallJob} {call : Nat} {f : Gathering → Gathering} (hb : Brings job call f) :
    Performed d job (d.arrive call f) := by
  simp only [arrive]
  split
  · rename_i selection data notes hg
    exact Performed.gathers hb hg
  · rename_i hg
    exact Performed.arrives hb hg

/-- All has been gathered for a selection. -/
theorem performed_gathered (selection : Selection) (data : Outcome) (answer : Answer) (d : SessionDesk) :
    Performed d (.gathered selection data answer) (d.gathered selection data answer) := by
  rw [gathered]
  cases hn : notesOf data answer with
  | error failure => exact Performed.ends (Ending.failed hn)
  | ok notes =>
    simp only [askModels]
    cases hb : selection.node.modelsPath.isBlank with
    | true => exact Performed.ends (Ending.shown (DeckReady.noModels hn hb))
    | false => exact ask_cases (Asks.deckModels hn hb) fun outcome ht => performed_deckModelsCame ht

/-- A job does one of these things. -/
theorem performed (d : SessionDesk) (job : CallJob) : Performed d job (perform job d) := by
  cases job with
  | begin call request => exact performed_begin call request d
  | askData call path => exact ask_cases Asks.deckData fun outcome ht => Performed.passes ht
  | askNotes call path => exact Performed.sends
  | dataArrived call outcome => exact performed_arrive Brings.data
  | notesArrived call answer => exact performed_arrive Brings.notes
  | gathered selection data notes => exact performed_gathered selection data notes d
  | chore chore =>
    cases chore with
    | load path => exact Performed.loads
    | forget path => exact Performed.forgets
    | wake waiter outcome =>
      cases waiter with
      | rootModels call => exact performed_rootModelsCame Told.woken
      | deckData call => exact Performed.passes Told.woken
      | deckModels selection notes => exact performed_deckModelsCame Told.woken

/-! ## Threads -/

theorem Asks.thread {job : CallJob} {waiter : Waiter} {path : Json} (h : Asks d job waiter path) : job.thread = waiter.thread := by
  cases h <;> rfl

theorem Told.thread {job : CallJob} {waiter : Waiter} {outcome : Outcome} (h : Told d job waiter outcome) :
    job.thread = waiter.thread := by
  cases h with
  | woken => rfl
  | atOnce ha _ => exact ha.thread

theorem DeckReady.thread {job : CallJob} {selection : Selection} {notes : List Note} {models : Option Json}
    (h : DeckReady d job selection notes models) : job.thread = .call selection.call := by
  cases h with
  | noModels => rfl
  | models ht _ => exact ht.thread

theorem Opening.thread {job : CallJob} {call : Nat} {node : DeckNode} {mode : RenderMode} (h : Opening d job call node mode) :
    job.thread = .call call := by
  cases h <;> rfl

/-- A job that ends a call carries its thread. -/
theorem Ending.thread {job : CallJob} {call : Nat} {session : Session} {result : Except Failure CallResult}
    (h : Ending d job call session result) : job.thread = .call call := by
  cases h with
  | badMode | noDeck | failed => rfl
  | noRootModels ht _ | noDeckModels ht _ => exact ht.thread
  | shown hr => exact hr.thread
  | rootModels hr =>
    cases hr with
    | noPath => rfl
    | models ht _ => exact ht.thread

/-! ## Selections that begin -/

theorem Opening.begins {job : CallJob} {call : Nat} {node : DeckNode} {mode : RenderMode} (h : Opening d job call node mode) :
    job.begins? d.session = some (call, node) := by
  cases h with
  | select => rfl
  | setMode hm hc => simp [CallJob.begins?, hm, hc]

theorem Asks.begins {job : CallJob} {waiter : Waiter} {path : Json} (h : Asks d job waiter path) :
    job.begins? d.session = none := by
  cases h <;> rfl

theorem Told.begins {job : CallJob} {waiter : Waiter} {outcome : Outcome} (h : Told d job waiter outcome) :
    job.begins? d.session = none := by
  cases h with
  | woken => rfl
  | atOnce ha _ => exact ha.begins

theorem Ending.begins {job : CallJob} {call : Nat} {session : Session} {result : Except Failure CallResult}
    (h : Ending d job call session result) : job.begins? d.session = none := by
  cases h with
  | badMode hm => simp [CallJob.begins?, hm]
  | noDeck hm hc => simp [CallJob.begins?, hm, hc]
  | failed => rfl
  | noRootModels ht _ | noDeckModels ht _ => exact ht.begins
  | shown hr =>
    cases hr with
    | noModels => rfl
    | models ht _ => exact ht.begins
  | rootModels hr =>
    cases hr with
    | noPath => rfl
    | models ht _ => exact ht.begins

end SessionDesk

/-! ## Runs -/

/-- What can happen to a session: it is called, a job runs, or a fetch is answered. Jobs and fetches are given by their positions. -/
inductive CallEvent where
  | call (request : Request)
  | run (i : Nat)
  | answer (i : Nat) (answer : Answer)

namespace SessionAgenda

/-- One thing happens. -/
def step (a : SessionAgenda) : CallEvent → SessionAgenda
  | .call request => a.call request
  | .run i => a.runAt SessionDesk.program i
  | .answer i answer => a.answerAt SessionDesk.program i answer

/-- Things happen one after the other. -/
def after (events : List CallEvent) (a : SessionAgenda) : SessionAgenda := events.foldl step a

end SessionAgenda

end Flashcards

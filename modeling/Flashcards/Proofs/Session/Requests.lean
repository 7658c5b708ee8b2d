import Flashcards.Proofs.Session.Selections

/-!
# What calls are made for

Every call is made for a request, and what is on its way for the call fits the request (`SessionDesk.Proper`): the selection of a deck
is that of the request's deck, and only who was called to load the models that all decks share waits for these. So what a call comes to
is what its request is for (`Request.Allows`).

The invariant also keeps track of failures. Where fetches end with a text or with a failure to fetch, an outcome that is on its way is a
value or a failure to fetch (`Tame`): a text that is no JSON counts as one that could not be fetched.
-/

namespace Flashcards

/-- Something that fails only where a resource could not be fetched. -/
def Tame {α : Type} (e : Except Failure α) : Prop := ∀ failure, e = .error failure → ∃ error, failure = .fetch error

theorem tame_ok {α : Type} (x : α) : Tame (.ok x) := nofun

/-- A resource that is tame is found or missing. -/
theorem Tame.ofOutcome {outcome : Outcome} (h : Tame outcome) : ∃ found, Optional.ofOutcome outcome = .ok found := by
  cases outcome with
  | ok data => exact ⟨_, rfl⟩
  | error failure =>
    obtain ⟨error, rfl⟩ := h failure rfl
    exact ⟨_, rfl⟩

/-- What an answer comes to is tame if the answer is. -/
theorem Tame.outcomeOf {answer : Answer} (h : Tame answer) (path : Json) : Tame (Cache.outcomeOf path answer) := by
  cases answer with
  | error failure => exact fun f hf => h f (by rw [Cache.outcomeOf] at hf; exact congrArg _ (Except.error.inj hf))
  | ok t =>
    intro failure hf
    simp only [Cache.outcomeOf] at hf
    split at hf
    · nomatch hf
    · exact ⟨_, (Except.error.inj hf).symm⟩

/-- What a call for a request may come to, if it does not end with a failure. -/
def Request.Allows : Request → CallResult → Prop
  | .loadRootModels, .loaded _ => True
  | .select node, .shown r => r.deck = node
  | .setMode _, .shown _ => True
  | .setMode _, .nothing => True
  | _, _ => False

/-- A selection is for the request of its call. -/
def Selection.For (requests : List Request) (selection : Selection) : Prop :=
  requests[selection.call]? = some (.select selection.node) ∨ ∃ value, requests[selection.call]? = some (.setMode value)

/-- One who waits does so for the request of a call. -/
def Waiter.For (requests : List Request) : Waiter → Prop
  | .rootModels k => requests[k]? = some .loadRootModels
  | .deckData _ => True
  | .deckModels selection _ => selection.For requests

/-- A job is for the request of a call, and what it brings is tame. -/
def CallJob.For (requests : List Request) : CallJob → Prop
  | .begin k request => requests[k]? = some request
  | .askData _ _ | .askNotes _ _ => True
  | .dataArrived _ outcome => Tame outcome
  | .notesArrived _ answer => Tame answer
  | .gathered selection data notes => selection.For requests ∧ Tame data ∧ Tame notes
  | .chore (.load _) | .chore (.forget _) => True
  | .chore (.wake waiter outcome) => waiter.For requests ∧ Tame outcome

/-- A gathering is for the request of a call, and what has arrived is tame. -/
structure Gathering.For (requests : List Request) (g : Gathering) : Prop where
  selection : g.selection.For requests
  data : ∀ outcome, g.data = some outcome → Tame outcome
  notes : ∀ answer, g.notes = some answer → Tame answer

/-- A load is waited for by those whose requests need it, and its outcome is tame. -/
structure Load.For (requests : List Request) (l : Load Waiter) : Prop where
  waiters : ∀ w ∈ l.waiters, w.For requests
  outcome : ∀ outcome, l.outcome = some outcome → Tame outcome

/-- Everything is for the requests of calls, and what calls have come to is what their requests allow. -/
structure SessionDesk.Proper (requests : List Request) (d : SessionDesk) : Prop where
  gathering : ∀ g ∈ d.gathering, g.For requests
  loads : ∀ l ∈ d.cache.loads, l.For requests
  ended : ∀ k result, (k, .ok result) ∈ d.ended → ∃ request, requests[k]? = some request ∧ request.Allows result

/-! ## More requests -/

section More

variable {requests : List Request} (more : List Request)

theorem request_append {k : Nat} {request : Request} (h : requests[k]? = some request) : (requests ++ more)[k]? = some request := by
  rw [List.getElem?_append_left (List.getElem?_eq_some_iff.1 h).1]
  exact h

theorem Selection.For.append {selection : Selection} (h : selection.For requests) : selection.For (requests ++ more) :=
  h.imp (request_append more) fun ⟨value, hv⟩ => ⟨value, request_append more hv⟩

theorem Waiter.For.append {waiter : Waiter} (h : waiter.For requests) : waiter.For (requests ++ more) := by
  cases waiter with
  | rootModels k => exact request_append more h
  | deckData k => trivial
  | deckModels selection notes => exact Selection.For.append more h

theorem CallJob.For.append {job : CallJob} (h : job.For requests) : job.For (requests ++ more) := by
  cases job with
  | begin k request => exact request_append more h
  | askData | askNotes => trivial
  | dataArrived | notesArrived => exact h
  | gathered => exact ⟨h.1.append more, h.2⟩
  | chore chore =>
    cases chore with
    | load | forget => trivial
    | wake => exact ⟨h.1.append more, h.2⟩

theorem SessionDesk.Proper.append {d : SessionDesk} (h : d.Proper requests) : d.Proper (requests ++ more) where
  gathering g hg := ⟨(h.gathering g hg).selection.append more, (h.gathering g hg).data, (h.gathering g hg).notes⟩
  loads l hl := ⟨fun w hw => ((h.loads l hl).waiters w hw).append more, (h.loads l hl).outcome⟩
  ended k result hmem := by
    obtain ⟨request, hr, ha⟩ := h.ended k result hmem
    exact ⟨request, request_append more hr, ha⟩

end More

/-- What comes of a selection is what its request allows. -/
theorem Selection.For.allows {requests : List Request} {selection : Selection} (h : selection.For requests) {r : DeckResult}
    (hr : r.deck = selection.node) : ∃ request, requests[selection.call]? = some request ∧ request.Allows (.shown r) := by
  rcases h with h | ⟨value, h⟩
  · exact ⟨_, h, hr⟩
  · exact ⟨_, h, trivial⟩

namespace SessionDesk

variable {d : SessionDesk} {requests : List Request}

/-- Who asks is for the request of the call that the job is for. -/
theorem Asks.for {job : CallJob} {waiter : Waiter} {path : Json} (h : Asks d job waiter path) (hj : job.For requests) :
    waiter.For requests := by
  cases h with
  | rootModels => exact hj
  | deckData => trivial
  | deckModels => exact hj.1

/-- Who is told is for the request of the call that the job is for. -/
theorem Told.for {job : CallJob} {waiter : Waiter} {outcome : Outcome} (h : Told d job waiter outcome) (hj : job.For requests) :
    waiter.For requests := by
  cases h with
  | woken => exact hj.1
  | atOnce ha _ => exact ha.for hj

/-- What is told is tame, unless what is asked for is no path at all. -/
theorem Told.tame {job : CallJob} {waiter : Waiter} {outcome : Outcome} (h : Told d job waiter outcome) (hd : d.Proper requests)
    (hj : job.For requests) :
    Tame outcome ∨ ∃ path, Asks d job waiter path ∧ path.isKey = false ∧ outcome = .error (.notAKey path.kind) := by
  cases h with
  | woken => exact Or.inl hj.2
  | @atOnce _ _ path _ ha hnow =>
    have hr := d.cache.asked waiter path
    generalize d.cache.ask waiter path = r at hr hnow
    cases hr with
    | blank => exact Or.inl (Reply.now.inj hnow ▸ tame_ok _)
    | stored => exact Or.inl (Reply.now.inj hnow ▸ tame_ok _)
    | loaded _ _ _ hl ho => exact Or.inl (Reply.now.inj hnow ▸ (hd.loads _ (Cache.load?_mem hl)).outcome _ ho)
    | notAKey _ hk => exact Or.inr ⟨path, ha, hk, (Reply.now.inj hnow).symm⟩
    | begins | joins => nomatch hnow

theorem RootReady.for {job : CallJob} {k : Nat} {resource : Option Json} (h : RootReady d job k resource) (hj : job.For requests) :
    requests[k]? = some .loadRootModels := by
  cases h with
  | noPath => exact hj
  | models ht _ => exact ht.for hj

theorem DeckReady.for {job : CallJob} {selection : Selection} {notes : List Note} {models : Option Json}
    (h : DeckReady d job selection notes models) (hj : job.For requests) : selection.For requests := by
  cases h with
  | noModels => exact hj.1
  | models ht _ => exact ht.for hj

/-- A selection that begins is for the request of its call. -/
theorem Opening.for {job : CallJob} {k : Nat} {node : DeckNode} {mode : RenderMode} (h : Opening d job k node mode)
    (hj : job.For requests) (token : Nat) : Selection.For requests ⟨k, node, token⟩ := by
  cases h with
  | select => exact Or.inl hj
  | setMode => exact Or.inr ⟨_, hj⟩

/-! ## What calls come to -/

/-- The result of a selection is about its deck. -/
theorem deck_fail (selection : Selection) (failure : Failure) (s : Session) : (s.fail selection failure).2.deck = selection.node := by
  rw [Session.fail]
  split <;> rfl

theorem deck_showDeck {selection : Selection} {notes : List Note} {models : Option Json} {s : Session} {r : DeckResult}
    (h : (s.showDeck selection notes models).2 = .ok r) : r.deck = selection.node := by
  rw [Session.showDeck] at h
  split at h
  · cases h
  · split at h
    · rw [Session.renderDeck] at h
      dsimp only at h
      split at h
      · exact Except.ok.inj h ▸ rfl
      · split at h
        · cases h
        · exact Except.ok.inj h ▸ rfl
    · exact Except.ok.inj h ▸ rfl

/-- A call comes to what its request allows. -/
theorem Ending.allows {job : CallJob} {k : Nat} {session : Session} {e : Except Failure CallResult} {result : CallResult}
    (h : Ending d job k session e) (hj : job.For requests) (he : e = .ok result) :
    ∃ request, requests[k]? = some request ∧ request.Allows result := by
  cases h with
  | badMode | noRootModels | noDeckModels => nomatch he
  | noDeck => exact ⟨_, hj, Except.ok.inj he ▸ trivial⟩
  | rootModels hr =>
    obtain ⟨found, -, rfl⟩ := ok_of_map he
    exact ⟨_, hr.for hj, trivial⟩
  | failed =>
    obtain rfl := Except.ok.inj he
    exact hj.1.allows (deck_fail _ _ _)
  | shown hr =>
    obtain ⟨r, hres, rfl⟩ := ok_of_map he
    exact (hr.for hj).allows (deck_showDeck hres)

/-! ## What jobs and answers leave -/

/-- What arrives for a gathering is tame, so that what has been gathered is. -/
theorem Brings.for {job : CallJob} {k : Nat} {f : Gathering → Gathering} (hb : Brings job k f) (hj : job.For requests)
    (h : ∀ g ∈ d.gathering, g.For requests) : ∀ g ∈ arrived k f d.gathering, g.For requests := by
  intro g hg
  obtain ⟨g', hg', rfl⟩ := List.mem_map.1 hg
  split
  · cases hb with
    | data => exact ⟨(h g' hg').selection, fun outcome ho => Option.some.inj ho ▸ hj, (h g' hg').notes⟩
    | notes => exact ⟨(h g' hg').selection, (h g' hg').data, fun answer ha => Option.some.inj ha ▸ hj⟩
  · exact h g' hg'

/-- A job that is for the request of a call leaves everything for the requests of calls. -/
theorem Proper.perform (h : d.Proper requests) {job : CallJob} (hj : job.For requests) :
    (perform job d).state.Proper requests ∧ ∀ job' ∈ (SessionDesk.perform job d).jobs, job'.For requests := by
  have hp := d.performed job
  generalize SessionDesk.perform job d = t at hp
  cases hp with
  | ends he =>
    refine ⟨⟨h.gathering, h.loads, fun k result hmem => ?_⟩, fun _ hm => nomatch hm⟩
    rcases List.mem_append.1 hmem with hmem | hmem
    · exact h.ended k result hmem
    · obtain ⟨rfl, hres⟩ := Prod.mk.inj (List.mem_singleton.1 hmem)
      exact he.allows hj hres.symm
  | opens ho =>
    refine ⟨⟨fun g hg => ?_, h.loads, h.ended⟩, by simp [CallJob.For]⟩
    rcases List.mem_append.1 hg with hg | hg
    · exact h.gathering g hg
    · exact List.mem_singleton.1 hg ▸ ⟨ho.for hj _, nofun, nofun⟩
  | asks ha _ =>
    refine ⟨⟨h.gathering, fun l hl => ?_, h.ended⟩, by simp [CallJob.For]⟩
    rcases List.mem_append.1 hl with hl | hl
    · exact h.loads l hl
    · rw [List.mem_singleton.1 hl]
      exact ⟨fun w hw => List.mem_singleton.1 hw ▸ ha.for hj, nofun⟩
  | joins ha _ _ =>
    refine ⟨⟨h.gathering, fun l hl => ⟨?_, ?_⟩, h.ended⟩, fun _ hm => nomatch hm⟩
    · exact waiting_addWaiter _ (fun l hl => (h.loads l hl).waiters) (ha.for hj) l hl
    · obtain ⟨l', hl', rfl⟩ := List.mem_map.1 hl
      split <;> exact (h.loads l' hl').outcome
  | passes ht =>
    refine ⟨h, fun job' hm => ?_⟩
    rw [List.mem_singleton.1 hm]
    -- The path of the data of a deck is a text.
    refine (ht.tame h hj).resolve_right ?_
    rintro ⟨path, ha, hk, -⟩
    cases ha
    nomatch hk
  | sends => exact ⟨h, fun _ hm => nomatch hm⟩
  | arrives hb _ => exact ⟨⟨hb.for hj h.gathering, h.loads, h.ended⟩, fun _ hm => nomatch hm⟩
  | gathers hb hg =>
    have hall := hb.for hj h.gathering
    refine ⟨⟨fun g hm => hall g (List.mem_filter.1 hm).1, h.loads, h.ended⟩, fun job' hm => ?_⟩
    obtain ⟨hsel, hdata, hnotes⟩ := hall _ (List.mem_of_find?_eq_some hg)
    rw [List.mem_singleton.1 hm]
    exact ⟨hsel, hdata _ rfl, hnotes _ rfl⟩
  | loads => exact ⟨⟨h.gathering, h.loads, h.ended⟩, fun _ hm => nomatch hm⟩
  | forgets => exact ⟨⟨h.gathering, fun l hl => h.loads l (List.mem_filter.1 hl).1, h.ended⟩, fun _ hm => nomatch hm⟩

/-- A tame answer leaves everything for the requests of calls. -/
theorem Proper.receive (h : d.Proper requests) (fetch : Fetch) {answer : Answer} (ha : Tame answer) :
    (receive fetch answer d).state.Proper requests ∧ ∀ job' ∈ (SessionDesk.receive fetch answer d).jobs, job'.For requests := by
  cases fetch with
  | notes k path => exact ⟨h, fun job' hm => List.mem_singleton.1 hm ▸ ha⟩
  | resource path =>
    refine ⟨⟨h.gathering, fun l hl => ?_, h.ended⟩, fun job' hm => ?_⟩
    · obtain ⟨l', hl', -, hw, hout⟩ := Cache.mem_finish_loads hl
      refine ⟨hw ▸ (h.loads l' hl').waiters, fun outcome ho => ?_⟩
      rcases hout with hout | ⟨-, hout⟩
      · exact (h.loads l' hl').outcome outcome (hout ▸ ho)
      · exact Option.some.inj (hout.symm.trans ho) ▸ ha.outcomeOf path
    · obtain ⟨chore, hchore, rfl⟩ := List.mem_map.1 hm
      rcases Cache.mem_finish_chores hchore with rfl | ⟨l, hl, -, w, hw, rfl⟩
      · trivial
      · exact ⟨(h.loads l hl).waiters w hw, ha.outcomeOf path⟩

end SessionDesk

/-! ## Runs -/

/-- The request of a call that is made. -/
def CallEvent.request? : CallEvent → Option Request
  | .call request => some request
  | .run _ | .answer _ _ => none

/-- The requests of the calls that are made, in order. -/
def requestsOf (events : List CallEvent) : List Request := events.filterMap CallEvent.request?

/-- A fetch ends with a text, or since the resource could not be fetched. -/
def CallEvent.Tame : CallEvent → Prop
  | .answer _ a => Flashcards.Tame a
  | .call _ => True
  | .run _ => True

namespace SessionAgenda

variable {a : SessionAgenda} {requests : List Request}

/-- Everything is for the requests of calls. -/
structure Proper (requests : List Request) (a : SessionAgenda) : Prop where
  desk : a.state.Proper requests
  ready : ∀ job ∈ a.ready, job.For requests
  calls : a.state.calls = requests.length

theorem fresh_proper (mode : RenderMode) (rootModels : Json) : (fresh mode rootModels).Proper [] where
  desk := ⟨fun _ h => (nomatch h), fun _ h => (nomatch h), fun _ _ h => (nomatch h)⟩
  ready _ h := nomatch h
  calls := rfl

/-- A job leaves the number of calls as it is. -/
theorem perform_calls (job : CallJob) (d : SessionDesk) : (SessionDesk.perform job d).state.calls = d.calls := by
  have hp := d.performed job
  generalize SessionDesk.perform job d = t at hp
  cases hp <;> rfl

theorem Proper.step (h : a.Proper requests) {event : CallEvent} (ht : event.Tame) :
    (a.step event).Proper (requests ++ event.request?.toList) := by
  cases event with
  | call request =>
    refine ⟨⟨(h.desk.append _).gathering, (h.desk.append _).loads, (h.desk.append _).ended⟩, fun job hjob => ?_, ?_⟩
    · rcases List.mem_append.1 hjob with hjob | hjob
      · exact (h.ready job hjob).append _
      · rw [List.mem_singleton.1 hjob]
        show (requests ++ [request])[a.state.calls]? = some request
        rw [h.calls, List.getElem?_concat_length]
    · rw [List.length_append, ← h.calls]
      rfl
  | run i =>
    rw [CallEvent.request?, Option.toList_none, List.append_nil, SessionAgenda.step]
    cases hj : a.ready[i]? with
    | none => rw [Agenda.runAt_of_none _ hj]; exact h
    | some job =>
      obtain ⟨hd, hjobs⟩ := h.desk.perform (h.ready job (List.mem_of_getElem? hj))
      rw [Agenda.runAt_of_some _ hj]
      exact ⟨hd, Agenda.forall_mem_eraseIdx_append h.ready hjobs i, (perform_calls job a.state).trans h.calls⟩
  | answer i answer =>
    rw [CallEvent.request?, Option.toList_none, List.append_nil, SessionAgenda.step]
    cases hf : a.out[i]? with
    | none => rw [Agenda.answerAt_of_none _ hf]; exact h
    | some fetch =>
      obtain ⟨hd, hjobs⟩ := h.desk.receive fetch (show Flashcards.Tame answer from ht)
      rw [Agenda.answerAt_of_some _ hf]
      refine ⟨hd, List.forall_mem_append.2 ⟨h.ready, hjobs⟩, ?_⟩
      rw [← h.calls]
      cases fetch <;> rfl

/-- Whatever happens, everything is for the requests of calls, if the fetches end as they should. -/
theorem Proper.after (h : a.Proper requests) {events : List CallEvent} (ht : ∀ event ∈ events, event.Tame) :
    (a.after events).Proper (requests ++ requestsOf events) := by
  induction events generalizing a requests with
  | nil => rwa [requestsOf, List.filterMap_nil, List.append_nil]
  | cons event events ih =>
    have hi := ih (h.step (ht event List.mem_cons_self)) fun e he => ht e (List.mem_cons_of_mem event he)
    rw [requestsOf, List.filterMap_cons]
    cases hr : event.request? with
    | none => rw [hr, Option.toList_none, List.append_nil] at hi; exact hi
    | some request => rw [hr, Option.toList_some, List.append_assoc] at hi; exact hi

end SessionAgenda

end Flashcards

import Flashcards.Proofs.Session.Rejection
import Flashcards.Proofs.Session.Requests

/-!
# Failures that escape

A call ends with a failure instead of a result in six cases (`SessionDesk.Escapes`): a word names no mode; a list or an object stands
where the path of models is expected; a template of models cannot be hoisted, whose libraries are taken in when the models are registered;
and a note of the newest selection cannot be rendered. All other failures are shown on the page or done without. `SessionDesk.failed_iff`
says that these cases are all, where fetches end with a text or with a failure to fetch.
-/

namespace Flashcards

namespace SessionDesk

variable {d : SessionDesk} {requests : List Request}

/-! ## What a job does with what it is told -/

/-- A request that is answered at once goes on with the answer. -/
theorem ask_now {waiter : Waiter} {path : Json} {outcome : Outcome} (h : (d.cache.ask waiter path).2 = .now outcome)
    (answered : Outcome → Step) : d.ask waiter path answered = answered outcome := by
  rw [ask]
  generalize d.cache.ask waiter path = r at h
  obtain ⟨cache, reply⟩ := r
  obtain rfl : reply = .now outcome := h
  rfl

/-- Who is told at once goes on like one who is woken. -/
theorem Told.perform {job : CallJob} {waiter : Waiter} {outcome : Outcome} (h : Told d job waiter outcome) :
    SessionDesk.perform job d = d.wake outcome waiter := by
  cases h with
  | woken => rfl
  | atOnce ha hnow =>
    cases ha with
    | rootModels hb =>
      rw [SessionDesk.perform, begin, beginRootModels, hb, if_neg Bool.false_ne_true, ask_now hnow]
      rfl
    | deckData => exact ask_now hnow _
    | deckModels hn hb =>
      simp only [SessionDesk.perform, gathered, hn, askModels, hb, Bool.false_eq_true, if_false]
      exact ask_now hnow _

/-- A job that has all it needs brings the selection of a deck to its end. -/
theorem DeckReady.perform {job : CallJob} {selection : Selection} {notes : List Note} {models : Option Json}
    (h : DeckReady d job selection notes models) : SessionDesk.perform job d = .rest (d.showDeck selection notes models) := by
  cases h with
  | noModels hn hb => simp only [SessionDesk.perform, gathered, hn, askModels, hb, if_true]
  | models ht hf => rw [ht.perform, wake, deckModelsCame, hf]

/-- A job that has all it needs registers the models that all decks share. -/
theorem RootReady.perform {job : CallJob} {k : Nat} {resource : Option Json} (h : RootReady d job k resource) :
    SessionDesk.perform job d = .rest (d.conclude k .loaded (d.session.takeRootModels resource)) := by
  cases h with
  | noPath hb => rw [SessionDesk.perform, begin, beginRootModels, hb, if_pos rfl]
  | models ht hf => rw [ht.perform, wake, rootModelsCame, hf]

/-- What is no path is answered at once, with a failure. -/
theorem told_notAKey {job : CallJob} {waiter : Waiter} {path : Json} (ha : Asks d job waiter path) (hb : path.isBlank = false)
    (hk : path.isKey = false) : Told d job waiter (.error (.notAKey path.kind)) := by
  refine .atOnce ha ?_
  rw [Cache.ask, hb, hk]
  rfl

/-! ## The six cases -/

/-- A failure escapes from a job: its call ends with it. -/
inductive Escapes (d : SessionDesk) : CallJob → Prop
  /-- A value names no mode. -/
  | mode {k : Nat} {value : Json} {failure : Failure} (hm : RenderMode.ofJson value = .error failure) :
    Escapes d (.begin k (.setMode value))
  /-- The path of the models that all decks share is a list or an object. -/
  | rootModels {k : Nat} (hb : d.rootModels.isBlank = false) (hk : d.rootModels.isKey = false) : Escapes d (.begin k .loadRootModels)
  /-- A template of the models that all decks share cannot be hoisted. -/
  | rootTemplate {job : CallJob} {k : Nat} {data : Json} {t : Text} (hr : RootReady d job k (some data))
    (ht : t ∈ Workspace.templateTexts (NoteModel.listOf data)) (hx : Page.Unhoistable t) : Escapes d job
  /-- The notes of a deck are there, and the path of its models is a list or an object. -/
  | deckModels {selection : Selection} {data : Outcome} {answer : Answer} {notes : List Note} (hn : notesOf data answer = .ok notes)
    (hb : selection.node.modelsPath.isBlank = false) (hk : selection.node.modelsPath.isKey = false) :
    Escapes d (.gathered selection data answer)
  /-- A template of the models of a deck cannot be hoisted. -/
  | deckTemplate {job : CallJob} {selection : Selection} {notes : List Note} {data : Json} {t : Text}
    (hr : DeckReady d job selection notes (some data)) (ht : t ∈ Workspace.templateTexts (NoteModel.listOf data))
    (hx : Page.Unhoistable t) : Escapes d job
  /-- A note of the newest selection cannot be rendered with the models that are registered by then. -/
  | note {job : CallJob} {selection : Selection} {notes : List Note} {models : Option Json} {note : Note}
    (hr : DeckReady d job selection notes models) (hnew : d.session.isNewest selection = true) (hn : note ∈ notes)
    (hx : note.Unrenderable ((d.session.models.merge ((models.map NoteModel.listOf).getD [])).resolve note) d.session.mode) :
    Escapes d job

theorem ended_conclude {α : Type} {k : Nat} {wrap : α → CallResult} {r : Session × Except Failure α} (h : Failed r.2) :
    ∃ failure, (d.conclude k wrap r).ended = d.ended ++ [(k, .error failure)] := by
  obtain ⟨failure, hf⟩ := h
  refine ⟨failure, ?_⟩
  rw [conclude, finish, hf]
  rfl

/-- In each of the cases the call ends with a failure. -/
theorem Escapes.ended {job : CallJob} (h : Escapes d job) :
    ∃ k failure, (SessionDesk.perform job d).state.ended = d.ended ++ [(k, .error failure)] := by
  cases h with
  | mode hm => exact ⟨_, _, by rw [SessionDesk.perform, begin, beginSetMode, hm]; rfl⟩
  | rootModels hb hk => exact ⟨_, _, by rw [(told_notAKey (.rootModels hb) hb hk).perform]; rfl⟩
  | deckModels hn hb hk => exact ⟨_, _, by rw [(told_notAKey (.deckModels hn hb) hb hk).perform]; rfl⟩
  | rootTemplate hr ht hx =>
    rw [hr.perform]
    exact ⟨_, ended_conclude ((d.session.failed_takeRootModels _).2 ⟨_, rfl, _, ht, hx⟩)⟩
  | deckTemplate hr ht hx =>
    rw [hr.perform]
    exact ⟨_, ended_conclude ((d.session.failed_showDeck _ _ _).2 (Or.inl ⟨_, ht, hx⟩))⟩
  | note hr hnew hn hx =>
    rw [hr.perform]
    exact ⟨_, ended_conclude ((d.session.failed_showDeck _ _ _).2 (Or.inr ⟨hnew, _, hn, hx⟩))⟩

/-- An optional resource that is told of fails only where what is asked for is no path. -/
theorem Told.notAKey {job : CallJob} {waiter : Waiter} {outcome : Outcome} {failure : Failure} (h : Told d job waiter outcome)
    (hd : d.Proper requests) (hj : job.For requests) (hf : Optional.ofOutcome outcome = .error failure) :
    ∃ path, Asks d job waiter path ∧ path.isKey = false := by
  rcases h.tame hd hj with ht | ⟨path, ha, hk, -⟩
  · obtain ⟨found, hfound⟩ := ht.ofOutcome
    rw [hf] at hfound
    nomatch hfound
  · exact ⟨path, ha, hk⟩

/-- A call that ends with a failure ends in one of the cases. -/
theorem Ending.escapes {job : CallJob} {k : Nat} {session : Session} {result : Except Failure CallResult}
    (h : Ending d job k session result) (hd : d.Proper requests) (hj : job.For requests) (hf : Failed result) : Escapes d job := by
  cases h with
  | badMode hm => exact .mode hm
  | noDeck | failed => exact absurd hf not_failed_ok
  | noRootModels ht hout =>
    obtain ⟨path, ha, hk⟩ := ht.notAKey hd hj hout
    cases ha with
    | rootModels hb => exact .rootModels hb hk
  | noDeckModels ht hout =>
    obtain ⟨path, ha, hk⟩ := ht.notAKey hd hj hout
    cases ha with
    | deckModels hn hb => exact .deckModels hn hb hk
  | rootModels hr =>
    obtain ⟨data, rfl, t, ht, hx⟩ := (d.session.failed_takeRootModels _).1 (failed_map.1 hf)
    exact .rootTemplate hr ht hx
  | @shown _ selection notes models hr =>
    rcases (d.session.failed_showDeck _ _ _).1 (failed_map.1 hf) with ⟨t, ht, hx⟩ | ⟨hnew, note, hn, hx⟩
    · cases models with
      | none => nomatch ht
      | some data => exact .deckTemplate hr ht hx
    · exact .note hr hnew hn hx

/-- A call that ends comes to a failure exactly in these cases. -/
theorem failed_iff {job : CallJob} {k : Nat} {result : Except Failure CallResult} (hd : d.Proper requests) (hj : job.For requests)
    (he : (perform job d).state.ended = d.ended ++ [(k, result)]) : Failed result ↔ Escapes d job := by
  constructor
  · intro hf
    have hp := d.performed job
    have hno : d.ended ≠ d.ended ++ [(k, result)] := fun heq => by simpa using congrArg List.length heq
    generalize perform job d = t at hp he
    cases hp with
    | ends hend =>
      obtain ⟨rfl, rfl⟩ := Prod.mk.inj (List.singleton_inj.1 (List.append_cancel_left he))
      exact hend.escapes hd hj hf
    | opens | asks | joins | passes | sends | arrives | gathers | loads | forgets => exact absurd he hno
  · intro hesc
    obtain ⟨k', failure, hended⟩ := hesc.ended
    rw [hended] at he
    obtain ⟨-, hres⟩ := Prod.mk.inj (List.singleton_inj.1 (List.append_cancel_left he))
    exact ⟨failure, hres.symm⟩

end SessionDesk

end Flashcards

import Flashcards.Proofs.Session.Escapes
import Flashcards.Proofs.Session.Newest
import Flashcards.Proofs.Session.Rest

/-!
# What failures do to calls

Where fetches end with a text or with a failure to fetch, every call ends, and it ends with what its request is for, unless a failure
escapes (`Course.failures_contained`). That no failure ever escapes is not true (`Course.failures_propagate`): a template that is rejected
ends the call that brings it, since its libraries are taken in outside of what is guarded, and so does a list in the place of a path.
-/

namespace Flashcards

open Text Markup Markup.Node SessionDesk

namespace Course

variable {c : Course}

/-- What failures do to the calls that are under way, given the requests they were made for. -/
structure Contained (requests : List Request) (c : Course) : Prop where
  /-- Each job that runs, and each fetch that is answered, leaves less to do. -/
  nearer : (∀ i < c.agenda.ready.length, burden.of (c.step (.run i)).agenda < burden.of c.agenda) ∧
    ∀ i < c.agenda.out.length, ∀ answer, burden.of (c.step (.answer i answer)).agenda < burden.of c.agenda
  /-- When no job is ready and no fetch is out, every call has ended, once. -/
  ended : c.agenda.ready = [] → c.agenda.out = [] → (c.ended.map (·.1)).Perm (List.range requests.length)
  /-- A call that has ended without a failure has come to what its request is for. -/
  allowed : ∀ k result, (k, .ok result) ∈ c.ended → ∃ request, requests[k]? = some request ∧ request.Allows result
  /-- A call ends with a failure exactly if a failure escapes from the job that ends it. -/
  escaped : ∀ event k result, (c.step event).ended = c.ended ++ [(k, result)] →
    (Failed result ↔ ∃ i job, event = .run i ∧ c.agenda.ready[i]? = some job ∧ Escapes c.agenda.state job)
  /-- The page has all its regions, so that none is missing when it is to be changed. -/
  regions : ∀ id ∈ [Page.titleId, Page.controlsId, Page.modeId, Page.cardsId, Page.libraryId, Page.deferredId],
    (c.session.page.byId? id).isSome = true
  /-- The messages that are put in the place of the cards are not rejected, whatever the words of a failure are. -/
  messages : (c.session.page.showMessage Chrome.loading).2 = none ∧ (c.session.page.showMessage Chrome.noNotes).2 = none ∧
    ∀ failure : Failure, (c.session.page.showMessage (Chrome.errorMarkup failure.message)).2 = none

/-- However calls overlap, and whatever the fetches bring, every call ends with what its request is for, unless a failure escapes, and
it is said exactly when one does. -/
theorem failures_contained (mode : RenderMode) (rootModels : Json) (events : List CallEvent) (ht : ∀ event ∈ events, event.Tame) :
    ((fresh mode rootModels).after events).Contained (requestsOf events) := by
  have hagenda := after_agenda events (fresh mode rootModels)
  have hb := (SessionAgenda.fresh_balanced mode rootModels).after events
  have hl := (SessionAgenda.fresh_balanced mode rootModels).lacking_after (fun _ h => nomatch h) events
  have hp := (SessionAgenda.fresh_proper mode rootModels).after ht
  obtain ⟨l, hpage⟩ := ((fresh_faithful mode rootModels).after (fresh_orderly mode rootModels) events).laidOut
  rw [show SessionAgenda.fresh mode rootModels = (fresh mode rootModels).agenda from rfl, ← hagenda] at hb hl hp
  generalize (fresh mode rootModels).after events = c at hb hl hp hpage
  refine ⟨⟨fun i hi => hb.burden_run hi, fun i hi answer => hb.burden_answer hi answer⟩, fun hr ho => ?_, hp.desk.ended, ?_,
    Page.isSome_byId? hpage, ?_, ?_, fun failure => ?_⟩
  · have hall := hb.all_ended hl hr ho
    rwa [hp.calls] at hall
  · intro event k result he
    obtain ⟨i, job, rfl, hj⟩ := run_of_ended he
    rw [step_run hj] at he
    rw [failed_iff hp.desk (hp.ready job (List.mem_of_getElem? hj)) he]
    constructor
    · exact fun hesc => ⟨i, job, rfl, hj, hesc⟩
    · rintro ⟨i', job', hi, hj', hesc⟩
      obtain rfl := CallEvent.run.inj hi
      rw [hj] at hj'
      exact Option.some.inj hj' ▸ hesc
  · rw [Page.showMessage, Page.fragment_loading]
  · rw [Page.showMessage, Page.fragment_noNotes]
  · rw [Page.showMessage, Page.fragment_errorMarkup]

/-! ## Failures that escape -/

/-- The definition of a deck with a list in the place of the path of its models. -/
def strayDefinition : Json := .object [("name", .text "a"), ("modelsPath", .list [.null])]

/-- The deck of this definition. -/
def strayDeck : DeckNode := ⟨"a", "deck.json", "notes.html", .null, .list [.null], "a", []⟩

/-- The models that all decks share come, with a template that is rejected. -/
def rejected : List CallEvent :=
  [.call .loadRootModels, .run 0, .run 0,
    .answer 0 (.ok "\x7b\"note_models\":[\x7b\"tmpls\":[\x7b\"qfmt\":\"<![x[y]]>\"\x7d]\x7d]\x7d"), .run 0]

/-- Then a deck is selected that has a list in the place of the path of its models. -/
def stray : List CallEvent :=
  [.run 0, .call (.select strayDeck), .run 0, .run 0, .run 0, .run 0, .answer 0 (.ok []), .answer 0 (.ok "\x7b\x7d"), .run 0, .run 0,
    .run 0, .run 0, .run 0]

theorem tame_rejected : ∀ event ∈ rejected, event.Tame := by
  simp [rejected, CallEvent.Tame, tame_ok]

theorem tame_stray : ∀ event ∈ stray, event.Tame := by
  simp [stray, CallEvent.Tame, tame_ok]

/-- Both calls end without a result. -/
theorem ended_stray :
    (((fresh .raw (.text "models.json")).after (rejected ++ stray)).ended.map fun e => (e.1, e.2.toOption.isNone)) =
      [(0, true), (1, true)] := by
  decide +kernel

/-- It is not true that no failure ever escapes from a call that loads models or selects a deck of a definition. -/
theorem failures_propagate :
    ¬ ∀ (mode : RenderMode) (rootModels : Json) (events : List CallEvent), (∀ event ∈ events, event.Tame) →
      (∀ request ∈ requestsOf events,
        request = .loadRootModels ∨ ∃ definition node, DeckNode.ofJson [] definition = .ok node ∧ request = .select node) →
      ∀ k result, (k, result) ∈ ((fresh mode rootModels).after events).ended → ¬ Failed result := by
  intro h
  obtain ⟨e, he, heq⟩ := List.mem_map.1 (ended_stray ▸ List.mem_cons_self :
    (0, true) ∈ ((fresh .raw (.text "models.json")).after (rejected ++ stray)).ended.map fun e => (e.1, e.2.toOption.isNone))
  refine h .raw (.text "models.json") (rejected ++ stray) (fun event he => ?_) (fun request hr => ?_) e.1 e.2 he
    (failed_iff_isNone.2 (Prod.mk.inj heq).2)
  · exact (List.mem_append.1 he).elim (tame_rejected event) (tame_stray event)
  · have hreq : requestsOf (rejected ++ stray) = [.loadRootModels, .select strayDeck] := rfl
    rw [hreq] at hr
    rcases List.mem_cons.1 hr with rfl | hr
    · exact Or.inl rfl
    · exact Or.inr ⟨strayDefinition, strayDeck, rfl, List.mem_singleton.1 hr⟩

/-- A failure escapes from the job that has the models that all decks share when one of their templates is rejected. -/
theorem failures_contained_rejected :
    (∀ event ∈ rejected, event.Tame) ∧
      ∃ job, ((fresh .raw (.text "models.json")).after rejected).agenda.ready[0]? = some job ∧
        Escapes ((fresh .raw (.text "models.json")).after rejected).agenda.state job := by
  have h := failures_contained .raw (.text "models.json") rejected tame_rejected
  have hbefore : ((fresh .raw (.text "models.json")).after rejected).ended = [] := rfl
  have hafter : ((((fresh .raw (.text "models.json")).after rejected).step (.run 0)).ended.map fun e => (e.1, e.2.toOption.isNone)) =
      [(0, true)] := by decide +kernel
  obtain ⟨e, hend, heq⟩ := List.map_eq_singleton_iff.1 hafter
  rw [← List.nil_append [e], ← hbefore] at hend
  obtain ⟨i, job, hi, hj, hesc⟩ := (h.escaped _ _ _ hend).1 (failed_iff_isNone.2 (Prod.mk.inj heq).2)
  obtain rfl := CallEvent.run.inj hi
  exact ⟨tame_rejected, job, hj, hesc⟩

end Course

end Flashcards

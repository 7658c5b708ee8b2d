import Flashcards.Proofs.Session.Alike
import Flashcards.Proofs.Session.Newest
import Flashcards.Proofs.Session.Rest
import Flashcards.Proofs.Session.Sourced

/-!
# Visits to decks

A session whose contents are fixed makes moves (`Move`): it is called to load the models that all decks share or to select a deck, a job
runs, or a fetch ends with what the contents have for it. Whatever moves are made, everything that is on its way is what the contents say
(`Course.Kept`).

When nothing is under way, a deck may be selected, and then only this call is under way until another is made (`Course.Visiting`). The
call passes through its stages (`Course.Stage`): its selection has not begun, it has begun, the call has ended. If it ends with cards,
these are made in the session as it was when the deck was selected, of the notes and the models that the contents have for the deck.
-/

namespace Flashcards

open Text Markup Markup.Node SessionDesk

/-! ## Moves -/

/-- What can happen to a session whose contents are fixed: the models that all decks share are loaded, a deck is selected, a job runs, or
a fetch ends. -/
inductive Move where
  | load
  | select (node : DeckNode)
  | run (i : Nat)
  | answer (i : Nat)

namespace Move

/-- What happens with a move. -/
def event (contents : Contents) (a : SessionAgenda) : Move → CallEvent
  | .load => .call .loadRootModels
  | .select node => .call (.select node)
  | .run i => .run i
  | .answer i => .answer i (match a.out[i]? with | some fetch => contents.answer fetch.path | none => .ok [])

/-- The request that is made with a move, if there is one. -/
def request? : Move → Option Request
  | .load => some .loadRootModels
  | .select node => some (.select node)
  | .run _ | .answer _ => none

theorem event_tame (contents : Contents) (a : SessionAgenda) (move : Move) : (move.event contents a).Tame := by
  cases move with
  | load | select | run => trivial
  | answer i =>
    rw [event]
    split
    · exact Contents.tame_answer _
    · exact tame_ok []

theorem event_request? (contents : Contents) (a : SessionAgenda) (move : Move) :
    (move.event contents a).request? = move.request? := by
  cases move <;> rfl

end Move

namespace Course

variable {contents : Contents} {mode : RenderMode} {c : Course} {requests : List Request}

/-- A move made. -/
def go (contents : Contents) (c : Course) (move : Move) : Course := c.step (move.event contents c.agenda)

/-- Moves made one after the other. -/
def goes (contents : Contents) (moves : List Move) (c : Course) : Course := moves.foldl (go contents) c

/-- No job is ready, and no fetch is out. -/
def AtRest (c : Course) : Prop := c.agenda.ready = [] ∧ c.agenda.out = []

/-! ## What moves keep -/

/-- What holds of a session whose contents are fixed, in a mode, given the requests that have been made. -/
structure Kept (contents : Contents) (mode : RenderMode) (requests : List Request) (c : Course) : Prop where
  orderly : c.Orderly
  faithful : c.Faithful
  proper : c.agenda.Proper requests
  decks : OnlyDecks requests
  desk : c.agenda.state.Sourced contents
  ready : ∀ job ∈ c.agenda.ready, job.From contents requests
  out : ∀ fetch ∈ c.agenda.out, fetch.From requests
  lacking : c.agenda.state.Lacking
  mode : c.session.mode = mode

theorem fresh_kept (contents : Contents) (mode : RenderMode) (rootModels : Json) : (fresh mode rootModels).Kept contents mode [] where
  orderly := fresh_orderly mode rootModels
  faithful := fresh_faithful mode rootModels
  proper := SessionAgenda.fresh_proper mode rootModels
  decks _ _ h := nomatch h
  desk := ⟨fun _ h => (nomatch h), fun _ h => (nomatch h), fun _ h => (nomatch h), fun _ h => (nomatch h)⟩
  ready _ h := nomatch h
  out _ h := nomatch h
  lacking _ h := nomatch h
  mode := rfl

/-- The end of a call keeps the mode, unless it was made to change it. -/
theorem mode_of_ending {d : SessionDesk} {job : CallJob} {k : Nat} {session : Session} {result : Except Failure CallResult}
    (h : SessionDesk.Ending d job k session result) (ho : OnlyDecks requests) (hj : job.For requests) : session.mode = d.session.mode := by
  cases h with
  | badMode | noRootModels | noDeckModels => rfl
  | noDeck => exact absurd hj (ho _ _)
  | rootModels => exact Session.takeRootModels_mode _ _
  | failed => exact Session.fail_mode _ _ _
  | shown => exact Session.showDeck_mode _ _ _ _

/-- The beginning of a selection keeps the mode, unless it is a change of the mode. -/
theorem mode_of_opening {d : SessionDesk} {job : CallJob} {k : Nat} {node : DeckNode} {mode : RenderMode}
    (h : Opening d job k node mode) (ho : OnlyDecks requests) (hj : job.For requests) : mode = d.session.mode := by
  cases h with
  | select => rfl
  | setMode => exact absurd hj (ho _ _)

/-- A job keeps the mode, unless its call was made to change it. -/
theorem mode_perform {d : SessionDesk} {job : CallJob} (ho : OnlyDecks requests) (hj : job.For requests) :
    (perform job d).state.session.mode = d.session.mode := by
  have hp := d.performed job
  generalize perform job d = t at hp
  cases hp with
  | ends he => exact mode_of_ending he ho hj
  | opens hop => exact mode_of_opening hop ho hj
  | asks | joins | passes | sends | arrives | gathers | loads | forgets => rfl

theorem onlyDecks_append (ho : OnlyDecks requests) (move : Move) : OnlyDecks (requests ++ move.request?.toList) := by
  intro k value h
  rw [List.getElem?_append] at h
  split at h
  · exact ho k value h
  · cases move <;> simp [Move.request?, List.getElem?_singleton] at h

theorem from_append (more : List Request) {job : CallJob} (h : job.From contents requests) : job.From contents (requests ++ more) := by
  cases job with
  | askNotes | notesArrived =>
    obtain ⟨node, hnode, heq⟩ := h
    exact ⟨node, request_append more hnode, heq⟩
  | begin | askData | dataArrived => trivial
  | gathered => exact h
  | chore chore =>
    cases chore with
    | load | forget => trivial
    | wake waiter => cases waiter <;> exact h

/-- A move that makes a request keeps all this. -/
theorem Kept.call (h : c.Kept contents mode requests) {request : Request} (ho : OnlyDecks (requests ++ [request])) :
    (c.step (.call request)).Kept contents mode (requests ++ [request]) where
  orderly := h.orderly.step _
  faithful := h.faithful.step h.orderly _
  proper := h.proper.step (show (CallEvent.call request).Tame from trivial)
  decks := ho
  desk := ⟨h.desk.gathering, h.desk.waiters, h.desk.outcome, h.desk.stored⟩
  ready job hjob := by
    rcases List.mem_append.1 hjob with hjob | hjob
    · exact from_append _ (h.ready job hjob)
    · exact List.mem_singleton.1 hjob ▸ trivial
  out fetch hf := by
    have hfrom := h.out fetch hf
    cases fetch with
    | resource => trivial
    | notes =>
      obtain ⟨node, hnode, heq⟩ := hfrom
      exact ⟨node, request_append _ hnode, heq⟩
  lacking := h.orderly.balanced.lacking_step h.lacking _
  mode := h.mode

/-- A job that runs keeps all this. -/
theorem Kept.run (h : c.Kept contents mode requests) (i : Nat) : (c.step (.run i)).Kept contents mode requests := by
  have hproper := h.proper.step (show (CallEvent.run i).Tame from trivial)
  rw [CallEvent.request?, Option.toList_none, List.append_nil] at hproper
  have horderly := h.orderly.step (.run i)
  have hfaithful := h.faithful.step h.orderly (.run i)
  have hlacking : (c.step (.run i)).agenda.state.Lacking := h.orderly.balanced.lacking_step h.lacking (.run i)
  cases hj : c.agenda.ready[i]? with
  | none => rwa [step_run_of_none hj]
  | some job =>
    rw [step_run hj] at horderly hfaithful hlacking ⊢
    rw [SessionAgenda.step, Agenda.runAt_of_some _ hj] at hproper
    have hfor := h.proper.ready job (List.mem_of_getElem? hj)
    obtain ⟨hdesk, hjobs, hfetches⟩ := h.desk.perform h.decks h.proper.desk hfor (h.ready job (List.mem_of_getElem? hj))
    exact ⟨horderly, hfaithful, hproper, h.decks, hdesk, Agenda.forall_mem_eraseIdx_append h.ready hjobs i,
      List.forall_mem_append.2 ⟨h.out, hfetches⟩, hlacking, (mode_perform h.decks hfor).trans h.mode⟩

/-- A fetch that ends with what the contents have for it keeps all this. -/
theorem Kept.answer (h : c.Kept contents mode requests) (i : Nat) :
    (c.go contents (.answer i)).Kept contents mode requests := by
  have hproper := h.proper.step ((Move.answer i).event_tame contents c.agenda)
  rw [Move.event_request?, Move.request?, Option.toList_none, List.append_nil] at hproper
  have horderly := h.orderly.step ((Move.answer i).event contents c.agenda)
  have hfaithful := h.faithful.step h.orderly ((Move.answer i).event contents c.agenda)
  cases hf : c.agenda.out[i]? with
  | none => rwa [go, Move.event, step_answer_of_none hf]
  | some fetch =>
    rw [go]
    rw [Move.event, hf] at horderly hfaithful hproper ⊢
    dsimp only at horderly hfaithful hproper ⊢
    rw [step_answer hf] at horderly hfaithful ⊢
    rw [SessionAgenda.step, Agenda.answerAt_of_some _ hf] at hproper
    obtain ⟨hdesk, hjobs⟩ := h.desk.receive (h.out fetch (List.mem_of_getElem? hf))
    refine ⟨horderly, hfaithful, hproper, h.decks, hdesk, List.forall_mem_append.2 ⟨h.ready, hjobs⟩,
      Agenda.forall_mem_eraseIdx_append h.out (fun fetch' hm => ?_) i, ?_, ?_⟩
    · cases fetch <;> cases hm
    · cases fetch <;> exact h.lacking
    · cases fetch <;> exact h.mode

/-- A move keeps all this. -/
theorem Kept.go (h : c.Kept contents mode requests) (move : Move) :
    (c.go contents move).Kept contents mode (requests ++ move.request?.toList) := by
  have ho := onlyDecks_append h.decks move
  cases move with
  | load | select => exact h.call ho
  | run i => exact (List.append_nil requests).symm ▸ h.run i
  | answer i => exact (List.append_nil requests).symm ▸ h.answer i

/-- Moves keep all this. -/
theorem Kept.goes (h : c.Kept contents mode requests) (moves : List Move) :
    (c.goes contents moves).Kept contents mode (requests ++ moves.filterMap Move.request?) := by
  induction moves generalizing c requests with
  | nil => rwa [List.filterMap_nil, List.append_nil]
  | cons move moves ih =>
    have hi := ih (h.go move)
    rw [List.filterMap_cons]
    cases hr : move.request? with
    | none => rw [hr, Option.toList_none, List.append_nil] at hi; exact hi
    | some request => rw [hr, Option.toList_some, List.append_assoc] at hi; exact hi

/-! ## One deck -/

/-- How far the call has come that was made to select a deck when nothing was under way, in a session `s`: its selection has not begun,
it has begun, or the call has ended. A call that has ended with cards has left the session as it was then, with the notes and the models
that the contents have for the deck. -/
inductive Stage (contents : Contents) (s : Session) (k : Nat) (node : DeckNode) (c : Course) : Prop
  | made (hs : c.session = s) (hst : k ∉ c.started.map (·.1)) (he : ∀ e ∈ c.ended, e.1 ≠ k)
  | begun (hs : c.session = s.select node) (hst : k ∈ c.started.map (·.1)) (he : ∀ e ∈ c.ended, e.1 ≠ k)
  | ended (he : k ∈ c.ended.map (·.1))
    (hr : ∀ r, (k, .ok (.shown r)) ∈ c.ended → r.status = .rendered → ∃ selection : Selection, selection.node = node ∧
      ((s.select node).showDeck selection (contents.notes node) (contents.models? node)).2 = .ok r ∧
      c.session = ((s.select node).showDeck selection (contents.notes node) (contents.models? node)).1)

/-- What holds while only the call to select a deck is under way, that was made after others in a session `s`. -/
structure Visiting (contents : Contents) (mode : RenderMode) (requests : List Request) (s : Session) (node : DeckNode) (c : Course) :
    Prop where
  kept : c.Kept contents mode (requests ++ [.select node])
  others : ∀ k < requests.length, k ∈ c.ended.map (·.1)
  stage : c.Stage contents s requests.length node

variable {c' : Course} {s : Session} {k : Nat} {node : DeckNode}

theorem Stage.of_eq (h : c.Stage contents s k node) (hs : c'.session = c.session) (he : c'.ended = c.ended)
    (hst : c'.started = c.started) : c'.Stage contents s k node := by
  cases h with
  | made hs' hst' he' => exact .made (hs.trans hs') (hst ▸ hst') (he ▸ he')
  | begun hs' hst' he' => exact .begun (hs.trans hs') (hst ▸ hst') (he ▸ he')
  | ended he' hr => exact .ended (he ▸ he') (by rw [hs, he]; exact hr)

/-- A call that is made when nothing is under way is the only one that is. -/
theorem Kept.visiting (h : c.Kept contents mode requests) (hr : c.AtRest) (node : DeckNode) :
    (c.go contents (.select node)).Visiting contents mode requests c.session node := by
  have hall := h.orderly.balanced.all_ended h.lacking hr.1 hr.2
  rw [h.proper.calls] at hall
  have hnew : ∀ e ∈ c.ended, e.1 ≠ requests.length := fun e he heq =>
    Nat.lt_irrefl _ (List.mem_range.1 (heq ▸ hall.mem_iff.1 (List.mem_map_of_mem he)))
  refine ⟨h.go (.select node), fun k hk => hall.mem_iff.2 (List.mem_range.2 hk), .made rfl (fun hk => ?_) hnew⟩
  have hone := h.orderly.once requests.length
  have hsame : (c.go contents (.select node)).started = c.started := List.append_nil _
  have hpos := List.count_pos_iff.2 (hsame ▸ hk)
  rw [Thread.made, h.proper.calls, if_neg (Nat.lt_irrefl _)] at hone
  omega

/-- What is under way for a call is under way for the one that was made last. -/
theorem Visiting.eq_of_thread (h : c.Visiting contents mode requests s node) {i : Nat} {job : CallJob}
    (hj : c.agenda.ready[i]? = some job) (ht : job.thread = .call k) : k = requests.length := by
  have hlt := h.kept.orderly.balanced.lt_calls hj ht
  rw [h.kept.proper.calls, List.length_append, List.length_singleton] at hlt
  have hnot := h.kept.orderly.balanced.not_ended hj ht
  refine Nat.le_antisymm (Nat.le_of_lt_succ hlt) (Nat.le_of_not_lt fun hk => ?_)
  obtain ⟨e, he, heq⟩ := List.mem_map.1 (h.others k hk)
  exact hnot e he heq

/-- A call that ends with cards has had all that its deck needs. -/
theorem rendered_of_ending {d : SessionDesk} {job : CallJob} {session : Session} {result : Except Failure CallResult} {r : DeckResult}
    (h : SessionDesk.Ending d job k session result) (hres : result = .ok (.shown r)) (hr : r.status = .rendered) :
    ∃ selection notes models, DeckReady d job selection notes models ∧ selection.call = k ∧
      (d.session.showDeck selection notes models).2 = .ok r ∧ session = (d.session.showDeck selection notes models).1 := by
  cases h with
  | badMode | noDeck | noRootModels | noDeckModels => cases hres
  | rootModels =>
    obtain ⟨found, -, hf⟩ := ok_of_map hres
    cases hf
  | @failed selection _ _ failure _ =>
    obtain rfl := CallResult.shown.inj (Except.ok.inj hres)
    rw [Session.fail] at hr
    split at hr <;> cases hr
  | @shown _ selection notes models hready =>
    obtain ⟨r', hr', hf⟩ := ok_of_map hres
    obtain rfl := CallResult.shown.inj hf
    exact ⟨selection, notes, models, hready, rfl, hr', rfl⟩

/-- The end of the call is the next stage. -/
theorem Visiting.ends (h : c.Visiting contents mode requests s node) {i : Nat} {job : CallJob} (hj : c.agenda.ready[i]? = some job)
    {session : Session} {result : Except Failure CallResult} (he : SessionDesk.Ending c.agenda.state job k session result)
    (hs : c'.session = session) (hend : c'.ended = c.ended ++ [(k, result)]) : c'.Stage contents s requests.length node := by
  obtain rfl := h.eq_of_thread hj he.thread
  have hnot := h.kept.orderly.balanced.not_ended hj he.thread
  have hmem := List.mem_of_getElem? hj
  refine .ended (by rw [hend, List.map_append]; exact List.mem_append_right _ List.mem_cons_self) fun r hr hstatus => ?_
  rw [hend] at hr
  rcases List.mem_append.1 hr with hr | hr
  · exact absurd rfl (hnot _ hr)
  obtain ⟨-, hres⟩ := Prod.mk.inj (List.mem_singleton.1 hr)
  obtain ⟨selection, notes, models, hready, hcall, hshown, hsession⟩ := rendered_of_ending he hres.symm hstatus
  have hnode := (hready.for (h.kept.proper.ready job hmem)).select h.kept.decks
  rw [hcall, List.getElem?_concat_length] at hnode
  obtain rfl := Request.select.inj (Option.some.inj hnode)
  obtain ⟨rfl, rfl⟩ := hready.sourced h.kept.desk (h.kept.ready job hmem)
  cases h.stage with
  | made _ hst =>
    obtain ⟨n, -, hn⟩ := h.kept.orderly.ready job hmem selection hready.selection
    exact absurd (List.mem_map_of_mem (List.mem_of_getElem? hn)) (hcall ▸ hst)
  | begun hbegun =>
    change c.agenda.state.session = _ at hbegun
    rw [hbegun] at hshown hsession
    exact ⟨selection, rfl, hshown, hs.trans hsession⟩
  | ended hover =>
    obtain ⟨e, hmem, heq⟩ := List.mem_map.1 hover
    exact absurd heq (hnot e hmem)

/-- The beginning of the selection is the next stage. -/
theorem Visiting.opens (h : c.Visiting contents mode requests s node) {i : Nat} {job : CallJob} (hj : c.agenda.ready[i]? = some job)
    {node' : DeckNode} {mode' : RenderMode} (hop : Opening c.agenda.state job k node' mode')
    (hs : c'.session = ({ c.session with mode := mode' } : Session).select node') (hst : c'.started = c.started ++ [(k, node')])
    (hend : c'.ended = c.ended) : c'.Stage contents s requests.length node := by
  obtain rfl := h.eq_of_thread hj hop.thread
  have hfor := h.kept.proper.ready job (List.mem_of_getElem? hj)
  have hnode := hop.sourced h.kept.decks hfor
  rw [List.getElem?_concat_length] at hnode
  obtain rfl := Request.select.inj (Option.some.inj hnode)
  obtain rfl := mode_of_opening hop h.kept.decks hfor
  have hbegun : requests.length ∈ c'.started.map (·.1) := by
    rw [hst, List.map_append]
    exact List.mem_append_right _ List.mem_cons_self
  cases h.stage with
  | made hs' _ he => exact .begun (by rw [hs, ← hs']; rfl) hbegun (hend ▸ he)
  | begun _ hst' =>
    have hnone := h.kept.orderly.begins?_eq_none hj hop.thread hst'
    rw [show c.session = c.agenda.state.session from rfl, hop.begins] at hnone
    nomatch hnone
  | ended hover =>
    obtain ⟨e, hmem, heq⟩ := List.mem_map.1 hover
    exact absurd heq (h.kept.orderly.balanced.not_ended hj hop.thread e hmem)

/-- A move that makes no request brings the call to the next stage, or leaves it at its stage. -/
theorem Visiting.go (h : c.Visiting contents mode requests s node) {move : Move} (hm : move.request? = none) :
    (c.go contents move).Visiting contents mode requests s node := by
  have hkept := h.kept.go move
  rw [hm, Option.toList_none, List.append_nil] at hkept
  refine ⟨hkept, fun k hk => ?_, ?_⟩
  · obtain ⟨e, he, rfl⟩ := List.mem_map.1 (h.others k hk)
    exact List.mem_map_of_mem (ended_step he _)
  cases move with
  | load | select => nomatch hm
  | answer i =>
    obtain ⟨hs, hst, he⟩ := c.step_answer_same i (match c.agenda.out[i]? with | some fetch => contents.answer fetch.path | none => .ok [])
    exact h.stage.of_eq hs he hst
  | run i =>
    cases hj : c.agenda.ready[i]? with
    | none => rw [Course.go, Move.event, step_run_of_none hj]; exact h.stage
    | some job =>
      rcases step_run_cases hj with ⟨_, _, _, hend, hs, -, he⟩ | ⟨_, _, _, hop, hs, hst, he⟩ | ⟨hs, hst, he⟩
      · exact h.ends hj hend hs he
      · exact h.opens hj hop hs hst he
      · exact h.stage.of_eq hs he hst

/-- Moves that make no request bring the call to its end. -/
theorem Visiting.goes (h : c.Visiting contents mode requests s node) {moves : List Move} (hm : ∀ move ∈ moves, move.request? = none) :
    (c.goes contents moves).Visiting contents mode requests s node := by
  induction moves generalizing c with
  | nil => exact h
  | cons move moves ih => exact ih (h.go (hm move List.mem_cons_self)) fun move' hmem => hm move' (List.mem_cons_of_mem move hmem)

end Course

end Flashcards

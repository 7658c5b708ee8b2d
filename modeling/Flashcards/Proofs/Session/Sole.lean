import Flashcards.Proofs.Session.Alone

/-!
# One call after the other

When no call is under way, a deck is selected, and the call is worked off until nothing is left to do; the fetches may bring anything, and not
the same at every time (`Sole`). Then the call has ended, with a failure or with the result of its selection, which has not been overtaken: the
session shows the deck (`Sole.ends`).
-/

namespace Flashcards

open SessionDesk

/-- One who waits for a deck. -/
def Waiter.OfDeck : Waiter → Prop
  | .rootModels _ => False
  | .deckData _ | .deckModels _ _ => True

/-- A job that is not for the models that all decks share, and where it begins a call, this is one that selects a deck. -/
def CallJob.OfDeck (call : Nat) (node : DeckNode) : CallJob → Prop
  | .begin k request => k = call ∧ request = .select node
  | .chore (.wake waiter _) => waiter.OfDeck
  | _ => True

namespace SessionDesk

variable {d : SessionDesk} {job : CallJob} {k : Nat} {node : DeckNode}

/-- Nobody waits for the models that all decks share. -/
def OfDeck (d : SessionDesk) : Prop := ∀ l ∈ d.cache.loads, ∀ w ∈ l.waiters, w.OfDeck

theorem Asks.ofDeck {waiter : Waiter} {path : Json} (h : Asks d job waiter path) (hj : job.OfDeck k node) : waiter.OfDeck := by
  cases h with
  | rootModels => cases hj.2
  | deckData | deckModels => trivial

theorem Told.ofDeck {waiter : Waiter} {outcome : Outcome} (h : Told d job waiter outcome) (hj : job.OfDeck k node) : waiter.OfDeck := by
  cases h with
  | woken => exact hj
  | atOnce ha _ => exact ha.ofDeck hj

/-- A job for a deck leaves jobs for it, and those who wait. -/
theorem OfDeck.perform (h : d.OfDeck) (hj : job.OfDeck k node) :
    (perform job d).state.OfDeck ∧ ∀ job' ∈ (SessionDesk.perform job d).jobs, job'.OfDeck k node := by
  have hp := d.performed job
  generalize SessionDesk.perform job d = t at hp
  cases hp with
  | ends | arrives => exact ⟨h, by simp [Turn.rest]⟩
  | opens => exact ⟨h, by simp [CallJob.OfDeck]⟩
  | asks ha =>
    refine ⟨fun l hl w hw => ?_, by simp [CallJob.OfDeck]⟩
    rcases List.mem_append.1 hl with hl | hl
    · exact h l hl w hw
    · rw [List.mem_singleton.1 hl] at hw
      rw [List.mem_singleton.1 hw]
      exact ha.ofDeck hj
  | joins ha => exact ⟨waiting_addWaiter _ h (ha.ofDeck hj), by simp⟩
  | passes | gathers => exact ⟨h, by simp [CallJob.OfDeck]⟩
  | sends | loads => exact ⟨h, by simp⟩
  | forgets => exact ⟨fun l hl => h l (List.mem_filter.1 hl).1, by simp [Turn.rest]⟩

theorem OfDeck.receive (h : d.OfDeck) (fetch : Fetch) (answer : Answer) :
    (receive fetch answer d).state.OfDeck ∧ ∀ job' ∈ (SessionDesk.receive fetch answer d).jobs, job'.OfDeck k node := by
  cases fetch with
  | notes => exact ⟨h, by simp [SessionDesk.receive, CallJob.OfDeck]⟩
  | resource path =>
    refine ⟨fun l hl => ?_, fun job' hjob' => ?_⟩
    · obtain ⟨l', hl', -, hw, -⟩ := Cache.mem_finish_loads hl
      exact hw ▸ h l' hl'
    · obtain ⟨chore, hchore, rfl⟩ := List.mem_map.1 hjob'
      rcases Cache.mem_finish_chores hchore with rfl | ⟨l, hl, -, w, hw, rfl⟩
      · trivial
      · exact h l hl w hw

/-- A job for a deck begins the selection of that deck, by the call. -/
theorem Opening.ofDeck {call : Nat} {deck : DeckNode} {mode : RenderMode} (h : Opening d job call deck mode) (hj : job.OfDeck k node) :
    call = k ∧ deck = node ∧ mode = d.session.mode := by
  cases h with
  | select =>
    obtain ⟨rfl, hrequest⟩ := hj
    exact ⟨rfl, Request.select.inj hrequest, rfl⟩
  | setMode => cases hj.2

/-- A job for a deck ends a call with a failure, or with the result of a selection. -/
theorem Ending.ofDeck {call : Nat} {session : Session} {result : Except Failure CallResult} (h : Ending d job call session result)
    (hj : job.OfDeck k node) : (∃ failure, result = .error failure) ∨ ∃ r, result = .ok (.shown r) := by
  cases h with
  | badMode | noDeck => cases hj.2
  | noRootModels ht => exact (ht.ofDeck hj).elim
  | rootModels hr =>
    cases hr with
    | noPath => cases hj.2
    | models ht => exact (ht.ofDeck hj).elim
  | failed => exact Or.inr ⟨_, rfl⟩
  | noDeckModels => exact Or.inl ⟨_, rfl⟩
  | @shown _ selection notes models hr =>
    cases (d.session.showDeck selection notes models).2 with
    | error failure => exact Or.inl ⟨failure, rfl⟩
    | ok r => exact Or.inr ⟨r, rfl⟩

end SessionDesk

/-- The session shows what came of the selection of a deck, of which the page has the title. -/
structure Session.Presents (s : Session) (node : DeckNode) (r : DeckResult) : Prop where
  deck : r.deck = node
  current : s.current = some node
  titled : ∃ mode, s.Titled (some node.name) mode
  shows : s.Shows r

/-- How far a call has come that selects a deck when no other is under way: its selection has not begun, it has begun, or the call has ended,
with a failure or with a result that the session presents. -/
inductive Sole.Stage (before : Course) (node : DeckNode) (c : Course) : Prop
  | made (hs : c.session = before.session) (hst : c.started = before.started) (he : c.ended = before.ended)
  | begun (hs : c.session = before.session.select node) (hst : c.started = before.started ++ [(before.agenda.state.calls, node)])
    (he : c.ended = before.ended)
  | failed {failure : Failure} (he : c.ended = before.ended ++ [(before.agenda.state.calls, .error failure)])
  | shown {r : DeckResult} (he : c.ended = before.ended ++ [(before.agenda.state.calls, .ok (.shown r))])
    (hp : c.session.Presents node r)

/-- What holds while a call is under way that selects a deck, and was made when no other was. -/
structure Sole (before : Course) (node : DeckNode) (c : Course) : Prop where
  orderly : c.Orderly
  lacking : c.agenda.state.Lacking
  desk : c.agenda.state.OfDeck
  ready : ∀ job ∈ c.agenda.ready, job.OfDeck before.agenda.state.calls node
  calls : c.agenda.state.calls = before.agenda.state.calls + 1
  stage : Sole.Stage before node c

namespace Sole

variable {before c c' : Course} {node : DeckNode}

theorem Stage.of_eq (h : Stage before node c) (hs : c'.session = c.session) (hst : c'.started = c.started) (he : c'.ended = c.ended) :
    Stage before node c' := by
  cases h with
  | made hs' hst' he' => exact .made (hs.trans hs') (hst.trans hst') (he.trans he')
  | begun hs' hst' he' => exact .begun (hs.trans hs') (hst.trans hst') (he.trans he')
  | failed he' => exact .failed (he.trans he')
  | shown he' hp => exact .shown (he.trans he') (hs ▸ hp)

/-- A call that is made when no other is under way is the only one. -/
theorem of_idle (h : before.Idle) (node : DeckNode) : Sole before node (before.step (.call (.select node))) where
  orderly := h.orderly.step _
  lacking := h.orderly.balanced.lacking_step h.lacking _
  desk := by
    intro l hl
    rw [show (before.step (.call (.select node))).agenda.state.cache.loads = [] from
      h.orderly.balanced.no_loads h.rest.1 h.rest.2] at hl
    cases hl
  ready job hjob := by
    rcases List.mem_append.1 hjob with hjob | hjob
    · rw [show (before.agenda.change _).ready = [] from h.rest.1] at hjob
      cases hjob
    · rw [List.mem_singleton.1 hjob]
      exact ⟨rfl, rfl⟩
  calls := rfl
  stage := .made rfl (List.append_nil _) rfl

/-- The job that carries the call has not ended it before. -/
theorem ended_eq (h : Sole before node c) {i : Nat} {job : CallJob} (hj : c.agenda.ready[i]? = some job)
    (ht : job.thread = .call before.agenda.state.calls) : c.ended = before.ended := by
  have hnot : ∀ result, c.ended ≠ before.ended ++ [(before.agenda.state.calls, result)] := by
    intro result he
    have hmem : (before.agenda.state.calls, result) ∈ c.ended := he ▸ List.mem_append_right _ List.mem_cons_self
    exact h.orderly.balanced.not_ended hj ht _ hmem rfl
  cases h.stage with
  | made _ _ he | begun _ _ he => exact he
  | failed he | shown he => exact absurd he (hnot _)

/-- A call that ends is the one that was made last, since all others have ended. -/
theorem call_eq (h : Sole before node c) (hb : before.Idle) {i : Nat} {job : CallJob} (hj : c.agenda.ready[i]? = some job) {call : Nat}
    (ht : job.thread = .call call) : call = before.agenda.state.calls := by
  have hlt := h.orderly.balanced.lt_calls hj ht
  have hnot := h.orderly.balanced.not_ended hj ht
  rw [h.calls] at hlt
  refine (Nat.lt_succ_iff_lt_or_eq.1 hlt).resolve_left fun hold => ?_
  have hall := hb.orderly.balanced.all_ended hb.lacking hb.rest.1 hb.rest.2
  obtain ⟨entry, hentry, rfl⟩ := List.mem_map.1 (hall.mem_iff.2 (List.mem_range.2 hold))
  refine hnot entry ?_ rfl
  show entry ∈ c.ended
  cases h.stage with
  | made _ _ he | begun _ _ he => exact he ▸ hentry
  | failed he | shown he => exact he ▸ List.mem_append_left _ hentry

/-- The selection of the call has not begun before it is made. -/
theorem not_begun (hb : before.Idle) (deck : DeckNode) : (before.agenda.state.calls, deck) ∉ before.started :=
  fun h => hb.orderly.not_started (List.mem_map_of_mem h)

/-- A job that is to end a selection is for one that has begun. -/
theorem selection_begun (h : Sole before node c) {job : CallJob} (hjob : job ∈ c.agenda.ready) {selection : Selection}
    (hsel : job.selection? = some selection) : (selection.call, selection.node) ∈ c.started := by
  obtain ⟨n, -, hn⟩ := h.orderly.ready job hjob selection hsel
  exact List.mem_of_getElem? hn

/-- The call ends with a failure, or the session presents the result of its selection. -/
theorem of_ending (h : Sole before node c) (hb : before.Idle) {l : Layout} (hl : before.session.page.LaidOut l) {i : Nat} {job : CallJob}
    (hj : c.agenda.ready[i]? = some job) {call : Nat} {session : Session} {result : Except Failure CallResult}
    (he : SessionDesk.Ending c.agenda.state job call session result) :
    call = before.agenda.state.calls ∧ c.ended = before.ended ∧
      ((∃ failure, result = .error failure) ∨ ∃ r, result = .ok (.shown r) ∧ session.Presents node r) := by
  have hjob := List.mem_of_getElem? hj
  obtain rfl := h.call_eq hb hj he.thread
  have hended := h.ended_eq hj he.thread
  refine ⟨rfl, hended, (he.ofDeck (h.ready job hjob)).imp id ?_⟩
  rintro ⟨r, hr⟩
  cases h.stage with
  | made hs hst =>
    -- A selection that comes to its end has begun.
    obtain ⟨selection, hsel, hcall⟩ : ∃ selection, job.selection? = some selection ∧ selection.call = before.agenda.state.calls := by
      rcases he.effect (l := l) (by rw [show c.agenda.state.session = before.session from hs]; exact hl) with
        ⟨-, hover⟩ | ⟨selection, hsel, hcall, -⟩
      · obtain ⟨-, selection, hsel, hcall, -⟩ := hover r hr
        exact ⟨selection, hsel, hcall⟩
      · exact ⟨selection, hsel, hcall⟩
    have hbegun := h.selection_begun hjob hsel
    rw [hst, hcall] at hbegun
    exact absurd hbegun (not_begun hb _)
  | begun hs hst =>
    have hlaid := Session.select_laidOut hl node
    rw [← hs] at hlaid
    rcases he.effect hlaid with ⟨-, hover⟩ | ⟨selection, hsel, hcall, hnew, htitled, hshow⟩
    · obtain ⟨-, selection, hsel, hcall, hold⟩ := hover r hr
      have hnewest := (h.orderly.isNewest_iff (h.orderly.ready job hjob selection hsel)).2 (by rw [Course.newest?, hst, hcall]; simp)
      rw [show c.session.isNewest selection = false from hold] at hnewest
      cases hnewest
    · obtain ⟨hdeck, hshows⟩ := hshow r hr
      have hnode : selection.node = node := by
        have hbegun := h.selection_begun hjob hsel
        rw [hst, hcall] at hbegun
        have hlast := (List.mem_append.1 hbegun).resolve_left (not_begun hb _)
        exact (Prod.mk.inj (List.mem_singleton.1 hlast)).2
      refine ⟨r, hr, hdeck.trans hnode, ?_, ⟨_, htitled⟩, hshows⟩
      rw [he.sameDeck.current, show c.agenda.state.session = c.session from rfl, hs]
      rfl
  | failed he' | shown he' =>
    rw [hended] at he'
    simpa using congrArg List.length he'

/-- The selection that begins is the one that the call is made for. -/
theorem of_opening (h : Sole before node c) {i : Nat} {job : CallJob} (hj : c.agenda.ready[i]? = some job) {call : Nat}
    {deck : DeckNode} {mode : RenderMode} (ho : Opening c.agenda.state job call deck mode) :
    call = before.agenda.state.calls ∧ deck = node ∧ mode = c.session.mode ∧ c.session = before.session ∧
      c.started = before.started ∧ c.ended = before.ended := by
  obtain ⟨rfl, rfl, hmode⟩ := ho.ofDeck (h.ready job (List.mem_of_getElem? hj))
  have hended := h.ended_eq hj ho.thread
  refine ⟨rfl, rfl, hmode, ?_⟩
  cases h.stage with
  | made hs hst he => exact ⟨hs, hst, he⟩
  | begun _ hst _ =>
    have hmem : before.agenda.state.calls ∈ c.started.map (·.1) := by
      rw [hst, List.map_append]
      exact List.mem_append_right _ List.mem_cons_self
    have hnone := h.orderly.begins?_eq_none hj ho.thread hmem
    rw [show c.session = c.agenda.state.session from rfl, ho.begins] at hnone
    cases hnone
  | failed he | shown he =>
    rw [hended] at he
    simpa using congrArg List.length he

/-- A job that runs brings the call to another stage, or leaves it at its own. -/
theorem stage_run (h : Sole before node c) (hb : before.Idle) {l : Layout} (hl : before.session.page.LaidOut l) {i : Nat} {job : CallJob}
    (hj : c.agenda.ready[i]? = some job) : Stage before node (c.step (.run i)) := by
  rcases Course.step_run_cases hj with ⟨_, _, _, hend, hs, -, he⟩ | ⟨_, _, _, hop, hs, hst, he⟩ | ⟨hs, hst, he⟩
  · obtain ⟨rfl, hended, ⟨failure, rfl⟩ | ⟨r, rfl, hp⟩⟩ := h.of_ending hb hl hj hend
    · exact .failed (by rw [he, hended])
    · exact .shown (by rw [he, hended]) (hs ▸ hp)
  · obtain ⟨rfl, rfl, rfl, hsession, hstarted, hended⟩ := h.of_opening hj hop
    exact .begun (by rw [hs, ← hsession]) (by rw [hst, hstarted]) (he.trans hended)
  · exact h.stage.of_eq hs hst he

theorem run (h : Sole before node c) (hb : before.Idle) {l : Layout} (hl : before.session.page.LaidOut l) (i : Nat) :
    Sole before node (c.step (.run i)) := by
  cases hj : c.agenda.ready[i]? with
  | none =>
    rw [Course.step_run_of_none hj]
    exact h
  | some job =>
    have horderly := h.orderly.step (.run i)
    have hlacking : (c.step (.run i)).agenda.state.Lacking := h.orderly.balanced.lacking_step h.lacking (.run i)
    have hstage := h.stage_run hb hl hj
    obtain ⟨hdesk, hjobs⟩ := h.desk.perform (h.ready job (List.mem_of_getElem? hj))
    rw [Course.step_run hj] at horderly hlacking hstage ⊢
    exact ⟨horderly, hlacking, hdesk, Agenda.forall_mem_eraseIdx_append h.ready hjobs i, (Course.token_perform job _).2.trans h.calls, hstage⟩

theorem answer (h : Sole before node c) (i : Nat) (answer : Answer) : Sole before node (c.step (.answer i answer)) := by
  cases hf : c.agenda.out[i]? with
  | none =>
    rw [Course.step_answer_of_none hf]
    exact h
  | some fetch =>
    have horderly := h.orderly.step (.answer i answer)
    have hlacking := h.orderly.balanced.lacking_step h.lacking (.answer i answer)
    obtain ⟨hs, hst, he⟩ := c.step_answer_same i answer
    have hstage := h.stage.of_eq hs hst he
    obtain ⟨hdesk, hjobs⟩ := h.desk.receive fetch answer
    rw [Course.step_answer hf] at horderly hstage ⊢
    rw [SessionAgenda.step, Agenda.answerAt_of_some _ hf] at hlacking
    refine ⟨horderly, hlacking, hdesk, List.forall_mem_append.2 ⟨h.ready, hjobs⟩, ?_, hstage⟩
    cases fetch <;> exact h.calls

/-- When nothing is left to do, the call has ended, with a failure or with a result that the session presents. -/
theorem ends (h : Sole before node c) (hr : c.AtRest) (hb : before.Idle) :
    ∃ result, c.ended = before.ended ++ [(before.agenda.state.calls, result)] ∧
      ((∃ failure, result = .error failure) ∨ ∃ r, result = .ok (.shown r) ∧ c.session.Presents node r) := by
  have hall := h.orderly.balanced.all_ended h.lacking hr.1 hr.2
  have hmem : before.agenda.state.calls ∈ c.ended.map (·.1) :=
    hall.mem_iff.2 (List.mem_range.2 (by rw [h.calls]; exact Nat.lt_succ_self _))
  obtain ⟨entry, hentry, heq⟩ := List.mem_map.1 hmem
  cases h.stage with
  | made _ _ he | begun _ _ he =>
    have hlt := hb.ended_lt entry (he ▸ hentry)
    omega
  | failed he => exact ⟨_, he, Or.inl ⟨_, rfl⟩⟩
  | shown he hp => exact ⟨_, he, Or.inr ⟨_, rfl, hp⟩⟩

end Sole

end Flashcards

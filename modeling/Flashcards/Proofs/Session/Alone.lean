import Flashcards.Proofs.Session.Errand
import Flashcards.Proofs.Session.History
import Flashcards.Proofs.Session.Visits

/-!
# A deck selected when nothing else is under way

When no call is under way (`Course.Idle`), a deck may be selected, and the call worked off in any order until nothing is left to do
(`Visit`). However this is done, everything under way is for the call, which passes through its stages (`Errand.Stage`) and ends as its
errand says (`Visit.session_eq`, `Visit.result?_eq`). There is always a way to do it (`Course.exists_visit`).
-/

namespace Flashcards

open SessionDesk

/-! ## A call worked off -/

/-- What can happen while no call is made and each fetch ends with what its path holds: a job runs, or a fetch ends. -/
inductive Progress where
  | run (i : Nat)
  | answer (i : Nat)

/-- What happens then. -/
def Progress.event (source : Source) (a : SessionAgenda) : Progress → CallEvent
  | .run i => .run i
  | .answer i => .answer i (match a.out[i]? with | some fetch => source fetch.path | none => .ok [])

namespace Course

/-- One step of progress. -/
def proceed (source : Source) (c : Course) (p : Progress) : Course := c.step (p.event source c.agenda)

/-- A call is made to select a deck, and progress is made. -/
def visit (source : Source) (node : DeckNode) (progress : List Progress) (c : Course) : Course :=
  progress.foldl (proceed source) (c.step (.call (.select node)))

instance (c : Course) : Decidable c.AtRest := inferInstanceAs (Decidable (_ ∧ _))

/-- No call is under way: no job is ready and no fetch is out. -/
structure Idle (c : Course) : Prop where
  orderly : c.Orderly
  lacking : c.agenda.state.Lacking
  rest : c.AtRest

/-- The errand of a call that is made to select a deck. -/
def errand (source : Source) (node : DeckNode) (c : Course) : Errand :=
  ⟨⟨c.agenda.state.calls, node, c.session.token + 1⟩, c.agenda.state.cache, source⟩

/-- When no call is under way, those that have been made have ended. -/
theorem Idle.ended_lt {c : Course} (h : c.Idle) : ∀ entry ∈ c.ended, entry.1 < c.agenda.state.calls := by
  intro entry hmem
  have hall := h.orderly.balanced.all_ended h.lacking h.rest.1 h.rest.2
  exact List.mem_range.1 (hall.mem_iff.1 (List.mem_map_of_mem hmem))

/-- What the next call has come to when it has ended, and no other has. -/
theorem Idle.result?_of_ended {before c : Course} (h : before.Idle) {result : Except Failure CallResult}
    (he : c.ended = before.ended ++ [(before.agenda.state.calls, result)]) :
    c.agenda.result? before.agenda.state.calls = some result := by
  have hnone : before.ended.find? (fun entry => entry.1 == before.agenda.state.calls) = none := by
    refine List.find?_eq_none.2 fun entry hmem heq => ?_
    have hlt := h.ended_lt entry hmem
    rw [beq_iff_eq] at heq
    omega
  rw [SessionAgenda.result?, show c.agenda.state.ended = _ from he, List.find?_append, hnone, Option.none_or, List.find?_singleton]
  simp only [beq_self_eq_true, if_true, Option.map_some]

/-- A call that has not been made has not begun a selection. -/
theorem Orderly.not_started {c : Course} (h : c.Orderly) : c.agenda.state.calls ∉ c.started.map (·.1) := by
  intro hmem
  have hone := h.once c.agenda.state.calls
  have hpos := List.count_pos_iff.2 hmem
  rw [Thread.made, if_neg (Nat.lt_irrefl _)] at hone
  omega

end Course

namespace Errand

variable {e : Errand} {before c : Course}

/-- How far the call has come since it was made: its selection has not begun, it has begun, or the call has ended as the errand says. -/
inductive Stage (e : Errand) (before c : Course) : Prop
  | made (hs : c.session = before.session) (hst : e.selection.call ∉ c.started.map (·.1)) (he : c.ended = before.ended)
  | begun (hs : c.session = before.session.select e.selection.node) (hst : e.selection.call ∈ c.started.map (·.1))
    (he : c.ended = before.ended)
  | ended (hs : c.session = (e.result (before.session.select e.selection.node)).1)
    (he : c.ended = before.ended ++ [(e.selection.call, (e.result (before.session.select e.selection.node)).2.map .shown)])

/-- What holds while only this call is under way, that was made when no other was. -/
structure Runs (e : Errand) (before c : Course) : Prop where
  orderly : c.Orderly
  lacking : c.agenda.state.Lacking
  covers : e.Covers c.agenda.state
  ready : ∀ job ∈ c.agenda.ready, e.Includes job
  out : ∀ fetch ∈ c.agenda.out, e.Sends fetch
  calls : c.agenda.state.calls = e.selection.call + 1
  token : before.session.token + 1 = e.selection.token
  stage : e.Stage before c

/-- A call that is made when no other is under way is the only one. -/
theorem runs_of_idle (h : before.Idle) (source : Source) (node : DeckNode) :
    (before.errand source node).Runs before (before.step (.call (.select node))) where
  orderly := h.orderly.step _
  lacking := h.orderly.balanced.lacking_step h.lacking _
  covers := by
    have hg := h.orderly.balanced.no_gathering h.lacking h.rest.1 h.rest.2
    have hl := h.orderly.balanced.no_loads h.rest.1 h.rest.2
    refine ⟨fun g hmem => ?_, fun l hmem => ?_, fun _ => Or.inl rfl⟩
    · rw [show (before.step (.call (.select node))).agenda.state.gathering = [] from hg] at hmem
      cases hmem
    · rw [show (before.step (.call (.select node))).agenda.state.cache.loads = [] from hl] at hmem
      cases hmem
  ready job hjob := by
    rcases List.mem_append.1 hjob with hjob | hjob
    · rw [show (before.agenda.change _).ready = [] from h.rest.1] at hjob
      cases hjob
    · rw [List.mem_singleton.1 hjob]
      exact .begin
  out fetch hf := by
    rw [show (before.step (.call (.select node))).agenda.out = [] from h.rest.2] at hf
    cases hf
  calls := rfl
  token := rfl
  stage := by
    refine .made rfl ?_ rfl
    rw [show (before.step (.call (.select node))).started = before.started from List.append_nil _]
    exact h.orderly.not_started

/-- Where a job carries the call, it has not ended. -/
theorem Runs.not_ended (h : e.Runs before c) {i : Nat} {job : CallJob} (hj : c.agenda.ready[i]? = some job)
    (ht : job.thread = .call e.selection.call) (result : Except Failure CallResult) :
    c.ended ≠ before.ended ++ [(e.selection.call, result)] := by
  intro he
  have hmem : (e.selection.call, result) ∈ c.ended := he ▸ List.mem_append_right _ List.mem_cons_self
  exact h.orderly.balanced.not_ended hj ht _ hmem rfl

/-- The selection begins in the session as it was when the call was made. -/
theorem Runs.of_opening (h : e.Runs before c) {i : Nat} {job : CallJob} (hj : c.agenda.ready[i]? = some job) {call : Nat}
    {node : DeckNode} {mode : RenderMode} (hop : Opening c.agenda.state job call node mode) :
    call = e.selection.call ∧ node = e.selection.node ∧ mode = c.session.mode ∧ c.session = before.session ∧ c.ended = before.ended := by
  have hin := h.ready job (List.mem_of_getElem? hj)
  have hthread := hop.thread
  have hbegins := hop.begins
  cases hop with
  | setMode => cases hin
  | select =>
    cases hin
    refine ⟨rfl, rfl, rfl, ?_⟩
    cases h.stage with
    | made hs _ he => exact ⟨hs, he⟩
    | begun _ hst _ =>
      have hnone := h.orderly.begins?_eq_none hj hthread hst
      rw [show c.session = c.agenda.state.session from rfl, hbegins] at hnone
      cases hnone
    | ended _ he => exact absurd he (h.not_ended hj hthread _)

/-- The call ends in the session in which its selection has begun. -/
theorem Runs.of_ending (h : e.Runs before c) {i : Nat} {job : CallJob} (hj : c.agenda.ready[i]? = some job) {call : Nat}
    {session : Session} {result : Except Failure CallResult} (he : SessionDesk.Ending c.agenda.state job call session result) :
    call = e.selection.call ∧ c.ended = before.ended ∧
      session = (e.result (before.session.select e.selection.node)).1 ∧
      result = (e.result (before.session.select e.selection.node)).2.map .shown := by
  have hmem := List.mem_of_getElem? hj
  have hthread := he.thread
  obtain ⟨rfl, hsel, hsession, hresult⟩ := (h.ready job hmem).ending h.covers he
  rw [show c.agenda.state.session = c.session from rfl] at hsession hresult
  cases h.stage with
  | made _ hst _ =>
    obtain ⟨n, -, hn⟩ := h.orderly.ready job hmem _ hsel
    exact absurd (List.mem_map_of_mem (List.mem_of_getElem? hn)) hst
  | begun hs _ hend =>
    rw [hs] at hsession hresult
    exact ⟨rfl, hend, hsession, hresult⟩
  | ended _ hend => exact absurd hend (h.not_ended hj hthread _)

theorem Stage.of_eq {c' : Course} (h : e.Stage before c) (hs : c'.session = c.session) (hst : c'.started = c.started)
    (he : c'.ended = c.ended) : e.Stage before c' := by
  cases h with
  | made hs' hst' he' => exact .made (hs.trans hs') (hst ▸ hst') (he.trans he')
  | begun hs' hst' he' => exact .begun (hs.trans hs') (hst ▸ hst') (he.trans he')
  | ended hs' he' => exact .ended (hs.trans hs') (he.trans he')

/-- A job that runs brings the call to the next stage, or leaves it at its stage. -/
theorem Runs.stage_run (h : e.Runs before c) {i : Nat} {job : CallJob} (hj : c.agenda.ready[i]? = some job) :
    e.Stage before (c.step (.run i)) := by
  rcases Course.step_run_cases hj with ⟨_, _, _, hend, hs, -, he⟩ | ⟨_, _, _, hop, hs, hst, he⟩ | ⟨hs, hst, he⟩
  · obtain ⟨rfl, hended, hsession, hresult⟩ := h.of_ending hj hend
    exact .ended (hs.trans hsession) (by rw [he, hended, hresult])
  · obtain ⟨rfl, rfl, rfl, hsession, hended⟩ := h.of_opening hj hop
    refine .begun (by rw [hs, ← hsession]) ?_ (he.trans hended)
    rw [hst, List.map_append]
    exact List.mem_append_right _ List.mem_cons_self
  · exact h.stage.of_eq hs hst he

theorem Runs.run (h : e.Runs before c) (i : Nat) : e.Runs before (c.step (.run i)) := by
  cases hj : c.agenda.ready[i]? with
  | none =>
    rw [Course.step_run_of_none hj]
    exact h
  | some job =>
    have hmem := List.mem_of_getElem? hj
    have horderly := h.orderly.step (.run i)
    have hlacking : (c.step (.run i)).agenda.state.Lacking := h.orderly.balanced.lacking_step h.lacking (.run i)
    have hstage := h.stage_run hj
    obtain ⟨hcovers, hjobs, hfetches⟩ := h.covers.perform (h.ready job hmem) fun call node mode hop => by
      obtain ⟨-, -, -, hs, -⟩ := h.of_opening hj hop
      rw [show c.agenda.state.session = before.session from hs]
      exact h.token
    rw [Course.step_run hj] at horderly hlacking hstage ⊢
    exact ⟨horderly, hlacking, hcovers, Agenda.forall_mem_eraseIdx_append h.ready hjobs i, List.forall_mem_append.2 ⟨h.out, hfetches⟩,
      (Course.token_perform job _).2.trans h.calls, h.token, hstage⟩

/-- A fetch that ends with what its path holds leaves the call at its stage. -/
theorem Runs.answer (h : e.Runs before c) (i : Nat) : e.Runs before (c.proceed e.source (.answer i)) := by
  rw [Course.proceed, Progress.event]
  cases hf : c.agenda.out[i]? with
  | none =>
    rw [Course.step_answer_of_none hf]
    exact h
  | some fetch =>
    dsimp only
    have hmem := List.mem_of_getElem? hf
    have horderly := h.orderly.step (.answer i (e.source fetch.path))
    have hlacking := h.orderly.balanced.lacking_step h.lacking (.answer i (e.source fetch.path))
    obtain ⟨hs, hst, he⟩ := c.step_answer_same i (e.source fetch.path)
    have hstage := h.stage.of_eq hs hst he
    obtain ⟨hcovers, hjobs⟩ := h.covers.receive (h.out fetch hmem)
    rw [Course.step_answer hf] at horderly hstage ⊢
    rw [SessionAgenda.step, Agenda.answerAt_of_some _ hf] at hlacking
    refine ⟨horderly, hlacking, hcovers, List.forall_mem_append.2 ⟨h.ready, hjobs⟩,
      Agenda.forall_mem_eraseIdx_append h.out (fun fetch' hmem' => ?_) i, ?_, h.token, hstage⟩
    · cases fetch <;> cases hmem'
    · cases fetch <;> exact h.calls

/-- A call that is worked off remains the only one, and comes to its next stage or stays at its own. -/
theorem Runs.proceeds (h : e.Runs before c) (progress : List Progress) :
    e.Runs before (progress.foldl (Course.proceed e.source) c) := by
  induction progress generalizing c with
  | nil => exact h
  | cons p progress ih =>
    cases p with
    | run i => exact ih (h.run i)
    | answer i => exact ih (h.answer i)

/-- When nothing is left to do, the call has ended as the errand says. -/
theorem Runs.ended_eq (h : e.Runs before c) (hb : before.Idle) (hcall : e.selection.call = before.agenda.state.calls)
    (hr : c.AtRest) :
    c.session = (e.result (before.session.select e.selection.node)).1 ∧
      c.ended = before.ended ++ [(e.selection.call, (e.result (before.session.select e.selection.node)).2.map .shown)] := by
  have hall := h.orderly.balanced.all_ended h.lacking hr.1 hr.2
  have hmem : e.selection.call ∈ c.ended.map (·.1) := hall.mem_iff.2 (List.mem_range.2 (by rw [h.calls]; exact Nat.lt_succ_self _))
  obtain ⟨entry, hentry, heq⟩ := List.mem_map.1 hmem
  cases h.stage with
  | made _ _ he | begun _ _ he =>
    have hlt := hb.ended_lt entry (he ▸ hentry)
    omega
  | ended hs he => exact ⟨hs, he⟩

end Errand

/-! ## Visits -/

/-- A deck that is selected when no other call is under way, and the progress that is made until nothing is left to do. -/
structure Visit (source : Source) (before : Course) (node : DeckNode) where
  progress : List Progress
  rest : (before.visit source node progress).AtRest

namespace Visit

variable {source : Source} {before : Course} {node : DeckNode}

/-- The session when nothing is left to do. -/
def after (v : Visit source before node) : Course := before.visit source node v.progress

/-- What the call has come to. -/
def result? (v : Visit source before node) : Option (Except Failure CallResult) := v.after.agenda.result? before.agenda.state.calls

theorem runs (v : Visit source before node) (h : before.Idle) : (before.errand source node).Runs before v.after :=
  (Errand.runs_of_idle h source node).proceeds v.progress

theorem idle (v : Visit source before node) (h : before.Idle) : v.after.Idle := ⟨(v.runs h).orderly, (v.runs h).lacking, v.rest⟩

/-- However the call is worked off, the session is what the errand says. -/
theorem session_eq (v : Visit source before node) (h : before.Idle) :
    v.after.session = ((before.errand source node).result (before.session.select node)).1 :=
  ((v.runs h).ended_eq h rfl v.rest).1

/-- And so is what the call has come to. -/
theorem result?_eq (v : Visit source before node) (h : before.Idle) :
    v.result? = some (((before.errand source node).result (before.session.select node)).2.map .shown) := by
  exact h.result?_of_ended ((v.runs h).ended_eq h rfl v.rest).2

end Visit

namespace Course

/-- As long as something is left to do, progress can be made, and there is an end to it. -/
theorem exists_atRest (source : Source) {c : Course} (h : c.agenda.Balanced) :
    ∃ progress : List Progress, (progress.foldl (proceed source) c).AtRest := by
  induction hn : burden.of c.agenda using Nat.strongRecOn generalizing c with
  | ind n ih =>
    subst hn
    have hstep : ∀ p : Progress, burden.of (c.proceed source p).agenda < burden.of c.agenda →
        ∃ progress : List Progress, (progress.foldl (proceed source) c).AtRest := by
      intro p hlt
      have hbalanced : (c.proceed source p).agenda.Balanced := h.step _
      obtain ⟨progress, hp⟩ := ih _ hlt hbalanced rfl
      exact ⟨p :: progress, hp⟩
    by_cases hready : c.agenda.ready = []
    · by_cases hout : c.agenda.out = []
      · exact ⟨[], hready, hout⟩
      · exact hstep (.answer 0) (h.burden_answer (List.length_pos_iff.2 hout) _)
    · exact hstep (.run 0) (h.burden_run (List.length_pos_iff.2 hready))

/-- A deck can be visited whenever no call is under way. -/
theorem exists_visit (source : Source) {before : Course} (h : before.Orderly) (node : DeckNode) :
    Nonempty (Visit source before node) := by
  obtain ⟨progress, hp⟩ := exists_atRest source (h.step (.call (.select node))).balanced
  exact ⟨⟨progress, hp⟩⟩

end Course

end Flashcards

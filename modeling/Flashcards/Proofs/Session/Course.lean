import Flashcards.Proofs.Session.Selections

/-!
# The course of selections

Beside what is under way, a `Course` keeps which selections of decks have begun so far, in order. The invariant `Course.Orderly` ties
the numbers of selections to it: the session's number is how many have begun, and a selection that is on its way anywhere has the number
of its place in the list. Each call begins one selection at most. So a selection is the newest in the session exactly if its call is the
last in the list (`Orderly.isNewest_iff`).
-/

namespace Flashcards

/-- The call that a thread belongs to; a load belongs to none. -/
def Thread.call? : Thread → Option Nat
  | .call k | .data k | .notes k => some k
  | .load _ | .forget _ => none

/-- The calls to a session under way, with the selections of decks that have begun so far, in order: the call and the deck of each. -/
structure Course where
  agenda : SessionAgenda
  started : List (Nat × DeckNode)

namespace Course

/-- A session that has shown nothing, with no calls. -/
def fresh (mode : RenderMode) (rootModels : Json) : Course := ⟨SessionAgenda.fresh mode rootModels, []⟩

/-- The session as it is. -/
def session (c : Course) : Session := c.agenda.state.session

/-- The calls that have ended, with what they came to. -/
def ended (c : Course) : List (Nat × Except Failure CallResult) := c.agenda.state.ended

/-- The selection that an event begins, if it begins one. -/
def begun? (c : Course) : CallEvent → Option (Nat × DeckNode)
  | .run i => c.agenda.ready[i]?.bind (CallJob.begins? c.session)
  | .call _ | .answer _ _ => none

/-- One thing happens. -/
def step (c : Course) (event : CallEvent) : Course := ⟨c.agenda.step event, c.started ++ (c.begun? event).toList⟩

/-- Things happen one after the other. -/
def after (events : List CallEvent) (c : Course) : Course := events.foldl step c

/-- The call whose selection began last. -/
def newest? (c : Course) : Option Nat := c.started.getLast?.map (·.1)

/-- A call has begun its selection, and another has begun one since. -/
def Overtaken (call : Nat) (c : Course) : Prop := call ∈ c.started.map (·.1) ∧ c.newest? ≠ some call

/-- The call that takes a step when something happens, if one does. -/
def caller? (c : Course) : CallEvent → Option Nat
  | .call _ => none
  | .run i => c.agenda.ready[i]?.bind fun job => job.thread.call?
  | .answer i _ => c.agenda.out[i]?.bind fun fetch => fetch.thread.call?

/-- A session goes the course of calls whatever is kept beside it. -/
theorem after_agenda (events : List CallEvent) (c : Course) : (c.after events).agenda = c.agenda.after events := by
  induction events generalizing c with
  | nil => rfl
  | cons event events ih => exact ih (c.step event)

/-- The numbers of selections are their places among those that have begun, and each call begins one selection at most. -/
structure Orderly (c : Course) : Prop where
  balanced : c.agenda.Balanced
  token : c.session.token = c.started.length
  onDesk : c.agenda.state.Selections fun selection => selection.BegunIn c.started
  ready : ∀ job ∈ c.agenda.ready, ∀ selection, job.selection? = some selection → selection.BegunIn c.started
  once : ∀ k, (SessionDesk.beginnings k).of c.agenda + (c.started.map (·.1)).count k ≤ (Thread.call k).made c.agenda.state.calls

variable {c : Course}

theorem fresh_orderly (mode : RenderMode) (rootModels : Json) : (fresh mode rootModels).Orderly where
  balanced := SessionAgenda.fresh_balanced mode rootModels
  token := rfl
  onDesk := by constructor <;> exact fun _ h => nomatch h
  ready _ h := nomatch h
  once _ := Nat.zero_le _

/-! ## Steps -/

/-- A job that is at a position takes the step. -/
theorem step_run {i : Nat} {job : CallJob} (hj : c.agenda.ready[i]? = some job) :
    c.step (.run i) =
      ⟨Agenda.take SessionDesk.program (SessionDesk.perform job c.agenda.state)
          { c.agenda with ready := c.agenda.ready.eraseIdx i },
        c.started ++ (job.begins? c.session).toList⟩ := by
  rw [step, SessionAgenda.step, Agenda.runAt_of_some _ hj, begun?, hj]
  rfl

theorem step_run_of_none {i : Nat} (hj : c.agenda.ready[i]? = none) : c.step (.run i) = c := by
  rw [step, SessionAgenda.step, Agenda.runAt_of_none _ hj, begun?, hj]
  simp

theorem step_answer {i : Nat} {answer : Answer} {fetch : Fetch} (hf : c.agenda.out[i]? = some fetch) :
    c.step (.answer i answer) =
      ⟨Agenda.take SessionDesk.program (SessionDesk.receive fetch answer c.agenda.state)
        { c.agenda with out := c.agenda.out.eraseIdx i }, c.started⟩ := by
  rw [step, SessionAgenda.step, Agenda.answerAt_of_some _ hf, begun?]
  simp [SessionDesk.program]

theorem step_answer_of_none {i : Nat} {answer : Answer} (hf : c.agenda.out[i]? = none) : c.step (.answer i answer) = c := by
  rw [step, SessionAgenda.step, Agenda.answerAt_of_none _ hf, begun?]
  simp

/-- What a job that runs does to the session: it ends a call, it begins a selection, or it does nothing to it. -/
theorem step_run_cases {i : Nat} {job : CallJob} (hj : c.agenda.ready[i]? = some job) :
    (∃ call session result, SessionDesk.Ending c.agenda.state job call session result ∧ (c.step (.run i)).session = session ∧
        (c.step (.run i)).started = c.started ∧ (c.step (.run i)).ended = c.ended ++ [(call, result)]) ∨
      (∃ call node mode, SessionDesk.Opening c.agenda.state job call node mode ∧
        (c.step (.run i)).session = ({ c.session with mode := mode } : Session).select node ∧
        (c.step (.run i)).started = c.started ++ [(call, node)] ∧ (c.step (.run i)).ended = c.ended) ∨
      (c.step (.run i)).session = c.session ∧ (c.step (.run i)).started = c.started ∧ (c.step (.run i)).ended = c.ended := by
  have hp := c.agenda.state.performed job
  have hstep := step_run hj
  generalize SessionDesk.perform job c.agenda.state = t at hp hstep
  rw [hstep]
  have hsame : ∀ {job : CallJob}, job.begins? c.session = none → c.started ++ (job.begins? c.session).toList = c.started := by
    intro job hb
    rw [hb]
    exact List.append_nil _
  cases hp with
  | ends he => exact Or.inl ⟨_, _, _, he, rfl, hsame he.begins, rfl⟩
  | opens hop =>
    refine Or.inr (Or.inl ⟨_, _, _, hop, rfl, ?_, rfl⟩)
    rw [show c.session = c.agenda.state.session from rfl, hop.begins]
    rfl
  | asks ha _ | joins ha _ _ => exact Or.inr (Or.inr ⟨rfl, hsame ha.begins, rfl⟩)
  | passes ht => exact Or.inr (Or.inr ⟨rfl, hsame ht.begins, rfl⟩)
  | sends | loads | forgets => exact Or.inr (Or.inr ⟨rfl, hsame rfl, rfl⟩)
  | arrives hb _ | gathers hb _ => cases hb <;> exact Or.inr (Or.inr ⟨rfl, hsame rfl, rfl⟩)

/-- A fetch that ends does nothing to the session. -/
theorem step_answer_same (i : Nat) (answer : Answer) :
    (c.step (.answer i answer)).session = c.session ∧ (c.step (.answer i answer)).started = c.started ∧
      (c.step (.answer i answer)).ended = c.ended := by
  cases hf : c.agenda.out[i]? with
  | none => rw [step_answer_of_none hf]; exact ⟨rfl, rfl, rfl⟩
  | some fetch => rw [step_answer hf]; cases fetch <;> exact ⟨rfl, rfl, rfl⟩

/-- A step that ends a call is that of a job. -/
theorem run_of_ended {event : CallEvent} {e : Nat × Except Failure CallResult} (he : (c.step event).ended = c.ended ++ [e]) :
    ∃ i job, event = .run i ∧ c.agenda.ready[i]? = some job := by
  have hno : c.ended ≠ c.ended ++ [e] := fun heq => by simpa using congrArg List.length heq
  cases event with
  | call request => exact absurd he hno
  | answer i answer => exact absurd ((step_answer_same i answer).2.2.symm.trans he) hno
  | run i =>
    cases hj : c.agenda.ready[i]? with
    | none => rw [step_run_of_none hj] at he; exact absurd he hno
    | some job => exact ⟨i, job, rfl, hj⟩

/-- A call that has ended stays so. -/
theorem ended_step {e : Nat × Except Failure CallResult} (he : e ∈ c.ended) (event : CallEvent) : e ∈ (c.step event).ended := by
  cases event with
  | call request => exact he
  | answer i answer => rw [(step_answer_same i answer).2.2]; exact he
  | run i =>
    cases hj : c.agenda.ready[i]? with
    | none => rw [step_run_of_none hj]; exact he
    | some job =>
      rcases step_run_cases hj with ⟨_, _, _, -, -, -, heq⟩ | ⟨_, _, _, -, -, -, heq⟩ | ⟨-, -, heq⟩
      · rw [heq]; exact List.mem_append_left _ he
      · rw [heq]; exact he
      · rw [heq]; exact he

/-- A job gives a selection that it begins the next number, and leaves the number alone otherwise. -/
theorem token_perform (job : CallJob) (d : SessionDesk) :
    (SessionDesk.perform job d).state.session.token = d.session.token + (job.begins? d.session).toList.length ∧
      (SessionDesk.perform job d).state.calls = d.calls := by
  have hp := d.performed job
  generalize SessionDesk.perform job d = t at hp
  cases hp with
  | ends he => rw [he.begins]; exact ⟨he.sameDeck.token, rfl⟩
  | opens ho => rw [ho.begins]; exact ⟨rfl, rfl⟩
  | asks ha _ | joins ha _ _ => rw [ha.begins]; exact ⟨rfl, rfl⟩
  | passes ht => rw [ht.begins]; exact ⟨rfl, rfl⟩
  | sends | loads | forgets => exact ⟨rfl, rfl⟩
  | arrives hb _ | gathers hb _ => cases hb <;> exact ⟨rfl, rfl⟩

theorem Orderly.run (h : c.Orderly) (i : Nat) : (c.step (.run i)).Orderly := by
  cases hj : c.agenda.ready[i]? with
  | none => rw [step_run_of_none hj]; exact h
  | some job =>
    obtain ⟨htoken, hcalls⟩ := token_perform job c.agenda.state
    have hmore : ∀ selection : Selection, selection.BegunIn c.started →
        selection.BegunIn (c.started ++ (job.begins? c.session).toList) := fun _ hs => hs.append _
    have hjob : ∀ selection, job.selection? = some selection → selection.BegunIn c.started :=
      h.ready job (List.mem_of_getElem? hj)
    have hnew : ∀ call node, job.begins? c.session = some (call, node) →
        (⟨call, node, c.session.token + 1⟩ : Selection).BegunIn (c.started ++ (job.begins? c.session).toList) := by
      intro call node hb
      refine ⟨c.started.length, by rw [h.token], ?_⟩
      rw [hb, List.getElem?_append_right (Nat.le_refl _)]
      simp
    obtain ⟨hdesk, hjobs⟩ := SessionDesk.selections_perform
      ⟨fun g hg => hmore _ (h.onDesk.gathering g hg), fun l hl w hw s hs => hmore s (h.onDesk.waiting l hl w hw s hs)⟩
      job (fun s hs => hmore s (hjob s hs)) hnew
    have hb := h.balanced.step (.run i)
    rw [step_run hj]
    rw [SessionAgenda.step, Agenda.runAt_of_some _ hj] at hb
    refine ⟨hb, ?_, hdesk,
      Agenda.forall_mem_eraseIdx_append (fun job' hjob' s hs => hmore s (h.ready job' hjob' s hs)) hjobs i, fun k => ?_⟩
    · show (SessionDesk.perform job c.agenda.state).state.session.token = _
      rw [htoken, List.length_append, ← h.token]
      rfl
    · have hw := (SessionDesk.beginnings k).of_runAt SessionDesk.program hj
      have hzero : (SessionDesk.beginnings k).turn (SessionDesk.perform job c.agenda.state) = 0 := by
        rw [Measure.turn, SessionDesk.beginnings]
        simp only [Sum.eq_zero (SessionDesk.perform_beginning job c.agenda.state k), Sum.eq_zero fun _ _ => rfl, Nat.add_zero]
      have hcount : ((job.begins? c.session).toList.map (·.1)).count k ≤ job.beginning k := by
        cases hb : job.begins? c.session with
        | none => exact Nat.zero_le _
        | some begun =>
          by_cases hk : begun.1 = k
          · rw [← hk, (SessionDesk.beginning_of_begins hb).1]
            simp
          · simp [hk]
      have ho := h.once k
      rw [Agenda.runAt_of_some _ hj] at hw
      simp only [SessionDesk.program, hzero] at hw
      simp only [SessionDesk.beginnings] at hw ho ⊢
      rw [List.map_append, List.count_append]
      show _ ≤ (Thread.call k).made (SessionDesk.perform job c.agenda.state).state.calls
      rw [hcalls]
      simp only [SessionDesk.program]
      omega

theorem Orderly.answer (h : c.Orderly) (i : Nat) (answer : Answer) : (c.step (.answer i answer)).Orderly := by
  cases hf : c.agenda.out[i]? with
  | none => rw [step_answer_of_none hf]; exact h
  | some fetch =>
    obtain ⟨hdesk, hjobs⟩ := SessionDesk.selections_receive h.onDesk fetch answer
    have hsame : (SessionDesk.receive fetch answer c.agenda.state).state.session = c.session ∧
        (SessionDesk.receive fetch answer c.agenda.state).state.calls = c.agenda.state.calls := by
      cases fetch <;> exact ⟨rfl, rfl⟩
    have hb := h.balanced.step (.answer i answer)
    rw [step_answer hf]
    rw [SessionAgenda.step, Agenda.answerAt_of_some _ hf] at hb
    refine ⟨hb, ?_, hdesk, List.forall_mem_append.2 ⟨h.ready, hjobs⟩, fun k => ?_⟩
    · show (SessionDesk.receive fetch answer c.agenda.state).state.session.token = _
      rw [hsame.1, h.token]
    · have hw := (SessionDesk.beginnings k).of_answerAt SessionDesk.program answer hf
      have hzero : (SessionDesk.beginnings k).turn (SessionDesk.receive fetch answer c.agenda.state) = 0 := by
        rw [Measure.turn, SessionDesk.beginnings]
        simp only [Sum.eq_zero (SessionDesk.receive_beginning fetch answer c.agenda.state k), Sum.eq_zero fun _ _ => rfl, Nat.add_zero]
      have ho := h.once k
      rw [Agenda.answerAt_of_some _ hf] at hw
      simp only [SessionDesk.program, hzero] at hw
      simp only [SessionDesk.beginnings] at hw ho ⊢
      show _ ≤ (Thread.call k).made (SessionDesk.receive fetch answer c.agenda.state).state.calls
      rw [hsame.2]
      simp only [SessionDesk.program]
      omega

theorem Orderly.call (h : c.Orderly) (request : Request) : (c.step (.call request)).Orderly := by
  have hs : c.step (.call request) = ⟨c.agenda.call request, c.started⟩ := by rw [step, begun?]; simp [SessionAgenda.step]
  rw [hs]
  refine ⟨h.balanced.call request, h.token, ⟨h.onDesk.gathering, h.onDesk.waiting⟩, fun job hjob => ?_, fun k => ?_⟩
  · rcases List.mem_append.1 hjob with hjob | hjob
    · exact h.ready job hjob
    · rw [List.mem_singleton] at hjob
      exact hjob ▸ fun s hs => nomatch hs
  · have hw := (SessionDesk.beginnings k).of_add (.begin c.agenda.state.calls request)
      (c.agenda.change fun d => { d with calls := d.calls + 1 })
    have ho := h.once k
    have hmade : (Thread.call k).made (c.agenda.state.calls + 1) =
        (Thread.call k).made c.agenda.state.calls + if c.agenda.state.calls = k then 1 else 0 := by
      simp only [Thread.made]
      split <;> split <;> split <;> omega
    simp only [Measure.of, SessionDesk.beginnings, CallJob.beginning] at hw ho ⊢
    show _ ≤ (Thread.call k).made (c.agenda.state.calls + 1)
    rw [hmade]
    simp only [SessionAgenda.call, Agenda.change] at hw ⊢
    omega

theorem Orderly.step (h : c.Orderly) (event : CallEvent) : (c.step event).Orderly := by
  cases event with
  | call request => exact h.call request
  | run i => exact h.run i
  | answer i answer => exact h.answer i answer

/-- Whatever happens, the numbers of selections are their places. -/
theorem Orderly.after (h : c.Orderly) (events : List CallEvent) : (c.after events).Orderly := by
  induction events generalizing c with
  | nil => exact h
  | cons event events ih => exact ih (h.step event)

/-! ## What the numbers say -/

theorem Orderly.nodup (h : c.Orderly) : (c.started.map (·.1)).Nodup := by
  rw [List.nodup_iff_count]
  intro k
  have ho := h.once k
  have hm : (Thread.call k).made c.agenda.state.calls ≤ 1 := by rw [Thread.made]; split <;> omega
  omega

/-- A selection is the newest exactly if its call is the last that has begun one. -/
theorem Orderly.isNewest_iff (h : c.Orderly) {selection : Selection} (hs : selection.BegunIn c.started) :
    c.session.isNewest selection = true ↔ c.newest? = some selection.call := by
  obtain ⟨n, hn, hget⟩ := hs
  have hlt := (List.getElem?_eq_some_iff.1 hget).1
  rw [Session.isNewest, beq_iff_eq, hn, h.token, newest?, List.getLast?_eq_getElem?, Option.map_eq_some_iff]
  constructor
  · intro hlast
    refine ⟨(selection.call, selection.node), ?_, rfl⟩
    rw [show c.started.length - 1 = n from by omega]
    exact hget
  · rintro ⟨last, hlast, hcall⟩
    have hn' : (c.started.map (·.1))[n]? = some selection.call := by rw [List.getElem?_map, hget]; rfl
    have hl' : (c.started.map (·.1))[c.started.length - 1]? = some selection.call := by
      rw [List.getElem?_map, hlast, Option.map_some, hcall]
    have heq := (List.getElem?_inj (by simpa using hlt) h.nodup).1 (hn'.trans hl'.symm)
    omega

/-- A call that has begun its selection does not begin another. -/
theorem Orderly.begins?_eq_none (h : c.Orderly) {i : Nat} {job : CallJob} (hj : c.agenda.ready[i]? = some job) {call : Nat}
    (ht : job.thread = .call call) (hc : call ∈ c.started.map (·.1)) : job.begins? c.session = none := by
  cases hb : job.begins? c.session with
  | none => rfl
  | some begun =>
    obtain ⟨hone, hthread⟩ := SessionDesk.beginning_of_begins hb
    obtain rfl : begun.1 = call := Thread.call.inj (hthread.symm.trans ht)
    have ho := h.once begun.1
    have hm : (Thread.call begun.1).made c.agenda.state.calls ≤ 1 := by rw [Thread.made]; split <;> omega
    have hle := (SessionDesk.beginnings begun.1).job_le_of hj
    have hpos := List.count_pos_iff.2 hc
    simp only [SessionDesk.beginnings] at hle ho
    omega

end Course

end Flashcards

import Flashcards.Proofs.Session.Answers

/-!
# A call asks for notes once

A selection that begins is to ask for the notes of its deck, and nothing else asks for notes. What is to ask for the notes of a call, what
has asked, and what has been answered are counted together: they are as many as the selections that the call has begun (`History.asked`).
These are one at most, so that the notes of a call are told apart from all others by its number (`History.Asked.notes_once`).
-/

namespace Flashcards

/-- Whether a job is to ask for the notes of a call. -/
def CallJob.asking (k : Nat) : CallJob → Nat
  | .askNotes call _ => if call = k then 1 else 0
  | _ => 0

/-- Whether a fetch is that of the notes of a call. -/
def Fetch.asking (k : Nat) : Fetch → Nat
  | .notes call _ => if call = k then 1 else 0
  | .resource _ => 0

theorem Fetch.asking_notes (k : Nat) (path : Text) : (Fetch.notes k path).asking k = 1 := if_pos rfl

namespace SessionDesk

variable {d : SessionDesk} {job : CallJob}

/-- How often the notes of a call are asked for by what is under way. -/
def asking (k : Nat) : Measure SessionDesk CallJob Fetch := ⟨fun _ => 0, CallJob.asking k, Fetch.asking k⟩

/-- A job on the main thread of a call does not ask for notes. -/
theorem asking_of_thread {call : Nat} (h : job.thread = .call call) (k : Nat) : job.asking k = 0 := by
  cases job with
  | askNotes => cases h
  | _ => rfl

theorem Asks.asking {waiter : Waiter} {path : Json} (h : Asks d job waiter path) (k : Nat) : job.asking k = 0 := by
  cases h <;> rfl

theorem Told.asking {waiter : Waiter} {outcome : Outcome} (h : Told d job waiter outcome) (k : Nat) : job.asking k = 0 := by
  cases h with
  | woken => rfl
  | atOnce ha _ => exact ha.asking k

/-- A job that is to ask for notes asks for them; a selection that begins is to ask for the notes of its call. -/
theorem perform_asking (job : CallJob) (d : SessionDesk) (k : Nat) :
    (asking k).turn (perform job d) = job.asking k + ((job.begins? d.session).toList.map (·.1)).count k := by
  have hp := d.performed job
  generalize perform job d = t at hp
  cases hp with
  | ends he => rw [he.begins, asking_of_thread he.thread]; rfl
  | @opens _ call node _ ho =>
    rw [ho.begins, asking_of_thread ho.thread]
    simp [Measure.turn, asking, CallJob.asking, List.count_singleton]
  | asks ha _ | joins ha _ _ => rw [ha.begins, ha.asking]; rfl
  | passes ht => rw [ht.begins, ht.asking]; rfl
  | sends => simp [Measure.turn, asking, CallJob.asking, Fetch.asking, CallJob.begins?]
  | loads | forgets => rfl
  | arrives hb _ | gathers hb _ => cases hb <;> rfl

/-- Nothing that follows from an answer asks for notes. -/
theorem receive_asking (fetch : Fetch) (answer : Answer) (d : SessionDesk) (k : Nat) : (asking k).turn (receive fetch answer d) = 0 := by
  cases fetch with
  | notes => rfl
  | resource path =>
    have hzero : ((receive (.resource path) answer d).jobs.map (CallJob.asking k)).sum = 0 := by
      refine Sum.eq_zero fun job hjob => ?_
      obtain ⟨chore, -, rfl⟩ := List.mem_map.1 hjob
      rfl
    rw [Measure.turn, asking]
    simp only [hzero, Nat.zero_add]
    rfl

end SessionDesk

namespace History

/-- The notes of a call are asked for as often as it has begun a selection. -/
def Asked (h : History) : Prop :=
  ∀ k, (SessionDesk.asking k).of h.course.agenda + (h.answers.map fun e => e.1.asking k).sum = (h.course.started.map (·.1)).count k

variable {h : History}

theorem Asked.run (ha : h.Asked) (i : Nat) : (h.happen (.event (.run i))).Asked := by
  cases hj : h.course.agenda.ready[i]? with
  | none => rwa [happen_run_of_none hj]
  | some job =>
    intro k
    have hk := ha k
    have hw := (SessionDesk.asking k).of_runAt SessionDesk.program hj
    have hturn : (SessionDesk.asking k).turn (SessionDesk.program.perform job h.course.agenda.state) = _ :=
      SessionDesk.perform_asking job h.course.agenda.state k
    rw [Agenda.runAt_of_some _ hj, hturn] at hw
    rw [happen_run hj, List.map_append, List.count_append]
    simp only [SessionDesk.asking] at hw hk ⊢
    show _ = _ + List.count k ((job.begins? h.course.agenda.state.session).toList.map (·.1))
    simp only [SessionDesk.program, History.desk] at hw ⊢
    omega

theorem Asked.answer (ha : h.Asked) (i : Nat) (answer : Answer) : (h.happen (.event (.answer i answer))).Asked := by
  cases hf : h.course.agenda.out[i]? with
  | none => rwa [happen_answer_of_none answer hf]
  | some fetch =>
    intro k
    have hk := ha k
    have hw := (SessionDesk.asking k).of_answerAt SessionDesk.program answer hf
    have hturn : (SessionDesk.asking k).turn (SessionDesk.program.receive fetch answer h.course.agenda.state) = 0 :=
      SessionDesk.receive_asking fetch answer h.course.agenda.state k
    rw [Agenda.answerAt_of_some _ hf, hturn] at hw
    rw [happen_answer answer hf, List.map_append, List.sum_append]
    simp only [SessionDesk.asking, List.map_cons, List.map_nil, List.sum_cons, List.sum_nil] at hw hk ⊢
    simp only [SessionDesk.program, History.desk] at hw ⊢
    omega

theorem Asked.happen (ha : h.Asked) (x : Happening) : (h.happen x).Asked := by
  cases x with
  | event event =>
    cases event with
    | run i => exact ha.run i
    | answer i answer => exact ha.answer i answer
    | call request =>
      intro k
      have hw := (SessionDesk.asking k).of_add (.begin h.course.agenda.state.calls request)
        (h.course.agenda.change fun d => { d with calls := d.calls + 1 })
      rw [happen_call, ← ha k]
      exact congrArg (· + _) hw
  | outside intervention => exact ha

/-- In every history, the notes of a call are asked for as often as it has begun a selection. -/
theorem asked (mode : RenderMode) (rootModels : Json) (xs : List Happening) : ((fresh mode rootModels).through xs).Asked :=
  through_induction (P := Asked) (fun _ => rfl) (fun _ x ha => ha.happen x) xs

/-- A call gets one answer to its fetch of notes at most. -/
theorem Asked.notes_once (ha : h.Asked) (ho : h.course.Orderly) {call : Nat} {path path' : Text} {answer answer' : Answer}
    (he : (Fetch.notes call path, answer) ∈ h.answers) (he' : (Fetch.notes call path', answer') ∈ h.answers) :
    path = path' ∧ answer = answer' := by
  by_cases heq : (Fetch.notes call path', answer') = (Fetch.notes call path, answer)
  · obtain ⟨hf, hanswer⟩ := Prod.mk.inj heq
    exact ⟨(Fetch.notes.inj hf).2.symm, hanswer.symm⟩
  · have htwo := Sum.add_le_of_mem (fun e : Fetch × Answer => e.1.asking call) he he' heq
    have hone := List.nodup_iff_count.1 ho.nodup call
    have hk := ha call
    rw [Fetch.asking_notes, Fetch.asking_notes] at htwo
    omega

/-- A call has fetched the notes of one document at most. -/
theorem Asked.notes_eq (ha : h.Asked) (ho : h.course.Orderly) {call : Nat} {node : DeckNode} {notes others : List Note}
    (hnotes : h.answers.Notes call node notes) (hothers : h.answers.Notes call node others) : others = notes := by
  obtain ⟨text, hm, hread⟩ := hnotes
  obtain ⟨text', hm', hread'⟩ := hothers
  obtain ⟨-, htext⟩ := ha.notes_once ho hm hm'
  obtain rfl := Except.ok.inj htext
  exact Except.ok.inj (hread'.symm.trans hread)

end History

end Flashcards

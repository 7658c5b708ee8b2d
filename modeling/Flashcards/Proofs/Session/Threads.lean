import Flashcards.Proofs.Session.Turns

/-!
# Threads of work

At any moment every thread is in one place: with a job that is ready, with a fetch that is out, with someone who waits at the cache, or
at its end. `SessionAgenda.Balanced` says so by counting: as many places carry a thread as there are threads of that kind to be
carried. A call that has been made is carried once, in a job, by one who waits, in what is being gathered, or in the list of calls that
have ended; the data and the notes that a gathering lacks are under way; every load has a fetch that is to be started or is out, until it
has an outcome, and then it is to be forgotten.

So a job that carries the thread of a call knows that the call has not ended (`Balanced.not_ended`).
-/

namespace Flashcards

/-! ## Counting -/

/-- Whether a gathering carries a thread: that of its call. -/
def Gathering.holds (θ : Thread) (g : Gathering) : Nat := θ.one (.call g.selection.call)

/-- How often a gathering waits for a thread: for the data and for the notes that have not arrived. -/
def Gathering.owes (θ : Thread) (g : Gathering) : Nat :=
  (if g.data.isNone then θ.one (.data g.selection.call) else 0) + if g.notes.isNone then θ.one (.notes g.selection.call) else 0

namespace SessionDesk

/-- How often a thread is carried apart from jobs and fetches. -/
def holds (θ : Thread) (d : SessionDesk) : Nat :=
  (d.gathering.map (Gathering.holds θ)).sum + d.cache.holds (fun w => θ.one w.thread) + (d.ended.map fun e => θ.one (.call e.1)).sum

/-- How often a thread has to be carried: each call made once, and each thread that is waited for. -/
def owes (θ : Thread) (d : SessionDesk) : Nat :=
  (d.gathering.map (Gathering.owes θ)).sum + d.cache.owes θ + θ.made d.calls

/-- How often a thread is carried. -/
def threads (θ : Thread) : Measure SessionDesk CallJob Fetch :=
  ⟨holds θ, fun job => θ.one job.thread, fun fetch => θ.one fetch.thread⟩

end SessionDesk

/-- Every thread is carried as often as it has to be, and the loads of the cache have distinct keys. -/
structure SessionAgenda.Balanced (a : SessionAgenda) : Prop where
  distinct : a.state.cache.Distinct
  threads : ∀ θ : Thread, (SessionDesk.threads θ).of a = a.state.owes θ

namespace SessionDesk

variable {d : SessionDesk} {θ : Thread}

/-- A gathering waits for the data and the notes of its call. -/
theorem gathering_owes_eq_zero {θ : Thread} (hd : ∀ call, θ ≠ .data call) (hn : ∀ call, θ ≠ .notes call) :
    (d.gathering.map (Gathering.owes θ)).sum = 0 := by
  refine Sum.eq_zero fun g _ => ?_
  rw [Gathering.owes, Thread.one_of_ne (hd _).symm, Thread.one_of_ne (hn _).symm]
  simp

/-- The thread of a call has to be carried once at most. -/
theorem owes_call_le (call : Nat) (d : SessionDesk) : d.owes (.call call) ≤ 1 := by
  rw [owes, gathering_owes_eq_zero (fun _ => by simp) fun _ => by simp, Cache.owes_eq_zero (fun _ => by simp) fun _ => by simp,
    Thread.made]
  split <;> omega

/-- A thread of a load has to be carried if the load needs it. -/
theorem owes_load (key : Json.Key) (d : SessionDesk) :
    d.owes (.load key) = d.cache.owes (.load key) ∧ d.owes (.forget key) = d.cache.owes (.forget key) := by
  have hl : d.owes (.load key) = 0 + d.cache.owes (.load key) + 0 := by
    rw [owes, gathering_owes_eq_zero (fun _ => by simp) fun _ => by simp]
    rfl
  have hf : d.owes (.forget key) = 0 + d.cache.owes (.forget key) + 0 := by
    rw [owes, gathering_owes_eq_zero (fun _ => by simp) fun _ => by simp]
    rfl
  omega

/-! ## What is being gathered -/

/-- Where the thread of a call is carried once at most, there is one gathering at most for the call. -/
theorem countP_gathering_le {call : Nat} (h : d.holds (.call call) ≤ 1) :
    (d.gathering.countP fun g => g.selection.call == call) ≤ 1 := by
  have hsum : ∀ gs : List Gathering,
      (gs.countP fun g => g.selection.call == call) = (gs.map (Gathering.holds (.call call))).sum := by
    intro gs
    induction gs with
    | nil => rfl
    | cons g gs ih =>
      simp only [List.countP_cons, ih, List.map_cons, List.sum_cons, Gathering.holds, Thread.one, Thread.call.injEq, beq_iff_eq]
      omega
  rw [hsum]
  rw [holds] at h
  omega

theorem arrived_eq (call : Nat) (f : Gathering → Gathering) (gs : List Gathering) :
    arrived call f gs = gs.map fun g => if g.selection.call == call then f g else g := by
  simp only [arrived, beq_iff_eq]

/-- What is brought for a call that gathers: the gathering lacked it, and its thread ends there. -/
theorem gathering_of_brings {job : CallJob} {call : Nat} {f : Gathering → Gathering} (hb : Brings job call f)
    (h : 0 < d.owes job.thread) :
    ∃ g ∈ d.gathering, g.selection.call = call ∧ (f g).selection = g.selection ∧
      ∀ θ, (f g).owes θ + θ.one job.thread = g.owes θ := by
  have hwait : 0 < (d.gathering.map (Gathering.owes job.thread)).sum := by
    rw [owes, Cache.owes_eq_zero (by cases hb <;> simp [CallJob.thread]) (by cases hb <;> simp [CallJob.thread])] at h
    have hmade : job.thread.made d.calls = 0 := by cases hb <;> rfl
    omega
  obtain ⟨g, hg, hpos⟩ := Sum.exists_of_pos hwait
  cases hb with
  | data =>
    have hlacks : g.data.isNone = true ∧ g.selection.call = call := by
      simpa [Gathering.owes, Thread.one, CallJob.thread, Nat.pos_iff_ne_zero] using hpos
    refine ⟨g, hg, hlacks.2, rfl, fun θ => ?_⟩
    simp only [Gathering.owes, hlacks.1, hlacks.2, CallJob.thread, Option.isNone_some, Bool.false_eq_true, if_false, if_true]
    omega
  | notes =>
    have hlacks : g.notes.isNone = true ∧ g.selection.call = call := by
      simpa [Gathering.owes, Thread.one, CallJob.thread, Nat.pos_iff_ne_zero] using hpos
    refine ⟨g, hg, hlacks.2, rfl, fun θ => ?_⟩
    simp only [Gathering.owes, hlacks.1, hlacks.2, CallJob.thread, Option.isNone_some, Bool.false_eq_true, if_false, if_true]
    omega

/-! ## What a job does to threads -/

/-- What a job does to a thread: it takes up its own, and as many are carried more as have to be. -/
def Moves (θ : Thread) (own : Nat) (d : SessionDesk) (t : Step) : Prop :=
  (threads θ).turn t + d.owes θ = d.holds θ + own + t.state.owes θ

/-- A selection that begins is gathering, and its data and its notes are under way. -/
theorem moves_opens (θ : Thread) (call : Nat) (node : DeckNode) (s : Session) (token : Nat) :
    Moves θ (θ.one (.call call)) d
      ⟨{ d with session := s, gathering := d.gathering ++ [⟨⟨call, node, token⟩, none, none⟩] },
        [.askData call node.deckPath, .askNotes call node.notesHtmlPath], []⟩ := by
  simp only [Moves, threads, Measure.turn, holds, owes, List.map_append, List.sum_append, List.map_cons, List.map_nil, List.sum_cons,
    List.sum_nil, Gathering.holds, Gathering.owes, CallJob.thread, Option.isNone_none, if_true]
  omega

/-- One who asks and has to wait is the first to wait for a load whose fetch is to be started. -/
theorem moves_asks (θ : Thread) (waiter : Waiter) (path : Json) :
    Moves θ (θ.one waiter.thread) d
      ⟨{ d with cache := { d.cache with loads := d.cache.loads ++ [⟨path, [waiter], none⟩] } }, [.chore (.load path)], []⟩ := by
  obtain ⟨hh, hw⟩ := Cache.threads_begins (fun w => θ.one w.thread) θ waiter path d.cache
  simp only [Moves, threads, Measure.turn, holds, owes, hh, hw, List.map_cons, List.map_nil, List.sum_cons, List.sum_nil,
    CallJob.thread]
  omega

/-- One who asks and has to wait joins those who wait for a load. -/
theorem moves_joins (θ : Thread) (waiter : Waiter) {path : Json} {load : Load Waiter} (hd : d.cache.Distinct)
    (hl : d.cache.load? path = some load) (ho : load.outcome = none) :
    Moves θ (θ.one waiter.thread) d ⟨{ d with cache := d.cache.addWaiter waiter path }, [], []⟩ := by
  obtain ⟨hh, hw⟩ := Cache.threads_addWaiter (fun w => θ.one w.thread) θ hd hl ho waiter
  simp only [Moves, threads, Measure.turn, holds, owes, hh, hw, List.map_nil, List.sum_nil]
  omega

/-- What arrives is put with what is gathered for its call. -/
theorem moves_arrives (θ : Thread) {job : CallJob} {call : Nat} {f : Gathering → Gathering} (hb : Brings job call f)
    (hone : d.holds (.call call) ≤ 1) (howes : 0 < d.owes job.thread) :
    Moves θ (θ.one job.thread) d (.rest { d with gathering := arrived call f d.gathering }) := by
  obtain ⟨g, hg, hcall, hf, howed⟩ := gathering_of_brings hb howes
  have hfind := Sum.find?_of_mem (countP_gathering_le hone) hg (beq_iff_eq.2 hcall)
  have hh := Sum.map_update (f := f) (g := Gathering.holds θ) (countP_gathering_le hone) hfind
  have hw := Sum.map_update (f := f) (g := Gathering.owes θ) (countP_gathering_le hone) hfind
  rw [← arrived_eq] at hh hw
  have hheld : (f g).holds θ = g.holds θ := by rw [Gathering.holds, hf]; rfl
  have ho := howed θ
  simp only [Moves, threads, Measure.turn, Turn.rest, holds, owes, List.map_nil, List.sum_nil]
  omega

/-- What is gathered when all has arrived goes on with the thread of its call. -/
theorem moves_gathers (θ : Thread) {job : CallJob} {call : Nat} {f : Gathering → Gathering} {selection : Selection} {data : Outcome}
    {notes : Answer} (hb : Brings job call f) (hone : d.holds (.call call) ≤ 1) (howes : 0 < d.owes job.thread)
    (hall : (arrived call f d.gathering).find? (fun g => g.selection.call == call) = some ⟨selection, some data, some notes⟩) :
    Moves θ (θ.one job.thread) d
      ⟨{ d with gathering := (arrived call f d.gathering).filter fun g => g.selection.call != call },
        [.gathered selection data notes], []⟩ := by
  have hm := moves_arrives θ hb hone howes
  have hone' : ((arrived call f d.gathering).countP fun g => g.selection.call == call) ≤ 1 := by
    have hcount : ∀ g : Gathering, (f g).selection = g.selection := by cases hb <;> exact fun _ => rfl
    rw [arrived, List.countP_map]
    refine Nat.le_trans (Nat.le_of_eq (List.countP_congr fun g _ => ?_)) (countP_gathering_le hone)
    rw [Function.comp]
    split <;> simp [hcount]
  have hh := Sum.filter_not (g := Gathering.holds θ) hone' hall
  have hw := Sum.filter_not (g := Gathering.owes θ) hone' hall
  simp only [Gathering.holds, Gathering.owes, Option.isNone_some, Bool.false_eq_true, if_false] at hh hw
  generalize θ.one job.thread = own at hm ⊢
  simp only [Moves, threads, Measure.turn, Turn.rest, holds, owes, List.map_nil, List.sum_nil] at hm
  simp only [Moves, threads, Measure.turn, holds, owes, List.map_cons, List.map_nil, List.sum_cons, List.sum_nil, CallJob.thread, bne]
  omega

/-- A load that is forgotten is no longer waiting for that. -/
theorem moves_forgets (θ : Thread) {path : Json} (hd : d.cache.Distinct) (howes : 0 < d.owes (.forget path.key)) :
    Moves θ (θ.one (.forget path.key)) d (.rest { d with cache := d.cache.forget path }) := by
  rw [(owes_load _ d).2] at howes
  obtain ⟨load, hl, hout⟩ := Cache.load_of_owes_forget hd howes
  obtain ⟨hh, hw⟩ := Cache.threads_forget (fun w => θ.one w.thread) θ hd hl hout
  simp only [Moves, threads, Measure.turn, Turn.rest, holds, owes, List.map_nil, List.sum_nil]
  omega

/-- A load that gets its outcome is to be forgotten, and those who wait for it are woken. -/
theorem moves_finish (θ : Thread) {path : Json} (answer : Answer) (hd : d.cache.Distinct) (howes : 0 < d.owes (.load path.key)) :
    Moves θ (θ.one (.load path.key)) d (receive (.resource path) answer d) := by
  rw [(owes_load _ d).1] at howes
  obtain ⟨load, hl, hout⟩ := Cache.load_of_owes hd howes
  obtain ⟨hh, hw⟩ := Cache.threads_finish (fun w => θ.one w.thread) θ hd hl hout answer
  have hchores := Cache.finish_chores hl answer
  simp only [Moves, receive, threads, Measure.turn, holds, owes, hchores, List.map_cons, List.map_map, List.sum_cons, List.map_nil,
    List.sum_nil, Function.comp_def, CallJob.thread]
  omega

/-- A job takes up its thread, and as many are carried more as have to be. -/
theorem moves_perform (θ : Thread) {job : CallJob} (hd : d.cache.Distinct)
    (howes : ∀ θ : Thread, d.holds θ + θ.one job.thread ≤ d.owes θ) : Moves θ (θ.one job.thread) d (perform job d) := by
  have hpos : 0 < d.owes job.thread := by
    have h := howes job.thread
    rw [Thread.one_self] at h
    omega
  have hone : ∀ call, d.holds (.call call) ≤ 1 := fun call => by
    have h := howes (.call call)
    have h' := owes_call_le call d
    omega
  have hp := d.performed job
  generalize perform job d = t at hp
  cases hp with
  | ends he =>
    rw [he.thread]
    simp only [Moves, threads, Measure.turn, Turn.rest, finish, holds, owes, List.map_append, List.sum_append, List.map_cons,
      List.map_nil, List.sum_cons, List.sum_nil]
    omega
  | opens ho => rw [ho.thread]; exact moves_opens θ _ _ _ _
  | asks ha _ => rw [ha.thread]; exact moves_asks θ _ _
  | joins ha hl ho => rw [ha.thread]; exact moves_joins θ _ hd hl ho
  | passes ht =>
    rw [ht.thread]
    simp only [Moves, threads, Measure.turn, List.map_cons, List.map_nil, List.sum_cons, List.sum_nil, CallJob.thread, Waiter.thread]
    omega
  | sends =>
    simp only [Moves, threads, Measure.turn, List.map_cons, List.map_nil, List.sum_cons, List.sum_nil, CallJob.thread, Fetch.thread]
    omega
  | arrives hb _ => exact moves_arrives θ hb (hone _) hpos
  | gathers hb hg => exact moves_gathers θ hb (hone _) hpos hg
  | loads =>
    have hh : ({ d with cache := d.cache.beginFetch } : SessionDesk).holds θ = d.holds θ := rfl
    have hw : ({ d with cache := d.cache.beginFetch } : SessionDesk).owes θ = d.owes θ := rfl
    simp only [Moves, threads, Measure.turn, List.map_cons, List.map_nil, List.sum_cons, List.sum_nil, CallJob.thread, Fetch.thread, hh,
      hw]
    omega
  | forgets => exact moves_forgets θ hd hpos

/-- A fetch that is answered takes up its thread, and as many are carried more as have to be. -/
theorem moves_receive (θ : Thread) {fetch : Fetch} (answer : Answer) (hd : d.cache.Distinct)
    (howes : ∀ θ : Thread, d.holds θ + θ.one fetch.thread ≤ d.owes θ) :
    Moves θ (θ.one fetch.thread) d (receive fetch answer d) := by
  have hpos : 0 < d.owes fetch.thread := by
    have h := howes fetch.thread
    rw [Thread.one_self] at h
    omega
  cases fetch with
  | resource path => exact moves_finish θ answer hd hpos
  | notes call path =>
    simp only [Moves, receive, threads, Measure.turn, List.map_cons, List.map_nil, List.sum_cons, List.sum_nil, CallJob.thread,
      Fetch.thread]
    omega

/-- A job keeps the keys of the loads distinct. -/
theorem perform_distinct (hd : d.cache.Distinct) (job : CallJob) : (perform job d).state.cache.Distinct := by
  have hp := d.performed job
  generalize perform job d = t at hp
  cases hp with
  | ends | opens | passes | sends | arrives | gathers | loads => exact hd
  | asks _ hl => exact Cache.begins_distinct hd hl _
  | joins _ _ _ =>
    rw [Cache.Distinct, Cache.keys_addWaiter]
    exact hd
  | forgets => exact Cache.forget_distinct hd _

/-- An answer keeps the keys of the loads distinct. -/
theorem receive_distinct (hd : d.cache.Distinct) (fetch : Fetch) (answer : Answer) : (receive fetch answer d).state.cache.Distinct := by
  cases fetch with
  | resource path => exact Cache.finish_distinct hd path answer
  | notes => exact hd

end SessionDesk

/-! ## Runs -/

namespace SessionAgenda

open SessionDesk

variable {a : SessionAgenda}

theorem fresh_balanced (mode : RenderMode) (rootModels : Json) : (fresh mode rootModels).Balanced := by
  refine ⟨Cache.empty_distinct, fun θ => ?_⟩
  cases θ <;> rfl

/-- A job that is ready carries its thread besides what is carried elsewhere. -/
theorem Balanced.ready (h : a.Balanced) {i : Nat} {job : CallJob} (hj : a.ready[i]? = some job) (θ : Thread) :
    a.state.holds θ + θ.one job.thread ≤ a.state.owes θ := by
  have hle := (SessionDesk.threads θ).job_le_of hj
  rw [h.threads θ] at hle
  exact hle

/-- A fetch that is out carries its thread besides what is carried elsewhere. -/
theorem Balanced.out (h : a.Balanced) {i : Nat} {fetch : Fetch} (hf : a.out[i]? = some fetch) (θ : Thread) :
    a.state.holds θ + θ.one fetch.thread ≤ a.state.owes θ := by
  have hle := (SessionDesk.threads θ).fetch_le_of hf
  rw [h.threads θ] at hle
  exact hle

theorem Balanced.runAt (h : a.Balanced) (i : Nat) : Balanced (a.runAt SessionDesk.program i) := by
  cases hj : a.ready[i]? with
  | none => rw [Agenda.runAt_of_none _ hj]; exact h
  | some job =>
    refine ⟨?_, fun θ => ?_⟩
    · rw [Agenda.runAt, hj]
      exact perform_distinct h.distinct job
    · have hw := (SessionDesk.threads θ).of_runAt SessionDesk.program hj
      have hm := moves_perform θ h.distinct (h.ready hj)
      have ht := h.threads θ
      have hs : (a.runAt SessionDesk.program i).state = (perform job a.state).state := by rw [Agenda.runAt, hj]; rfl
      rw [hs]
      simp only [Moves, SessionDesk.threads, SessionDesk.program] at hw hm ht ⊢
      omega

theorem Balanced.answerAt (h : a.Balanced) (i : Nat) (answer : Answer) :
    Balanced (a.answerAt SessionDesk.program i answer) := by
  cases hf : a.out[i]? with
  | none => rw [Agenda.answerAt_of_none _ hf]; exact h
  | some fetch =>
    refine ⟨?_, fun θ => ?_⟩
    · rw [Agenda.answerAt, hf]
      exact receive_distinct h.distinct fetch answer
    · have hw := (SessionDesk.threads θ).of_answerAt SessionDesk.program answer hf
      have hm := moves_receive θ answer h.distinct (h.out hf)
      have ht := h.threads θ
      have hs : (a.answerAt SessionDesk.program i answer).state = (receive fetch answer a.state).state := by
        rw [Agenda.answerAt, hf]
        rfl
      rw [hs]
      simp only [Moves, SessionDesk.threads, SessionDesk.program] at hw hm ht ⊢
      omega

/-- A call that is made is carried by the job that begins it. -/
theorem Balanced.call (h : a.Balanced) (request : Request) : (a.call request).Balanced := by
  refine ⟨h.distinct, fun θ => ?_⟩
  have hw := (SessionDesk.threads θ).of_add (.begin a.state.calls request) (a.change fun d => { d with calls := d.calls + 1 })
  have ht := h.threads θ
  have hmade := θ.made_succ a.state.calls
  have hh : (a.change fun d => { d with calls := d.calls + 1 }).state.holds θ = a.state.holds θ := rfl
  simp only [Measure.of, SessionDesk.threads, Agenda.change, CallJob.thread, owes] at hw ht hh ⊢
  simp only [SessionAgenda.call, Agenda.add, Agenda.change, hmade] at hw ⊢
  omega

theorem Balanced.step (h : a.Balanced) (event : CallEvent) : (a.step event).Balanced := by
  cases event with
  | call request => exact h.call request
  | run i => exact h.runAt i
  | answer i answer => exact h.answerAt i answer

/-- Whatever happens, every thread is in one place. -/
theorem Balanced.after (h : a.Balanced) (events : List CallEvent) : (a.after events).Balanced := by
  induction events generalizing a with
  | nil => exact h
  | cons event events ih => exact ih (h.step event)

/-- A call whose thread a job carries has been made. -/
theorem Balanced.lt_calls (h : a.Balanced) {i : Nat} {job : CallJob} (hj : a.ready[i]? = some job) {call : Nat}
    (ht : job.thread = .call call) : call < a.state.calls := by
  have hle := h.ready hj (.call call)
  rw [ht, Thread.one_self, owes, gathering_owes_eq_zero (fun _ => by simp) fun _ => by simp,
    Cache.owes_eq_zero (fun _ => by simp) fun _ => by simp, Thread.made] at hle
  split at hle <;> omega

/-- And it has not ended. -/
theorem Balanced.not_ended (h : a.Balanced) {i : Nat} {job : CallJob} (hj : a.ready[i]? = some job) {call : Nat}
    (ht : job.thread = .call call) : ∀ e ∈ a.state.ended, e.1 ≠ call := by
  intro e he hcall
  have hle := h.ready hj (.call call)
  have hone := owes_call_le call a.state
  have hend := Sum.le_of_mem (fun e : Nat × Except Failure CallResult => (Thread.call call).one (.call e.1)) he
  rw [hcall, Thread.one_self] at hend
  rw [ht, Thread.one_self, holds] at hle
  omega

end SessionAgenda

end Flashcards

import Flashcards.Proofs.Session.Threads

/-!
# How calls come to their ends

Each job that runs and each fetch that is answered leaves less to do: `SessionAgenda.burden` is how much there may still be. So jobs and
fetches run out unless new calls are made. When none is left, every call has ended, once (`SessionAgenda.Balanced.all_ended`): a load
that is still there would need a fetch, and a selection that is still gathering would lack its data or its notes, which would be under
way.
-/

namespace Flashcards

/-! ## Burdens -/

/-- How many steps there may be until one who waits has been dealt with, from when the outcome is there. -/
def Waiter.burden : Waiter → Nat
  | .deckData _ => 2
  | .rootModels _ | .deckModels _ _ => 1

/-- How many steps may follow from a job, with the job itself. -/
def CallJob.burden : CallJob → Nat
  | .begin _ .loadRootModels => 5
  | .begin _ (.select _) | .begin _ (.setMode _) => 15
  | .askData _ _ => 6
  | .askNotes _ _ => 3
  | .dataArrived _ _ | .notesArrived _ _ => 1
  | .gathered _ _ _ => 5
  | .chore (.load _) => 3
  | .chore (.forget _) => 1
  | .chore (.wake waiter _) => waiter.burden

theorem CallJob.burden_pos (job : CallJob) : 0 < job.burden := by
  cases job with
  | begin k request => cases request <;> exact Nat.succ_pos _
  | chore chore =>
    cases chore with
    | wake waiter outcome => cases waiter <;> exact Nat.succ_pos _
    | load | forget => exact Nat.succ_pos _
  | _ => exact Nat.succ_pos _

theorem CallJob.burden_load (path : Json) : (CallJob.chore (.load path)).burden = 3 := by rw [burden]

theorem CallJob.burden_dataArrived (k : Nat) (outcome : Outcome) : (CallJob.dataArrived k outcome).burden = 1 := by rw [burden]

theorem CallJob.burden_gathered (selection : Selection) (data : Outcome) (notes : Answer) :
    (CallJob.gathered selection data notes).burden = 5 := by rw [burden]

namespace SessionDesk

/-- How many steps there may be until everything has been dealt with. -/
def burden : Measure SessionDesk CallJob Fetch :=
  ⟨fun d => 5 * d.gathering.length + d.cache.holds Waiter.burden, CallJob.burden, fun _ => 2⟩

variable {d : SessionDesk}

/-- Who asks may have to wait for a load, whose fetch is to be started. -/
theorem Asks.burden {job : CallJob} {waiter : Waiter} {path : Json} (h : Asks d job waiter path) :
    waiter.burden + 3 < job.burden := by
  cases h <;> simp only [CallJob.burden, Waiter.burden] <;> omega

/-- The data of a deck are handed on by one step. -/
theorem Told.burden_data {job : CallJob} {k : Nat} {outcome : Outcome} (h : Told d job (.deckData k) outcome) : 1 < job.burden := by
  cases h with
  | woken => simp only [CallJob.burden, Waiter.burden]; omega
  | atOnce ha _ =>
    have hb := ha.burden
    omega

/-- A gathering that is complete leaves the others. -/
theorem length_filter_lt {gs : List Gathering} {k : Nat} {g : Gathering}
    (h : gs.find? (fun g => g.selection.call == k) = some g) : (gs.filter fun g => g.selection.call != k).length < gs.length := by
  rw [List.length_filter_lt_length_iff_exists]
  have hk := List.find?_some h
  exact ⟨g, List.mem_of_find?_eq_some h, by simpa [bne] using hk⟩

/-- A job leaves less to do. -/
theorem burden_perform {job : CallJob} (hd : d.cache.Distinct) (howes : ∀ θ : Thread, d.holds θ + θ.one job.thread ≤ d.owes θ) :
    burden.turn (perform job d) < burden.job job + burden.state d := by
  have hpos := CallJob.burden_pos job
  have hp := d.performed job
  generalize perform job d = t at hp
  cases hp with
  | ends he =>
    simp only [Measure.turn, Turn.rest, burden, finish, List.map_nil, List.sum_nil]
    omega
  | opens ho =>
    cases ho <;>
      simp only [Measure.turn, burden, CallJob.burden, List.length_append, List.length_singleton, List.map_cons, List.map_nil,
        List.sum_cons, List.sum_nil] <;>
      omega
  | @asks _ waiter path ha _ =>
    have hb := ha.burden
    have hh := (Cache.threads_begins Waiter.burden (.call 0) waiter path d.cache).1
    simp only [Measure.turn, burden, hh, CallJob.burden_load, List.map_cons, List.map_nil, List.sum_cons, List.sum_nil]
    omega
  | @joins _ waiter path load ha hl ho =>
    have hb := ha.burden
    have hh := (Cache.threads_addWaiter Waiter.burden (.call 0) hd hl ho waiter).1
    simp only [Measure.turn, burden, hh, List.map_nil, List.sum_nil]
    omega
  | passes ht =>
    have hb := ht.burden_data
    simp only [Measure.turn, burden, CallJob.burden_dataArrived, List.map_cons, List.map_nil, List.sum_cons, List.sum_nil]
    omega
  | sends =>
    simp only [Measure.turn, burden, CallJob.burden, List.map_cons, List.map_nil, List.sum_cons, List.sum_nil]
    omega
  | arrives hb _ =>
    simp only [Measure.turn, Turn.rest, burden, arrived, List.length_map, List.map_nil, List.sum_nil]
    omega
  | gathers hb hg =>
    have hlt := length_filter_lt hg
    rw [arrived, List.length_map] at hlt
    simp only [Measure.turn, burden, CallJob.burden_gathered, arrived, List.map_cons, List.map_nil, List.sum_cons, List.sum_nil]
    omega
  | loads =>
    have hh : d.cache.beginFetch.holds Waiter.burden = d.cache.holds Waiter.burden := rfl
    simp only [Measure.turn, burden, hh, CallJob.burden, List.map_cons, List.map_nil, List.sum_cons, List.sum_nil]
    omega
  | @forgets path =>
    have hown := howes (.forget path.key)
    rw [CallJob.thread, Thread.one_self, (owes_load _ d).2] at hown
    obtain ⟨load, hl, hout⟩ := Cache.load_of_owes_forget hd (Nat.lt_of_lt_of_le (Nat.succ_pos _) hown)
    have hh := (Cache.threads_forget Waiter.burden (.call 0) hd hl hout).1
    simp only [Measure.turn, Turn.rest, burden, hh, List.map_nil, List.sum_nil]
    omega

/-- An answer leaves less to do. -/
theorem burden_receive {fetch : Fetch} (answer : Answer) (hd : d.cache.Distinct)
    (howes : ∀ θ : Thread, d.holds θ + θ.one fetch.thread ≤ d.owes θ) :
    burden.turn (receive fetch answer d) < burden.fetch fetch + burden.state d := by
  cases fetch with
  | notes k path =>
    simp only [Measure.turn, receive, burden, CallJob.burden, List.map_cons, List.map_nil, List.sum_cons, List.sum_nil]
    omega
  | resource path =>
    have hown := howes (.load path.key)
    rw [Fetch.thread, Thread.one_self, (owes_load _ d).1] at hown
    obtain ⟨load, hl, hout⟩ := Cache.load_of_owes hd (Nat.lt_of_lt_of_le (Nat.succ_pos _) hown)
    have hh : _ + (load.waiters.map fun w => w.burden).sum = _ := (Cache.threads_finish Waiter.burden (.call 0) hd hl hout answer).1
    simp only [Measure.turn, receive, burden, Cache.finish_chores hl answer, List.map_cons, List.map_map, List.map_nil, List.sum_cons,
      List.sum_nil, Function.comp_def, CallJob.burden]
    omega

/-! ## What is lacking -/

/-- Every selection that is gathering lacks its data or its notes. -/
def Lacking (d : SessionDesk) : Prop := ∀ g ∈ d.gathering, g.data = none ∨ g.notes = none

/-- A gathering that has all does not stay. -/
theorem Lacking.perform (h : d.Lacking) (hone : ∀ k, d.holds (.call k) ≤ 1) (job : CallJob) : (perform job d).state.Lacking := by
  have hp := d.performed job
  generalize SessionDesk.perform job d = t at hp
  cases hp with
  | ends | asks | joins | passes | sends | loads | forgets => exact h
  | opens =>
    intro g hg
    rcases List.mem_append.1 hg with hg | hg
    · exact h g hg
    · exact List.mem_singleton.1 hg ▸ Or.inl rfl
  | @arrives _ k f hb hg =>
    intro g hmem
    obtain ⟨g', hg', rfl⟩ := List.mem_map.1 hmem
    split
    · rename_i hk
      -- It is the one gathering of the call.
      have hf : (f g').selection = g'.selection := by cases hb <;> rfl
      have hcount : ((arrived k f d.gathering).countP fun g => g.selection.call == k) ≤ 1 := by
        rw [arrived, List.countP_map]
        refine Nat.le_trans (Nat.le_of_eq (List.countP_congr fun g _ => ?_)) (countP_gathering_le (hone k))
        rw [Function.comp]
        split <;> cases hb <;> exact Iff.rfl
      have hfind := Sum.find?_of_mem hcount (List.mem_map.2 ⟨g', hg', if_pos hk⟩) (beq_iff_eq.2 (hf ▸ hk))
      rcases hgather : f g' with ⟨selection, data, notes⟩
      rw [hgather] at hfind
      cases data with
      | none => exact Or.inl rfl
      | some data =>
        cases notes with
        | none => exact Or.inr rfl
        | some notes => exact absurd hfind (hg _ _ _)
    · exact h g' hg'
  | @gathers _ k f _ _ _ hb hg =>
    intro g hmem
    obtain ⟨hmem, hk⟩ := List.mem_filter.1 hmem
    obtain ⟨g', hg', rfl⟩ := List.mem_map.1 hmem
    have hf : (f g').selection = g'.selection := by cases hb <;> rfl
    split
    · rename_i hk'
      rw [if_pos hk', hf, bne_iff_ne] at hk
      exact absurd hk' hk
    · exact h g' hg'

end SessionDesk

/-! ## Runs -/

namespace SessionAgenda

open SessionDesk

variable {a : SessionAgenda}

/-- A job that runs leaves less to do. -/
theorem Balanced.burden_run (h : a.Balanced) {i : Nat} (hi : i < a.ready.length) : burden.of (a.step (.run i)) < burden.of a := by
  have hj := List.getElem?_eq_getElem hi
  have hw := burden.of_runAt SessionDesk.program hj
  have hlt := burden_perform h.distinct (h.ready hj)
  rw [show (SessionDesk.program.perform a.ready[i] a.state) = perform a.ready[i] a.state from rfl] at hw
  rw [SessionAgenda.step]
  omega

/-- A fetch that is answered leaves less to do. -/
theorem Balanced.burden_answer (h : a.Balanced) {i : Nat} (hi : i < a.out.length) (answer : Answer) :
    burden.of (a.step (.answer i answer)) < burden.of a := by
  have hf := List.getElem?_eq_getElem hi
  have hw := burden.of_answerAt SessionDesk.program answer hf
  have hlt := burden_receive answer h.distinct (h.out hf)
  rw [show (SessionDesk.program.receive a.out[i] answer a.state) = receive a.out[i] answer a.state from rfl] at hw
  rw [SessionAgenda.step]
  omega

theorem Balanced.lacking_step (h : a.Balanced) (hl : a.state.Lacking) (event : CallEvent) : (a.step event).state.Lacking := by
  cases event with
  | call request => exact hl
  | run i =>
    rw [SessionAgenda.step]
    cases hj : a.ready[i]? with
    | none => rw [Agenda.runAt_of_none _ hj]; exact hl
    | some job =>
      rw [Agenda.runAt_of_some _ hj]
      refine hl.perform (fun k => ?_) job
      have hle := h.ready hj (.call k)
      have hone := owes_call_le k a.state
      omega
  | answer i answer =>
    rw [SessionAgenda.step]
    cases hf : a.out[i]? with
    | none => rw [Agenda.answerAt_of_none _ hf]; exact hl
    | some fetch =>
      rw [Agenda.answerAt_of_some _ hf]
      cases fetch <;> exact hl

/-- Whatever happens, every selection that is gathering lacks something. -/
theorem Balanced.lacking_after (h : a.Balanced) (hl : a.state.Lacking) (events : List CallEvent) : (a.after events).state.Lacking := by
  induction events generalizing a with
  | nil => exact hl
  | cons event events ih => exact ih (h.step event) (h.lacking_step hl event)

/-- When no job is ready and no fetch is out, what carries a thread is a gathering, one who waits, or a call that has ended. -/
theorem Balanced.threads_at_rest (h : a.Balanced) (hr : a.ready = []) (ho : a.out = []) (θ : Thread) :
    a.state.holds θ = a.state.owes θ := by
  have ht := h.threads θ
  rw [Measure.of, hr, ho] at ht
  exact ht

/-- When no job is ready and no fetch is out, there is no load. -/
theorem Balanced.no_loads (h : a.Balanced) (hr : a.ready = []) (ho : a.out = []) : a.state.cache.loads = [] := by
  refine List.eq_nil_iff_forall_not_mem.2 fun l hl => ?_
  generalize hθ : (if l.outcome.isSome then Thread.forget l.path.key else Thread.load l.path.key) = θ
  have hne : ∀ k, θ ≠ .call k ∧ θ ≠ .data k := by
    intro k
    subst hθ
    split <;> exact ⟨nofun, nofun⟩
  have howes : 0 < a.state.owes θ := by
    have hle := Sum.le_of_mem (Load.owes θ) hl
    rw [Load.owes, hθ, Thread.one_self] at hle
    rw [owes, Cache.owes, Cache.total]
    omega
  have hholds : a.state.holds θ = 0 := by
    have hg : (a.state.gathering.map (Gathering.holds θ)).sum = 0 := Sum.eq_zero fun g _ => Thread.one_of_ne (hne _).1.symm
    have he : (a.state.ended.map fun e => θ.one (.call e.1)).sum = 0 := Sum.eq_zero fun e _ => Thread.one_of_ne (hne _).1.symm
    have hw : a.state.cache.holds (fun w => θ.one w.thread) = 0 := by
      refine Sum.eq_zero fun l' _ => ?_
      rw [Load.holds, Sum.eq_zero fun w _ => Thread.one_of_ne ?_]
      · split <;> rfl
      · cases w with
        | rootModels k => exact (hne k).1.symm
        | deckData k => exact (hne k).2.symm
        | deckModels selection notes => exact (hne _).1.symm
    rw [holds, hg, he, hw]
  rw [h.threads_at_rest hr ho] at hholds
  omega

/-- When no job is ready and no fetch is out, nothing is being gathered. -/
theorem Balanced.no_gathering (h : a.Balanced) (hl : a.state.Lacking) (hr : a.ready = []) (ho : a.out = []) :
    a.state.gathering = [] := by
  refine List.eq_nil_iff_forall_not_mem.2 fun g hg => ?_
  have hholds : ∀ θ : Thread, (∀ k, θ ≠ .call k) → a.state.owes θ = 0 := by
    intro θ hne
    have hg : (a.state.gathering.map (Gathering.holds θ)).sum = 0 := Sum.eq_zero fun g _ => Thread.one_of_ne (hne _).symm
    have he : (a.state.ended.map fun e => θ.one (.call e.1)).sum = 0 := Sum.eq_zero fun e _ => Thread.one_of_ne (hne _).symm
    rw [← h.threads_at_rest hr ho, holds, hg, he, Cache.holds, Cache.total, h.no_loads hr ho]
    rfl
  have hle := fun θ => Sum.le_of_mem (Gathering.owes θ) hg
  rcases hl g hg with hnone | hnone
  · have hz := hholds (.data g.selection.call) fun _ => by simp
    have hd := hle (.data g.selection.call)
    simp only [Gathering.owes, hnone, Option.isNone_none, if_true, Thread.one_self] at hd
    rw [owes] at hz
    omega
  · have hz := hholds (.notes g.selection.call) fun _ => by simp
    have hd := hle (.notes g.selection.call)
    simp only [Gathering.owes, hnone, Option.isNone_none, if_true, Thread.one_self] at hd
    rw [owes] at hz
    omega

/-- When no job is ready and no fetch is out, every call has ended, once. -/
theorem Balanced.all_ended (h : a.Balanced) (hl : a.state.Lacking) (hr : a.ready = []) (ho : a.out = []) :
    (a.state.ended.map (·.1)).Perm (List.range a.state.calls) := by
  refine List.perm_iff_count.2 fun k => ?_
  have ht := h.threads_at_rest hr ho (.call k)
  have hcount : ∀ ended : List (Nat × Except Failure CallResult),
      (ended.map fun e => (Thread.call k).one (.call e.1)).sum = (ended.map (·.1)).count k := by
    intro ended
    induction ended with
    | nil => rfl
    | cons e ended ih =>
      rw [List.map_cons, List.sum_cons, ih, List.map_cons, List.count_cons, Thread.one]
      simp only [Thread.call.injEq, beq_iff_eq]
      omega
  rw [holds, owes, Cache.holds, Cache.owes, Cache.total, Cache.total, h.no_loads hr ho, h.no_gathering hl hr ho] at ht
  simp only [List.map_nil, List.sum_nil, hcount, Nat.zero_add, Thread.made] at ht
  rw [ht, List.count_range]

end SessionAgenda

end Flashcards

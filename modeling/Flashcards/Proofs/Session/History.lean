import Flashcards.Proofs.Session.Newest

/-!
# The history of a session

More can happen to a session than that its calls go on. From outside a fragment may be hoisted into its page, a card may be clicked, and
the stored resources may be dropped (`Intervention`). A `History` is the course of the calls with every answer that has been given to a
fetch; everything that can happen makes a history out of a history, and what becomes of the session is one of five things
(`History.Becomes`).

The numbers of selections are their places in every history (`History.orderly`).
-/

namespace Flashcards

/-- What can be done to a session from outside. -/
inductive Intervention where
  | hoist (librariesOnly : Bool) (fragment : Text)
  | click (i : Nat)
  | clearCache

/-- What can happen to a session: its calls go on, or something is done to it from outside. -/
inductive Happening where
  | event (event : CallEvent)
  | outside (intervention : Intervention)

/-- Something done from outside. What a fragment gives up is taken in also if it cannot be hoisted. -/
def Intervention.apply (d : SessionDesk) : Intervention → SessionDesk
  | .hoist librariesOnly fragment => d.change fun s => (s.strip librariesOnly fragment).1
  | .click i => d.change (Session.click i)
  | .clearCache => { d with cache := d.cache.clear }

/-- Answers that have been given to fetches, each with its fetch. -/
abbrev Answers := List (Fetch × Answer)

/-- The course of the calls of a session, and the answers that have been given to fetches, in order. -/
structure History where
  course : Course
  answers : Answers

namespace History

/-- A session that has shown nothing, before anything happens. -/
def fresh (mode : RenderMode) (rootModels : Json) : History := ⟨Course.fresh mode rootModels, []⟩

/-- The session with its cache and its calls. -/
def desk (h : History) : SessionDesk := h.course.agenda.state

/-- The session as it is. -/
def session (h : History) : Session := h.course.session

/-- The fetch that an event answers, with the answer. -/
def answered? (h : History) : CallEvent → Option (Fetch × Answer)
  | .answer i answer => h.course.agenda.out[i]?.map (·, answer)
  | .call _ | .run _ => none

/-- One thing happens. -/
def happen (h : History) : Happening → History
  | .event event => ⟨h.course.step event, h.answers ++ (h.answered? event).toList⟩
  | .outside intervention =>
    { h with course := { h.course with agenda := h.course.agenda.change fun d => intervention.apply d } }

/-- Things happen one after the other. -/
def through (happenings : List Happening) (h : History) : History := happenings.foldl happen h

variable {h h' : History}

theorem through_append (xs ys : List Happening) (h : History) : h.through (xs ++ ys) = (h.through xs).through ys :=
  List.foldl_append

/-- What holds at the beginning, and after each thing that happens if it held before, holds in every history. -/
theorem through_induction {P : History → Prop} (hh : P h) (hstep : ∀ h x, P h → P (h.happen x)) (xs : List Happening) :
    P (h.through xs) := by
  induction xs generalizing h with
  | nil => exact hh
  | cons x xs ih => exact ih (hstep h x hh)

/-- No answer is forgotten. -/
theorem answers_subset (h : History) (x : Happening) : h.answers ⊆ (h.happen x).answers := by
  cases x with
  | event event => exact List.subset_append_left _ _
  | outside intervention => exact List.Subset.refl _

/-! ## Steps -/

/-- A job that is at a position takes the step, and no answer is given. -/
theorem happen_run {i : Nat} {job : CallJob} (hj : h.course.agenda.ready[i]? = some job) :
    h.happen (.event (.run i)) =
      ⟨⟨Agenda.take SessionDesk.program (SessionDesk.perform job h.desk)
          { h.course.agenda with ready := h.course.agenda.ready.eraseIdx i },
        h.course.started ++ (job.begins? h.session).toList⟩, h.answers⟩ := by
  rw [happen, Course.step_run hj, answered?, Option.toList_none, List.append_nil]
  rfl

theorem happen_run_of_none {i : Nat} (hj : h.course.agenda.ready[i]? = none) : h.happen (.event (.run i)) = h := by
  rw [happen, Course.step_run_of_none hj, answered?, Option.toList_none, List.append_nil]

/-- A fetch that is at a position is answered, and the answer is kept. -/
theorem happen_answer {i : Nat} {fetch : Fetch} (answer : Answer) (hf : h.course.agenda.out[i]? = some fetch) :
    h.happen (.event (.answer i answer)) =
      ⟨⟨Agenda.take SessionDesk.program (SessionDesk.receive fetch answer h.desk)
          { h.course.agenda with out := h.course.agenda.out.eraseIdx i }, h.course.started⟩, h.answers ++ [(fetch, answer)]⟩ := by
  rw [happen, Course.step_answer hf, answered?, hf, Option.map_some, Option.toList_some]
  rfl

theorem happen_answer_of_none {i : Nat} (answer : Answer) (hf : h.course.agenda.out[i]? = none) :
    h.happen (.event (.answer i answer)) = h := by
  rw [happen, Course.step_answer_of_none hf, answered?, hf, Option.map_none, Option.toList_none, List.append_nil]

/-- A call is made. -/
theorem happen_call (request : Request) :
    h.happen (.event (.call request)) = ⟨⟨h.course.agenda.call request, h.course.started⟩, h.answers⟩ := by
  rw [happen, Course.step, Course.begun?, answered?, Option.toList_none, Option.toList_none, List.append_nil, List.append_nil]
  rfl

/-! ## What becomes of a session -/

/-- What becomes of a session when something happens: a call ends with it, the selection of a deck begins, a fragment is hoisted into its
page, a card is clicked, or it stays as it is. -/
inductive Becomes (h h' : History) : Prop
  | ends {i : Nat} {job : CallJob} {call : Nat} {session : Session} {result : Except Failure CallResult}
    (hj : h.course.agenda.ready[i]? = some job) (he : SessionDesk.Ending h.desk job call session result)
    (hs : h'.session = session) (hst : h'.course.started = h.course.started)
    (hend : h'.course.ended = h.course.ended ++ [(call, result)])
  | opens {i : Nat} {job : CallJob} {call : Nat} {node : DeckNode} {mode : RenderMode}
    (hj : h.course.agenda.ready[i]? = some job) (ho : SessionDesk.Opening h.desk job call node mode)
    (hs : h'.session = ({ h.session with mode := mode } : Session).select node)
    (hst : h'.course.started = h.course.started ++ [(call, node)]) (hend : h'.course.ended = h.course.ended)
  | hoisted (librariesOnly : Bool) (fragment : Text) (hs : h'.session = (h.session.strip librariesOnly fragment).1)
    (hst : h'.course.started = h.course.started) (hend : h'.course.ended = h.course.ended)
  | clicked (i : Nat) (hs : h'.session = h.session.click i) (hst : h'.course.started = h.course.started)
    (hend : h'.course.ended = h.course.ended)
  | stays (hs : h'.session = h.session) (hst : h'.course.started = h.course.started) (hend : h'.course.ended = h.course.ended)

/-- It is one of these. -/
theorem becomes (h : History) (x : Happening) : h.Becomes (h.happen x) := by
  cases x with
  | event event =>
    cases event with
    | call request => exact .stays rfl (List.append_nil _) rfl
    | answer i answer =>
      obtain ⟨hs, hst, hend⟩ := Course.step_answer_same (c := h.course) i answer
      exact .stays hs hst hend
    | run i =>
      cases hj : h.course.agenda.ready[i]? with
      | none =>
        have hsame := Course.step_run_of_none hj
        exact .stays (congrArg Course.session hsame) (congrArg Course.started hsame) (congrArg Course.ended hsame)
      | some job =>
        rcases Course.step_run_cases hj with ⟨_, _, _, he, hs, hst, hend⟩ | ⟨_, _, _, ho, hs, hst, hend⟩ | ⟨hs, hst, hend⟩
        · exact .ends hj he hs hst hend
        · exact .opens hj ho hs hst hend
        · exact .stays hs hst hend
  | outside intervention =>
    cases intervention with
    | click i => exact .clicked i rfl rfl rfl
    | clearCache => exact .stays rfl rfl rfl
    | hoist librariesOnly fragment => exact .hoisted librariesOnly fragment rfl rfl rfl

/-- A call that ends when something happens ends with the job that runs. -/
theorem ending_of_ended {h : History} {x : Happening} {call : Nat} {result : Except Failure CallResult}
    (hend : (h.happen x).course.ended = h.course.ended ++ [(call, result)]) :
    ∃ (i : Nat) (job : CallJob), h.course.agenda.ready[i]? = some job ∧ SessionDesk.Ending h.desk job call (h.happen x).session result ∧
      (h.happen x).course.started = h.course.started := by
  have hno : h.course.ended ≠ h.course.ended ++ [(call, result)] := fun heq => by simpa using congrArg List.length heq
  have hb := h.becomes x
  generalize h.happen x = h' at hend hb ⊢
  cases hb with
  | ends hj he hs hst hend' =>
    obtain ⟨rfl, rfl⟩ := Prod.mk.inj (List.singleton_inj.1 (List.append_cancel_left (hend.symm.trans hend')))
    exact ⟨_, _, hj, hs ▸ he, hst⟩
  | opens _ _ _ _ hend' => exact absurd (hend'.symm.trans hend) hno
  | hoisted _ _ _ _ hend' => exact absurd (hend'.symm.trans hend) hno
  | clicked _ _ _ hend' => exact absurd (hend'.symm.trans hend) hno
  | stays _ _ hend' => exact absurd (hend'.symm.trans hend) hno

/-- A call ends at most when something happens. -/
theorem exists_ended (h : History) (x : Happening) : ∃ more, (h.happen x).course.ended = h.course.ended ++ more := by
  cases h.becomes x with
  | ends _ _ _ _ hend => exact ⟨_, hend⟩
  | opens _ _ _ _ hend => exact ⟨[], hend.trans (List.append_nil _).symm⟩
  | hoisted _ _ _ _ hend => exact ⟨[], hend.trans (List.append_nil _).symm⟩
  | clicked _ _ _ hend => exact ⟨[], hend.trans (List.append_nil _).symm⟩
  | stays _ _ hend => exact ⟨[], hend.trans (List.append_nil _).symm⟩

/-- The call that ends with what came of a selection when something happens, if one does. -/
def shown? (h : History) (x : Happening) : Option (Nat × DeckResult) :=
  match (h.happen x).course.ended.drop h.course.ended.length with
  | [(call, .ok (.shown r))] => some (call, r)
  | _ => none

theorem ended_of_shown? {h : History} {x : Happening} {call : Nat} {r : DeckResult} (hs : h.shown? x = some (call, r)) :
    (h.happen x).course.ended = h.course.ended ++ [(call, .ok (.shown r))] := by
  obtain ⟨more, hmore⟩ := h.exists_ended x
  rw [shown?, hmore, List.drop_left] at hs
  rw [hmore]
  split at hs
  · obtain ⟨rfl, rfl⟩ := Prod.mk.inj (Option.some.inj hs)
    rfl
  · cases hs

end History

/-! ## Selections -/

/-- A click leaves the newest selection as it is. -/
theorem Session.click_sameDeck (i : Nat) (s : Session) : s.SameDeck (s.click i) := by
  rw [click]
  split
  · exact ⟨rfl, rfl⟩
  · split <;> exact ⟨rfl, rfl⟩

/-- What is done from outside leaves the calls of a session as they are: what is gathered, the loads under way and the newest selection. -/
structure SessionDesk.SameCalls (d d' : SessionDesk) : Prop where
  gathering : d'.gathering = d.gathering
  loads : d'.cache.loads = d.cache.loads
  calls : d'.calls = d.calls
  ended : d'.ended = d.ended
  rootModels : d'.rootModels = d.rootModels
  same : d.session.SameDeck d'.session

theorem Intervention.sameCalls (intervention : Intervention) (d : SessionDesk) : d.SameCalls (intervention.apply d) := by
  cases intervention with
  | click i => exact ⟨rfl, rfl, rfl, rfl, rfl, Session.click_sameDeck i d.session⟩
  | clearCache => exact ⟨rfl, rfl, rfl, rfl, rfl, rfl, rfl⟩
  | hoist librariesOnly fragment => exact ⟨rfl, rfl, rfl, rfl, rfl, rfl, rfl⟩

/-- What is done from outside stores nothing. -/
theorem Intervention.stored_subset (intervention : Intervention) (d : SessionDesk) :
    (intervention.apply d).cache.stored ⊆ d.cache.stored := by
  cases intervention with
  | click i => exact List.Subset.refl _
  | clearCache => exact List.nil_subset _
  | hoist librariesOnly fragment => exact List.Subset.refl _

namespace SessionDesk.SameCalls

variable {d d' : SessionDesk}

theorem holds (h : d.SameCalls d') (θ : Thread) : d'.holds θ = d.holds θ := by
  simp only [SessionDesk.holds, Cache.holds, Cache.total, h.gathering, h.loads, h.ended]

theorem owes (h : d.SameCalls d') (θ : Thread) : d'.owes θ = d.owes θ := by
  simp only [SessionDesk.owes, Cache.owes, Cache.total, h.gathering, h.loads, h.calls]

end SessionDesk.SameCalls

/-- The numbers of selections are their places whatever is done from outside. -/
theorem Course.Orderly.outside {c : Course} (h : c.Orderly) {f : SessionDesk → SessionDesk}
    (hf : c.agenda.state.SameCalls (f c.agenda.state)) :
    ({ c with agenda := c.agenda.change f } : Course).Orderly where
  balanced := by
    refine ⟨?_, fun θ => ?_⟩
    · have hd := h.balanced.distinct
      simp only [Cache.Distinct, Cache.keys] at hd ⊢
      show ((f c.agenda.state).cache.loads.map _).Nodup
      rw [hf.loads]
      exact hd
    · have ht := h.balanced.threads θ
      simp only [Measure.of, SessionDesk.threads, Agenda.change, hf.holds, hf.owes] at ht ⊢
      exact ht
  token := hf.same.token.trans h.token
  onDesk := by
    refine ⟨fun g hg => h.onDesk.gathering g (hf.gathering ▸ hg), fun l hl => h.onDesk.waiting l (hf.loads ▸ hl)⟩
  ready := h.ready
  once k := by
    have ho := h.once k
    simp only [Measure.of, SessionDesk.beginnings, Agenda.change, hf.calls] at ho ⊢
    exact ho

/-- The numbers of selections are their places whatever happens. -/
theorem Course.Orderly.happen {h : History} (ho : h.course.Orderly) (x : Happening) : (h.happen x).course.Orderly := by
  cases x with
  | event event => exact ho.step event
  | outside intervention => exact ho.outside (intervention.sameCalls h.desk)

namespace History

/-- The numbers of selections are their places in every history. -/
theorem orderly (mode : RenderMode) (rootModels : Json) (xs : List Happening) :
    ((fresh mode rootModels).through xs).course.Orderly :=
  through_induction (P := fun h => h.course.Orderly) (Course.fresh_orderly mode rootModels) (fun _ x ho => ho.happen x) xs

end History

end Flashcards

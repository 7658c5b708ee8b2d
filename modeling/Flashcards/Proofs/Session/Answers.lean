import Mathlib.Data.List.Nodup
import Flashcards.Proofs.Session.History
import Flashcards.Proofs.Session.Sourced

/-!
# Where notes and models come from

In every history, what is on its way comes from an answer that has been given (`History.Traced`): the notes of a deck from the answer to
the fetch that its call has made of them, and what is stored for a path, or told to those who wait for it, from the answer to a fetch of
that path. So a call that renders a deck has the notes that it has fetched itself, and models that have been fetched at the path of the
deck's models (`SessionDesk.DeckReady.traced`).
-/

namespace Flashcards

namespace Answers

variable {answers answers' : Answers}

/-- The notes of a call are those in a text that the call has fetched at the path of its deck's notes. -/
def Notes (answers : Answers) (call : Nat) (node : DeckNode) (notes : List Note) : Prop :=
  ∃ text, (Fetch.notes call node.notesHtmlPath, .ok text) ∈ answers ∧ readNotes text = .ok notes

/-- A value is that of a text that has been fetched at a path. -/
def Holds (answers : Answers) (path data : Json) : Prop :=
  ∃ (p : Json) (text : Text), p.key = path.key ∧ (Fetch.resource p, .ok text) ∈ answers ∧ Json.read text = .ok data

theorem Notes.mono (hsub : answers ⊆ answers') {call : Nat} {node : DeckNode} {notes : List Note} (h : answers.Notes call node notes) :
    answers'.Notes call node notes := by
  obtain ⟨text, hm, hr⟩ := h
  exact ⟨text, hsub hm, hr⟩

theorem Holds.mono (hsub : answers ⊆ answers') {path data : Json} (h : answers.Holds path data) : answers'.Holds path data := by
  obtain ⟨p, text, hkey, hm, hr⟩ := h
  exact ⟨p, text, hkey, hsub hm, hr⟩

/-- Paths that are the same key hold the same. -/
theorem Holds.congr {path path' data : Json} (h : answers.Holds path data) (hkey : path.key = path'.key) : answers.Holds path' data := by
  obtain ⟨p, text, hp, hm, hr⟩ := h
  exact ⟨p, text, hp.trans hkey, hm, hr⟩

/-- What the answer to a fetch comes to is held. -/
theorem holds_of_outcomeOf {path data : Json} {answer : Answer} (hm : (Fetch.resource path, answer) ∈ answers)
    (h : Cache.outcomeOf path answer = .ok data) : answers.Holds path data := by
  cases answer with
  | error failure => cases h
  | ok text =>
    simp only [Cache.outcomeOf] at h
    cases hread : Json.read text with
    | error fault => rw [hread] at h; cases h
    | ok v =>
      rw [hread] at h
      obtain rfl := Except.ok.inj h
      exact ⟨path, text, rfl, hm, hread⟩

end Answers

/-- One who waits for the models of a deck waits at their path, with notes that its call has fetched. -/
def Waiter.Traced (answers : Answers) (path : Json) : Waiter → Prop
  | .deckModels selection notes =>
    answers.Notes selection.call selection.node notes ∧ selection.node.modelsPath.isBlank = false ∧
      selection.node.modelsPath.key = path.key
  | .rootModels _ | .deckData _ => True

/-- What a job brings for a deck has been answered to its call, or for the path of the deck's models. -/
def CallJob.Traced (started : List (Nat × DeckNode)) (answers : Answers) : CallJob → Prop
  | .askNotes call path => ∃ node, (call, node) ∈ started ∧ path = node.notesHtmlPath
  | .notesArrived call answer => ∃ node, (call, node) ∈ started ∧ (Fetch.notes call node.notesHtmlPath, answer) ∈ answers
  | .gathered selection _ answer => (Fetch.notes selection.call selection.node.notesHtmlPath, answer) ∈ answers
  | .chore (.wake (.deckModels selection notes) outcome) =>
    answers.Notes selection.call selection.node notes ∧ selection.node.modelsPath.isBlank = false ∧
      ∀ data, outcome = .ok data → answers.Holds selection.node.modelsPath data
  | _ => True

/-- A fetch of notes is that of the deck that its call has selected. -/
def Fetch.Traced (started : List (Nat × DeckNode)) : Fetch → Prop
  | .notes call path => ∃ node, (call, node) ∈ started ∧ path = node.notesHtmlPath
  | .resource _ => True

/-- Everything that is kept comes from an answer. -/
structure SessionDesk.Traced (answers : Answers) (d : SessionDesk) : Prop where
  gathering : ∀ g ∈ d.gathering, ∀ answer, g.notes = some answer →
    (Fetch.notes g.selection.call g.selection.node.notesHtmlPath, answer) ∈ answers
  waiters : ∀ l ∈ d.cache.loads, ∀ w ∈ l.waiters, w.Traced answers l.path
  outcome : ∀ l ∈ d.cache.loads, ∀ data, l.outcome = some (.ok data) → answers.Holds l.path data
  stored : ∀ e ∈ d.cache.stored, answers.Holds e.1 e.2

/-! ## More answers, more selections -/

section Mono

variable {answers answers' : Answers} {started : List (Nat × DeckNode)}

theorem Waiter.Traced.mono (hsub : answers ⊆ answers') {path : Json} {w : Waiter} (h : w.Traced answers path) :
    w.Traced answers' path := by
  cases w with
  | rootModels | deckData => trivial
  | deckModels selection notes => exact ⟨h.1.mono hsub, h.2⟩

/-- One who waits at a path waits at any that is the same key. -/
theorem Waiter.Traced.congr {path path' : Json} {w : Waiter} (h : w.Traced answers path) (hkey : path.key = path'.key) :
    w.Traced answers path' := by
  cases w with
  | rootModels | deckData => trivial
  | deckModels selection notes => exact ⟨h.1, h.2.1, h.2.2.trans hkey⟩

theorem CallJob.Traced.mono (hsub : answers ⊆ answers') (more : List (Nat × DeckNode)) {job : CallJob} (h : job.Traced started answers) :
    job.Traced (started ++ more) answers' := by
  unfold CallJob.Traced at h ⊢
  split at h
  · obtain ⟨node, hnode, rfl⟩ := h
    exact ⟨node, List.mem_append_left _ hnode, rfl⟩
  · obtain ⟨node, hnode, ha⟩ := h
    exact ⟨node, List.mem_append_left _ hnode, hsub ha⟩
  · exact hsub h
  · exact ⟨h.1.mono hsub, h.2.1, fun data hd => (h.2.2 data hd).mono hsub⟩
  · trivial

theorem Fetch.Traced.append (more : List (Nat × DeckNode)) {fetch : Fetch} (h : fetch.Traced started) :
    fetch.Traced (started ++ more) := by
  cases fetch with
  | resource => trivial
  | notes =>
    obtain ⟨node, hnode, rfl⟩ := h
    exact ⟨node, List.mem_append_left _ hnode, rfl⟩

theorem SessionDesk.Traced.mono (hsub : answers ⊆ answers') {d : SessionDesk} (h : d.Traced answers) : d.Traced answers' where
  gathering g hg answer ha := hsub (h.gathering g hg answer ha)
  waiters l hl w hw := (h.waiters l hl w hw).mono hsub
  outcome l hl data ho := (h.outcome l hl data ho).mono hsub
  stored e he := (h.stored e he).mono hsub

end Mono

namespace SessionDesk

variable {answers : Answers} {started : List (Nat × DeckNode)} {d : SessionDesk}

/-! ## What a job finds -/

/-- What is stored for a path has been fetched there. -/
theorem Traced.stored? (h : d.Traced answers) {path data : Json} (hs : d.cache.stored? path = some data) : answers.Holds path data := by
  obtain ⟨e, he, rfl⟩ := Option.map_eq_some_iff.1 hs
  have hkey : e.1.sameKey path = true := List.find?_some (p := fun e : Json × Json => e.1.sameKey path) he
  exact (h.stored e (List.mem_of_find?_eq_some he)).congr (Json.sameKey_iff.1 hkey)

/-- The notes that a call goes on with are those that it has been answered. -/
theorem notes_of_notesOf {selection : Selection} {data : Outcome} {answer : Answer} {notes : List Note}
    (hm : (Fetch.notes selection.call selection.node.notesHtmlPath, answer) ∈ answers) (h : notesOf data answer = .ok notes) :
    answers.Notes selection.call selection.node notes := by
  cases data with
  | error failure => cases h
  | ok data =>
    cases answer with
    | error failure => cases h
    | ok text => exact ⟨text, hm, h⟩

/-- Who asks for the models of a deck has the notes that its call has fetched. -/
theorem Asks.traced {job : CallJob} {waiter : Waiter} {path : Json} (h : Asks d job waiter path) (hj : job.Traced started answers) :
    waiter.Traced answers path := by
  cases h with
  | rootModels | deckData => trivial
  | deckModels hn hb => exact ⟨notes_of_notesOf hj hn, hb, rfl⟩

/-- Who is told of the models of a deck has the notes that its call has fetched; the models it is told have been fetched. -/
theorem Told.traced {job : CallJob} {selection : Selection} {notes : List Note} {outcome : Outcome}
    (h : Told d job (.deckModels selection notes) outcome) (hd : d.Traced answers) (hj : job.Traced started answers) :
    answers.Notes selection.call selection.node notes ∧
      ∀ data, outcome = .ok data → answers.Holds selection.node.modelsPath data := by
  cases h with
  | woken => exact ⟨hj.1, hj.2.2⟩
  | @atOnce _ _ path _ ha hnow =>
    have hwaiter := ha.traced hj
    refine ⟨hwaiter.1, ?_⟩
    rintro data rfl
    have hr := d.cache.asked (.deckModels selection notes) path
    generalize d.cache.ask (.deckModels selection notes) path = r at hr hnow
    have hkey : path.key = selection.node.modelsPath.key := hwaiter.2.2.symm
    cases hr with
    | blank hb =>
      cases ha with
      | deckModels _ hb' => rw [hb'] at hb; cases hb
    | notAKey => cases Reply.now.inj hnow
    | stored _ _ hs =>
      obtain rfl := Except.ok.inj (Reply.now.inj hnow)
      exact (hd.stored? hs).congr hkey
    | loaded _ _ _ hl ho =>
      obtain rfl := Reply.now.inj hnow
      exact (hd.outcome _ (Cache.load?_mem hl) data ho).congr ((Cache.load?_path hl).trans hkey)
    | begins | joins => cases hnow

/-- A deck that has all it needs has the notes that its call has fetched, and models that have been fetched at their path. -/
theorem DeckReady.traced {job : CallJob} {selection : Selection} {notes : List Note} {models : Option Json}
    (h : DeckReady d job selection notes models) (hd : d.Traced answers) (hj : job.Traced started answers) :
    answers.Notes selection.call selection.node notes ∧
      ∀ data, models = some data → answers.Holds selection.node.modelsPath data := by
  cases h with
  | noModels hn hb => exact ⟨notes_of_notesOf hj hn, fun data hd => (by cases hd)⟩
  | @models _ _ _ outcome found ht hf =>
    obtain ⟨hnotes, hholds⟩ := ht.traced hd hj
    refine ⟨hnotes, fun data hdata => hholds data ?_⟩
    rw [Optional.data?_of_ok hf] at hdata
    cases outcome with
    | ok v => exact congrArg Except.ok (Option.some.inj hdata)
    | error failure => cases hdata

/-! ## What jobs and answers leave -/

/-- Of the selections that have begun, one at most is that of a call. -/
theorem node_eq_of_nodup (hn : (started.map (·.1)).Nodup) {call : Nat} {node node' : DeckNode} (h : (call, node) ∈ started)
    (h' : (call, node') ∈ started) : node = node' :=
  (Prod.mk.inj (List.inj_on_of_nodup_map hn h h' rfl)).2

/-- What arrives for a gathering has been answered to its call. -/
theorem Brings.traced {job : CallJob} {call : Nat} {f : Gathering → Gathering} (hb : Brings job call f)
    (hn : (started.map (·.1)).Nodup) (hs : ∀ g ∈ d.gathering, (g.selection.call, g.selection.node) ∈ started)
    (hd : d.Traced answers) (hj : job.Traced started answers) :
    ∀ g ∈ arrived call f d.gathering, ∀ answer, g.notes = some answer →
      (Fetch.notes g.selection.call g.selection.node.notesHtmlPath, answer) ∈ answers := by
  intro g hg answer ha
  obtain ⟨g', hg', rfl⟩ := List.mem_map.1 hg
  by_cases hk : g'.selection.call = call
  · rw [if_pos hk] at ha ⊢
    cases hb with
    | data => exact hd.gathering g' hg' answer ha
    | notes =>
      obtain rfl := Option.some.inj ha
      obtain ⟨node, hnode, hm⟩ := hj
      have hsame := hs g' hg'
      rw [hk] at hsame
      rw [node_eq_of_nodup hn hnode hsame] at hm
      rwa [hk]
  · rw [if_neg hk] at ha ⊢
    exact hd.gathering g' hg' answer ha

/-- A deck that is opened has neither its data nor its notes. -/
theorem Traced.opens (h : d.Traced answers) (session : Session) (selection : Selection) :
    ({ d with session := session, gathering := d.gathering ++ [⟨selection, none, none⟩] } : SessionDesk).Traced answers := by
  refine ⟨?_, h.waiters, h.outcome, h.stored⟩
  intro g hg answer ha
  rcases List.mem_append.1 hg with hg | hg
  · exact h.gathering g hg answer ha
  · rw [List.mem_singleton.1 hg] at ha
    cases ha

/-- One who waits for a load that begins. -/
theorem Traced.begins (h : d.Traced answers) {waiter : Waiter} {path : Json} (hwaiter : waiter.Traced answers path) :
    ({ d with cache := { d.cache with loads := d.cache.loads ++ [⟨path, [waiter], none⟩] } } : SessionDesk).Traced answers := by
  refine ⟨h.gathering, ?_, ?_, h.stored⟩
  · intro l hl
    rcases List.mem_append.1 hl with hl | hl
    · exact h.waiters l hl
    · rw [List.mem_singleton.1 hl]
      exact List.forall_mem_singleton.2 hwaiter
  · intro l hl data hout
    rcases List.mem_append.1 hl with hl | hl
    · exact h.outcome l hl data hout
    · rw [List.mem_singleton.1 hl] at hout
      cases hout

/-- One who waits for a load that is under way. -/
theorem Traced.joins (h : d.Traced answers) {waiter : Waiter} {path : Json} (hwaiter : waiter.Traced answers path) :
    ({ d with cache := d.cache.addWaiter waiter path } : SessionDesk).Traced answers := by
  refine ⟨h.gathering, ?_, ?_, h.stored⟩
  · intro l hmem w hw
    obtain ⟨l', hl', rfl⟩ := List.mem_map.1 hmem
    by_cases hkey : l'.path.sameKey path = true
    · rw [if_pos hkey] at hw ⊢
      rcases List.mem_append.1 hw with hw | hw
      · exact h.waiters l' hl' w hw
      · rw [List.mem_singleton.1 hw]
        exact hwaiter.congr (Json.sameKey_iff.1 hkey).symm
    · rw [if_neg hkey] at hw ⊢
      exact h.waiters l' hl' w hw
  · intro l hmem
    obtain ⟨l', hl', rfl⟩ := List.mem_map.1 hmem
    split <;> exact h.outcome l' hl'

/-- A job that brings what has been answered leaves everything so. -/
theorem Traced.perform (h : d.Traced answers) (hn : (started.map (·.1)).Nodup)
    (hs : ∀ g ∈ d.gathering, (g.selection.call, g.selection.node) ∈ started) {job : CallJob} (hj : job.Traced started answers) :
    (SessionDesk.perform job d).state.Traced answers ∧
      (∀ job' ∈ (SessionDesk.perform job d).jobs, job'.Traced (started ++ (job.begins? d.session).toList) answers) ∧
      ∀ fetch ∈ (SessionDesk.perform job d).fetches, fetch.Traced (started ++ (job.begins? d.session).toList) := by
  have hmore : ∀ job' : CallJob, job'.Traced started answers → job'.Traced (started ++ (job.begins? d.session).toList) answers :=
    fun _ hj => hj.mono (List.Subset.refl _) _
  have hperf := d.performed job
  generalize SessionDesk.perform job d = t at hperf
  cases hperf with
  | ends =>
    exact ⟨⟨h.gathering, h.waiters, h.outcome, h.stored⟩, List.forall_mem_nil _, List.forall_mem_nil _⟩
  | @opens _ call node mode ho =>
    refine ⟨h.opens _ _, ?_, List.forall_mem_nil _⟩
    rw [ho.begins]
    simp only [List.forall_mem_cons, List.not_mem_nil, false_imp_iff, implies_true, and_true]
    exact ⟨trivial, node, List.mem_append_right _ List.mem_cons_self, rfl⟩
  | asks ha _ =>
    exact ⟨h.begins (ha.traced hj), List.forall_mem_singleton.2 trivial, List.forall_mem_nil _⟩
  | joins ha _ _ =>
    exact ⟨h.joins (ha.traced hj), List.forall_mem_nil _, List.forall_mem_nil _⟩
  | passes =>
    exact ⟨h, List.forall_mem_singleton.2 trivial, List.forall_mem_nil _⟩
  | sends =>
    exact ⟨h, List.forall_mem_nil _, List.forall_mem_singleton.2 (hmore _ hj)⟩
  | arrives hb _ =>
    exact ⟨⟨hb.traced hn hs h hj, h.waiters, h.outcome, h.stored⟩, List.forall_mem_nil _, List.forall_mem_nil _⟩
  | gathers hb hg =>
    have hall := hb.traced hn hs h hj
    refine ⟨⟨fun g hm => hall g (List.mem_filter.1 hm).1, h.waiters, h.outcome, h.stored⟩, fun job' hm => ?_,
      List.forall_mem_nil _⟩
    rw [List.mem_singleton.1 hm]
    exact hall _ (List.mem_of_find?_eq_some hg) _ rfl
  | loads =>
    exact ⟨⟨h.gathering, h.waiters, h.outcome, h.stored⟩, List.forall_mem_nil _, List.forall_mem_singleton.2 trivial⟩
  | forgets =>
    exact ⟨⟨h.gathering, fun l hl => h.waiters l (List.mem_filter.1 hl).1, fun l hl => h.outcome l (List.mem_filter.1 hl).1, h.stored⟩,
      List.forall_mem_nil _, List.forall_mem_nil _⟩

/-- An answer that has been given leaves everything so. -/
theorem Traced.receive (h : d.Traced answers) {fetch : Fetch} {answer : Answer} (hf : fetch.Traced started)
    (hm : (fetch, answer) ∈ answers) :
    (SessionDesk.receive fetch answer d).state.Traced answers ∧ ∀ job' ∈ (SessionDesk.receive fetch answer d).jobs, job'.Traced started answers := by
  cases fetch with
  | notes call path =>
    obtain ⟨node, hnode, rfl⟩ := hf
    refine ⟨h, ?_⟩
    intro job' hmem
    rw [List.mem_singleton.1 hmem]
    exact ⟨node, hnode, hm⟩
  | resource path =>
    refine ⟨⟨h.gathering, ?_, ?_, ?_⟩, ?_⟩
    · intro l hl
      obtain ⟨l', hl', hpath, hw, -⟩ := Cache.mem_finish_loads hl
      rw [hpath, hw]
      exact h.waiters l' hl'
    · intro l hl data hout
      obtain ⟨l', hl', hpath, -, hcases⟩ := Cache.mem_finish_loads hl
      rw [hpath]
      rcases hcases with hsame | ⟨hkey, hnew⟩
      · exact h.outcome l' hl' data (hsame ▸ hout)
      · have hdata := Option.some.inj (hnew.symm.trans hout)
        exact (Answers.holds_of_outcomeOf hm hdata).congr hkey.symm
    · intro e he
      rcases Cache.mem_store he with he | ⟨hkey, hout⟩
      · exact h.stored e he
      · exact (Answers.holds_of_outcomeOf hm hout).congr hkey.symm
    · intro job' hmem
      obtain ⟨chore, hchore, rfl⟩ := List.mem_map.1 hmem
      rcases Cache.mem_finish_chores hchore with rfl | ⟨l, hl, hkey, w, hw, rfl⟩
      · trivial
      · have hwaiter := h.waiters l hl w hw
        cases w with
        | rootModels | deckData => trivial
        | deckModels =>
          refine ⟨hwaiter.1, hwaiter.2.1, fun data hout => ?_⟩
          exact (Answers.holds_of_outcomeOf hm hout).congr (hkey.symm.trans hwaiter.2.2.symm)

end SessionDesk

/-! ## Histories -/

namespace History

/-- Everything that is on its way comes from an answer that has been given. -/
structure Traced (h : History) : Prop where
  desk : h.desk.Traced h.answers
  ready : ∀ job ∈ h.course.agenda.ready, job.Traced h.course.started h.answers
  out : ∀ fetch ∈ h.course.agenda.out, fetch.Traced h.course.started

variable {h : History}

theorem fresh_traced (mode : RenderMode) (rootModels : Json) : (fresh mode rootModels).Traced := by
  refine ⟨⟨?_, ?_, ?_, ?_⟩, ?_, ?_⟩ <;> exact fun _ hm => (by cases hm)

theorem Traced.run (ht : h.Traced) (ho : h.course.Orderly) (i : Nat) : (h.happen (.event (.run i))).Traced := by
  cases hj : h.course.agenda.ready[i]? with
  | none => rwa [happen_run_of_none hj]
  | some job =>
    have hbegun : ∀ g ∈ h.desk.gathering, (g.selection.call, g.selection.node) ∈ h.course.started := by
      intro g hg
      obtain ⟨n, -, hn⟩ := ho.onDesk.gathering g hg
      exact List.mem_of_getElem? hn
    obtain ⟨hd, hjobs, hfetches⟩ := ht.desk.perform ho.nodup hbegun (ht.ready job (List.mem_of_getElem? hj))
    rw [happen_run hj]
    refine ⟨hd, ?_, ?_⟩
    · refine Agenda.forall_mem_eraseIdx_append (fun job' hm => ?_) hjobs i
      exact (ht.ready job' hm).mono (List.Subset.refl _) _
    · exact List.forall_mem_append.2 ⟨fun fetch hm => (ht.out fetch hm).append _, hfetches⟩

theorem Traced.answer (ht : h.Traced) (i : Nat) (answer : Answer) : (h.happen (.event (.answer i answer))).Traced := by
  cases hf : h.course.agenda.out[i]? with
  | none => rwa [happen_answer_of_none answer hf]
  | some fetch =>
    have hsub : h.answers ⊆ h.answers ++ [(fetch, answer)] := List.subset_append_left _ _
    obtain ⟨hd, hjobs⟩ := (ht.desk.mono hsub).receive (ht.out fetch (List.mem_of_getElem? hf))
      (List.mem_append_right h.answers (List.mem_singleton.2 rfl))
    have hnone : (SessionDesk.receive fetch answer h.desk).fetches = [] := by cases fetch <;> rfl
    rw [happen_answer answer hf]
    refine ⟨hd, ?_, ?_⟩
    · refine List.forall_mem_append.2 ⟨fun job' hm => ?_, hjobs⟩
      have hmore := (ht.ready job' hm).mono hsub []
      rwa [List.append_nil] at hmore
    · refine Agenda.forall_mem_eraseIdx_append ht.out (fun fetch' hm => ?_) i
      rw [hnone] at hm
      cases hm

theorem Traced.happen (ht : h.Traced) (ho : h.course.Orderly) (x : Happening) : (h.happen x).Traced := by
  cases x with
  | event event =>
    cases event with
    | run i => exact ht.run ho i
    | answer i answer => exact ht.answer i answer
    | call request =>
      rw [happen_call]
      refine ⟨⟨ht.desk.gathering, ht.desk.waiters, ht.desk.outcome, ht.desk.stored⟩, ?_, ht.out⟩
      refine List.forall_mem_append.2 ⟨ht.ready, fun job hm => ?_⟩
      rw [List.mem_singleton.1 hm]
      trivial
  | outside intervention =>
    refine ⟨?_, ht.ready, ht.out⟩
    have hsame := intervention.sameCalls h.desk
    refine ⟨fun g hg => ht.desk.gathering g (hsame.gathering ▸ hg), fun l hl => ht.desk.waiters l (hsame.loads ▸ hl),
      fun l hl => ht.desk.outcome l (hsame.loads ▸ hl), fun e he => ht.desk.stored e (intervention.stored_subset h.desk he)⟩

/-- In every history, everything that is on its way comes from an answer that has been given. -/
theorem traced (mode : RenderMode) (rootModels : Json) (xs : List Happening) : ((fresh mode rootModels).through xs).Traced := by
  have hboth := through_induction (P := fun h => h.course.Orderly ∧ h.Traced)
    ⟨Course.fresh_orderly mode rootModels, fresh_traced mode rootModels⟩ (fun h x ⟨ho, ht⟩ => ⟨ho.happen x, ht.happen ho x⟩) xs
  exact hboth.2

end History

end Flashcards

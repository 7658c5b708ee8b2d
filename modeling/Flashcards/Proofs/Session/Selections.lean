import Flashcards.Proofs.Session.Showing
import Flashcards.Proofs.Session.Threads

/-!
# Selections on their way

A selection of a deck is on its way in what is being gathered, with someone who waits for the deck's models, or in a job. A job hands
selections on as they are, and only a job that begins a call begins one (`SessionDesk.selections_perform`,
`SessionDesk.perform_beginning`). The end of a call happens aside, unless it is the end of the newest selection
(`SessionDesk.Ending.effect`).
-/

namespace Flashcards

/-- The selection that one who waits is to bring to its end. -/
def Waiter.selection? : Waiter → Option Selection
  | .deckModels selection _ => some selection
  | .rootModels _ | .deckData _ => none

/-- The selection that a job is to bring to its end. -/
def CallJob.selection? : CallJob → Option Selection
  | .gathered selection _ _ => some selection
  | .chore (.wake waiter _) => waiter.selection?
  | _ => none

/-- Whether a job begins a call, as a number. -/
def CallJob.beginning (k : Nat) : CallJob → Nat
  | .begin call _ => if call = k then 1 else 0
  | _ => 0

/-- A selection has the number of its place among those that have begun. -/
def Selection.BegunIn (started : List (Nat × DeckNode)) (selection : Selection) : Prop :=
  ∃ n, selection.token = n + 1 ∧ started[n]? = some (selection.call, selection.node)

theorem Selection.BegunIn.append {started : List (Nat × DeckNode)} {selection : Selection} (h : selection.BegunIn started)
    (more : List (Nat × DeckNode)) : selection.BegunIn (started ++ more) := by
  obtain ⟨n, hn, hs⟩ := h
  refine ⟨n, hn, ?_⟩
  rw [List.getElem?_append_left (List.getElem?_eq_some_iff.1 hs).1]
  exact hs

namespace SessionDesk

variable {d : SessionDesk} {P : Selection → Prop}

/-- Every selection that is gathering or waits at the cache is of a kind. -/
structure Selections (P : Selection → Prop) (d : SessionDesk) : Prop where
  gathering : ∀ g ∈ d.gathering, P g.selection
  waiting : ∀ l ∈ d.cache.loads, ∀ w ∈ l.waiters, ∀ selection, w.selection? = some selection → P selection

theorem Asks.selection {job : CallJob} {waiter : Waiter} {path : Json} (h : Asks d job waiter path) {selection : Selection}
    (hs : waiter.selection? = some selection) : job.selection? = some selection := by
  cases h with
  | rootModels | deckData => nomatch hs
  | deckModels => exact hs

/-- Changes of gatherings that keep the selections. -/
theorem selections_arrived {job : CallJob} {call : Nat} {f : Gathering → Gathering} (hb : Brings job call f)
    (h : ∀ g ∈ d.gathering, P g.selection) : ∀ g ∈ arrived call f d.gathering, P g.selection := by
  have hf : ∀ g : Gathering, (f g).selection = g.selection := by cases hb <;> exact fun _ => rfl
  intro g hg
  obtain ⟨g', hg', rfl⟩ := List.mem_map.1 hg
  split
  · rw [hf]
    exact h g' hg'
  · exact h g' hg'

/-- Those who wait for a load are still of a kind when one of that kind joins them. -/
theorem waiting_addWaiter {W : Waiter → Prop} {c : Cache Waiter} {waiter : Waiter} (path : Json)
    (h : ∀ l ∈ c.loads, ∀ w ∈ l.waiters, W w) (hw : W waiter) : ∀ l ∈ (c.addWaiter waiter path).loads, ∀ w ∈ l.waiters, W w := by
  intro l hl w hmem
  obtain ⟨l', hl', rfl⟩ := List.mem_map.1 hl
  split at hmem
  · rcases List.mem_append.1 hmem with hmem | hmem
    · exact h l' hl' w hmem
    · rw [List.mem_singleton] at hmem
      exact hmem ▸ hw
  · exact h l' hl' w hmem

/-- A job leaves only selections of a kind, if there are no others before it, and it begins no other. -/
theorem selections_perform (h : d.Selections P) (job : CallJob) (hj : ∀ selection, job.selection? = some selection → P selection)
    (hnew : ∀ call node, job.begins? d.session = some (call, node) → P ⟨call, node, d.session.token + 1⟩) :
    (perform job d).state.Selections P ∧
      ∀ job' ∈ (perform job d).jobs, ∀ selection, job'.selection? = some selection → P selection := by
  have hp := d.performed job
  generalize perform job d = t at hp
  cases hp with
  | ends => exact ⟨⟨h.gathering, h.waiting⟩, by simp [Turn.rest]⟩
  | opens ho =>
    refine ⟨⟨fun g hg => ?_, h.waiting⟩, by simp [CallJob.selection?]⟩
    rcases List.mem_append.1 hg with hg | hg
    · exact h.gathering g hg
    · rw [List.mem_singleton] at hg
      exact hg ▸ hnew _ _ ho.begins
  | asks ha _ =>
    refine ⟨⟨h.gathering, fun l hl w hw => ?_⟩, by simp [CallJob.selection?]⟩
    rcases List.mem_append.1 hl with hl | hl
    · exact h.waiting l hl w hw
    · rw [List.mem_singleton] at hl
      rw [hl, List.mem_singleton] at hw
      exact fun selection hs => hj selection (ha.selection (hw ▸ hs))
  | joins ha _ _ =>
    exact ⟨⟨h.gathering, waiting_addWaiter _ h.waiting fun selection hs => hj selection (ha.selection hs)⟩, by simp⟩
  | passes => exact ⟨h, by simp [CallJob.selection?]⟩
  | sends => exact ⟨h, by simp⟩
  | arrives hb _ => exact ⟨⟨selections_arrived hb h.gathering, h.waiting⟩, by simp [Turn.rest]⟩
  | gathers hb hg =>
    have hall := selections_arrived hb h.gathering
    refine ⟨⟨fun g hg' => hall g (List.mem_filter.1 hg').1, h.waiting⟩, ?_⟩
    simp only [List.mem_singleton, forall_eq, CallJob.selection?, Option.some.injEq]
    exact fun selection hs => hs ▸ hall _ (List.mem_of_find?_eq_some hg)
  | loads => exact ⟨⟨h.gathering, h.waiting⟩, by simp⟩
  | forgets => exact ⟨⟨h.gathering, fun l hl => h.waiting l (List.mem_filter.1 hl).1⟩, by simp [Turn.rest]⟩

/-- An answer leaves only selections of a kind, if there are no others before it. -/
theorem selections_receive (h : d.Selections P) (fetch : Fetch) (answer : Answer) :
    (receive fetch answer d).state.Selections P ∧
      ∀ job' ∈ (receive fetch answer d).jobs, ∀ selection, job'.selection? = some selection → P selection := by
  cases fetch with
  | notes => exact ⟨h, by simp [receive, CallJob.selection?]⟩
  | resource path =>
    refine ⟨⟨h.gathering, fun l hl => ?_⟩, fun job' hjob' => ?_⟩
    · obtain ⟨l', hl', -, hw, -⟩ := Cache.mem_finish_loads hl
      exact hw ▸ h.waiting l' hl'
    · obtain ⟨chore, hchore, rfl⟩ := List.mem_map.1 hjob'
      rcases Cache.mem_finish_chores hchore with rfl | ⟨l, hl, -, w, hw, rfl⟩
      · simp [CallJob.selection?]
      · exact h.waiting l hl w hw

/-! ## Beginnings -/

/-- A job that begins a selection begins its call. -/
theorem beginning_of_begins {s : Session} {job : CallJob} {call : Nat} {node : DeckNode} (h : job.begins? s = some (call, node)) :
    job.beginning call = 1 ∧ job.thread = .call call := by
  cases job with
  | begin call' request =>
    cases request with
    | loadRootModels => cases h
    | select node' =>
      obtain ⟨rfl, -⟩ := Prod.mk.inj (Option.some.inj h)
      exact ⟨if_pos rfl, rfl⟩
    | setMode value =>
      simp only [CallJob.begins?] at h
      split at h
      · obtain ⟨node', -, hn⟩ := Option.map_eq_some_iff.1 h
        obtain ⟨rfl, -⟩ := Prod.mk.inj hn
        exact ⟨if_pos rfl, rfl⟩
      · cases h
  | _ => cases h

/-- No job that follows from another begins a call. -/
theorem perform_beginning (job : CallJob) (d : SessionDesk) (k : Nat) : ∀ job' ∈ (perform job d).jobs, job'.beginning k = 0 := by
  have hp := d.performed job
  generalize perform job d = t at hp
  cases hp <;> simp [Turn.rest, CallJob.beginning]

/-- No job that follows from an answer begins a call. -/
theorem receive_beginning (fetch : Fetch) (answer : Answer) (d : SessionDesk) (k : Nat) :
    ∀ job' ∈ (receive fetch answer d).jobs, job'.beginning k = 0 := by
  cases fetch with
  | notes => simp [receive, CallJob.beginning]
  | resource path =>
    intro job' h
    obtain ⟨chore, -, rfl⟩ := List.mem_map.1 h
    rfl

/-- How many jobs begin a call. -/
def beginnings (k : Nat) : Measure SessionDesk CallJob Fetch := ⟨fun _ => 0, CallJob.beginning k, fun _ => 0⟩

/-! ## Endings -/

theorem Told.selection {job : CallJob} {selection : Selection} {notes : List Note} {outcome : Outcome}
    (h : Told d job (.deckModels selection notes) outcome) : job.selection? = some selection := by
  cases h with
  | woken => rfl
  | atOnce ha _ => exact ha.selection rfl

theorem DeckReady.selection {job : CallJob} {selection : Selection} {notes : List Note} {models : Option Json}
    (h : DeckReady d job selection notes models) : job.selection? = some selection := by
  cases h with
  | noModels => rfl
  | models ht _ => exact ht.selection

/-- The session that the end of a call leaves has the same newest selection, and the same deck. -/
theorem Ending.sameDeck {job : CallJob} {call : Nat} {session : Session} {result : Except Failure CallResult}
    (h : Ending d job call session result) : d.session.SameDeck session := by
  cases h with
  | badMode | noDeck | noRootModels | noDeckModels => exact ⟨rfl, rfl⟩
  | rootModels => exact (Session.takeRootModels_aside _ _).same
  | failed => exact Session.fail_sameDeck _ _ _
  | shown => exact Session.showDeck_sameDeck _ _ _ _

/-- A result that something has been made of has been there. -/
theorem ok_of_map {α β : Type} {f : α → β} {e : Except Failure α} {y : β} (h : e.map f = .ok y) : ∃ x, e = .ok x ∧ f x = y := by
  cases e with
  | error failure => nomatch h
  | ok x => exact ⟨x, rfl, Except.ok.inj h⟩

/-- The end of a call happens aside, or it is the end of the newest selection; then the page keeps its title and shows what the selection
came to. What has been overtaken says so. -/
theorem Ending.effect {job : CallJob} {call : Nat} {session : Session} {result : Except Failure CallResult}
    (h : Ending d job call session result) {l : Layout} (hl : d.session.page.LaidOut l) :
    (d.session.Aside session ∧ ∀ r, result = .ok (.shown r) → r.status = .superseded ∧
        ∃ selection, job.selection? = some selection ∧ selection.call = call ∧ d.session.isNewest selection = false) ∨
      ∃ selection, job.selection? = some selection ∧ selection.call = call ∧ d.session.isNewest selection = true ∧
        session.Titled l.deck l.mode ∧ ∀ r, result = .ok (.shown r) → r.deck = selection.node ∧ session.Shows r := by
  cases h with
  | badMode | noRootModels | noDeckModels => exact Or.inl ⟨Session.Aside.refl _, fun r hr => nomatch hr⟩
  | noDeck => exact Or.inl ⟨Session.Aside.of_eq rfl rfl ⟨rfl, rfl⟩, fun r hr => nomatch hr⟩
  | rootModels =>
    refine Or.inl ⟨Session.takeRootModels_aside _ _, fun r hr => ?_⟩
    obtain ⟨found, -, hf⟩ := ok_of_map hr
    nomatch hf
  | failed =>
    rename_i selection data answer failure hn
    cases hnew : d.session.isNewest selection with
    | false =>
      rw [Session.fail_of_overtaken hnew]
      refine Or.inl ⟨Session.Aside.refl _, fun r hr => ?_⟩
      obtain rfl := CallResult.shown.inj (Except.ok.inj hr)
      exact ⟨rfl, selection, rfl, rfl, hnew⟩
    | true =>
      obtain ⟨hres, ht, hs⟩ := Session.fail_of_newest hl hnew failure
      refine Or.inr ⟨selection, rfl, rfl, hnew, ht, fun r hr => ?_⟩
      obtain rfl := CallResult.shown.inj (Except.ok.inj hr)
      exact ⟨by rw [hres], hs⟩
  | shown hr =>
    rename_i selection notes models
    cases hnew : d.session.isNewest selection with
    | false =>
      obtain ⟨ha, hs⟩ := Session.showDeck_of_overtaken hnew notes models
      refine Or.inl ⟨ha, fun r hres => ?_⟩
      obtain ⟨r', hr', hf⟩ := ok_of_map hres
      obtain rfl := CallResult.shown.inj hf
      exact ⟨by rw [hs r' hr']; rfl, selection, hr.selection, rfl, hnew⟩
    | true =>
      obtain ⟨ht, hs⟩ := Session.showDeck_of_newest hl hnew notes models
      refine Or.inr ⟨selection, hr.selection, rfl, hnew, ht, fun r hres => ?_⟩
      obtain ⟨r', hr', hf⟩ := ok_of_map hres
      obtain rfl := CallResult.shown.inj hf
      exact hs r' hr'

end SessionDesk

end Flashcards

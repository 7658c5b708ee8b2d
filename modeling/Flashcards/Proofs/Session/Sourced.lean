import Flashcards.Proofs.Session.Requests

/-!
# Sessions with fixed contents

What the fetches of a session bring may be fixed: each path holds a text, or there is a reason why it holds none (`Contents`). Then
everything that is on its way is what the contents say (`SessionDesk.Sourced`): what has been stored for a path, what those who wait for
it are told, and the notes of a deck. So a deck that has all it needs has the notes and the models that the contents have for it
(`SessionDesk.DeckReady.sourced`), whatever has been selected before.

Paths that are the same key hold the same.
-/

namespace Flashcards

/-- What each path holds: a text, or why there is none. -/
abbrev Contents := Json.Key → Except FetchError Text

namespace Contents

variable (contents : Contents)

/-- The answer to a fetch of a path. -/
def answer (path : Json) : Answer := (contents path.key).mapError .fetch

/-- The resource at a path, if there is one. -/
def value? (path : Json) : Option Json := (Cache.outcomeOf path (contents.answer path)).toOption

/-- The notes of a deck; none if there are none that can be read. -/
def notes (node : DeckNode) : List Note := (contents.answer (.text node.notesHtmlPath) >>= readNotes).toOption.getD []

/-- The models of a deck, if it has any. -/
def models? (node : DeckNode) : Option Json := if node.modelsPath.isBlank then none else contents.value? node.modelsPath

variable {contents}

theorem tame_answer (path : Json) : Tame (contents.answer path) := by
  rw [answer]
  cases contents path.key with
  | error e => exact fun failure hf => ⟨e, (Except.error.inj hf).symm⟩
  | ok t => exact tame_ok t

/-- What a text comes to as a value does not depend on the path. -/
theorem toOption_outcomeOf (path q : Json) (a : Answer) : (Cache.outcomeOf path a).toOption = (Cache.outcomeOf q a).toOption := by
  cases a with
  | error failure => rfl
  | ok t =>
    simp only [Cache.outcomeOf]
    cases Json.read t <;> rfl

theorem value?_congr {path q : Json} (h : path.key = q.key) : contents.value? path = contents.value? q := by
  rw [value?, value?, answer, answer, h]
  exact toOption_outcomeOf path q _

/-- The notes of a deck that can be read. -/
theorem notes_of_ok {node : DeckNode} {data : Outcome} {notes : List Note}
    (h : SessionDesk.notesOf data (contents.answer (.text node.notesHtmlPath)) = .ok notes) : notes = contents.notes node := by
  rw [Contents.notes]
  generalize contents.answer (.text node.notesHtmlPath) = a at h ⊢
  cases data with
  | error failure => nomatch h
  | ok data =>
    change (a >>= readNotes) = .ok notes at h
    rw [h]
    rfl

end Contents

/-- A resource that is found is the value of the outcome. -/
theorem Optional.data?_of_ok {outcome : Outcome} {found : Optional} (h : Optional.ofOutcome outcome = .ok found) :
    found.data? = outcome.toOption := by
  cases outcome with
  | ok data => exact Except.ok.inj h ▸ rfl
  | error failure =>
    rw [Optional.ofOutcome] at h
    split at h
    · exact Except.ok.inj h ▸ rfl
    · nomatch h

/-- One who waits for the models of a deck waits at their path, with the notes of the deck. -/
def Waiter.From (contents : Contents) (path : Json) : Waiter → Prop
  | .deckModels selection notes =>
    notes = contents.notes selection.node ∧ selection.node.modelsPath.isBlank = false ∧ selection.node.modelsPath.key = path.key
  | .rootModels _ | .deckData _ => True

/-- What a job brings for a deck is what the contents have for it. -/
def CallJob.From (contents : Contents) (requests : List Request) : CallJob → Prop
  | .askNotes k path => ∃ node, requests[k]? = some (.select node) ∧ path = node.notesHtmlPath
  | .notesArrived k a => ∃ node, requests[k]? = some (.select node) ∧ a = contents.answer (.text node.notesHtmlPath)
  | .gathered selection _ a => a = contents.answer (.text selection.node.notesHtmlPath)
  | .chore (.wake (.deckModels selection notes) outcome) =>
    notes = contents.notes selection.node ∧ selection.node.modelsPath.isBlank = false ∧
      outcome.toOption = contents.value? selection.node.modelsPath
  | _ => True

/-- A fetch of notes is that of the deck of its call. -/
def Fetch.From (requests : List Request) : Fetch → Prop
  | .notes k path => ∃ node, requests[k]? = some (.select node) ∧ path = node.notesHtmlPath
  | .resource _ => True

/-- Each request selects a deck or loads the models that all decks share. -/
def OnlyDecks (requests : List Request) : Prop := ∀ (k : Nat) (value : Json), requests[k]? ≠ some (.setMode value)

/-- Where no request changes the mode, the request of a selection is that of its deck. -/
theorem Selection.For.select {requests : List Request} (ho : OnlyDecks requests) {selection : Selection} (h : selection.For requests) :
    requests[selection.call]? = some (.select selection.node) :=
  h.resolve_right fun ⟨value, hv⟩ => ho _ value hv

/-- Everything is what the contents say. -/
structure SessionDesk.Sourced (contents : Contents) (d : SessionDesk) : Prop where
  gathering : ∀ g ∈ d.gathering, ∀ a, g.notes = some a → a = contents.answer (.text g.selection.node.notesHtmlPath)
  waiters : ∀ l ∈ d.cache.loads, ∀ w ∈ l.waiters, w.From contents l.path
  outcome : ∀ l ∈ d.cache.loads, ∀ outcome, l.outcome = some outcome → outcome.toOption = contents.value? l.path
  stored : ∀ e ∈ d.cache.stored, contents.value? e.1 = some e.2

namespace SessionDesk

variable {contents : Contents} {d : SessionDesk} {requests : List Request}

/-- What is stored for a path is what it holds. -/
theorem Sourced.stored? (h : d.Sourced contents) {path data : Json} (hs : d.cache.stored? path = some data) :
    contents.value? path = some data := by
  obtain ⟨e, he, rfl⟩ := Option.map_eq_some_iff.1 hs
  rw [← h.stored e (List.mem_of_find?_eq_some he)]
  exact Contents.value?_congr (Json.sameKey_iff.1 (List.find?_some (p := fun e : Json × Json => e.1.sameKey path) he)).symm

/-- Who asks for the models of a deck has its notes. -/
theorem Asks.sourced {job : CallJob} {waiter : Waiter} {path : Json} (h : Asks d job waiter path) (hj : job.From contents requests) :
    waiter.From contents path := by
  cases h with
  | rootModels | deckData => trivial
  | deckModels hn hb => exact ⟨Contents.notes_of_ok ((show _ = _ from hj) ▸ hn), hb, rfl⟩

/-- Who is told of the models of a deck has its notes, and is told what the path of its models holds. -/
theorem Told.sourced {job : CallJob} {selection : Selection} {notes : List Note} {outcome : Outcome} {found : Optional}
    (h : Told d job (.deckModels selection notes) outcome) (hd : d.Sourced contents) (hj : job.From contents requests)
    (hf : Optional.ofOutcome outcome = .ok found) :
    notes = contents.notes selection.node ∧ selection.node.modelsPath.isBlank = false ∧
      found.data? = contents.value? selection.node.modelsPath := by
  rw [Optional.data?_of_ok hf]
  cases h with
  | woken => exact hj
  | @atOnce _ _ path _ ha hnow =>
    have hfrom := ha.sourced hj
    have hr := d.cache.asked (.deckModels selection notes) path
    cases ha with
    | deckModels hn hb =>
      refine ⟨hfrom.1, hb, ?_⟩
      generalize d.cache.ask (.deckModels selection notes) selection.node.modelsPath = r at hr hnow
      cases hr with
      | blank hb' => rw [hb] at hb'; nomatch hb'
      | notAKey =>
        obtain rfl := Reply.now.inj hnow
        nomatch hf
      | stored _ _ hs =>
        obtain rfl := Reply.now.inj hnow
        exact (hd.stored? hs).symm
      | loaded _ _ _ hl ho =>
        obtain rfl := Reply.now.inj hnow
        rw [hd.outcome _ (Cache.load?_mem hl) _ ho]
        exact Contents.value?_congr (Cache.load?_path hl)
      | begins | joins => nomatch hnow

/-- A deck that has all it needs has the notes and the models that the contents have for it. -/
theorem DeckReady.sourced {job : CallJob} {selection : Selection} {notes : List Note} {models : Option Json}
    (h : DeckReady d job selection notes models) (hd : d.Sourced contents) (hj : job.From contents requests) :
    notes = contents.notes selection.node ∧ models = contents.models? selection.node := by
  cases h with
  | noModels hn hb => exact ⟨Contents.notes_of_ok ((show _ = _ from hj) ▸ hn), by rw [Contents.models?, hb, if_pos rfl]⟩
  | models ht hf =>
    obtain ⟨hn, hb, hv⟩ := ht.sourced hd hj hf
    exact ⟨hn, by rw [hv, Contents.models?, hb, if_neg Bool.false_ne_true]⟩

/-! ## What jobs and answers leave -/

theorem Opening.sourced {job : CallJob} {k : Nat} {node : DeckNode} {mode : RenderMode} (h : Opening d job k node mode)
    (ho : OnlyDecks requests) (hj : job.For requests) : requests[k]? = some (.select node) := by
  cases h with
  | select => exact hj
  | setMode => exact absurd hj (ho _ _)

/-- What arrives for a gathering is what the contents say. -/
theorem Brings.sourced {job : CallJob} {k : Nat} {f : Gathering → Gathering} (hb : Brings job k f) (ho : OnlyDecks requests)
    (hp : d.Proper requests) (hd : d.Sourced contents) (hj : job.From contents requests) :
    ∀ g ∈ arrived k f d.gathering, ∀ a, g.notes = some a → a = contents.answer (.text g.selection.node.notesHtmlPath) := by
  intro g hg a ha
  obtain ⟨g', hg', rfl⟩ := List.mem_map.1 hg
  split at ha
  · rename_i hk
    rw [if_pos hk]
    cases hb with
    | data => exact hd.gathering g' hg' a ha
    | notes =>
      obtain rfl := Option.some.inj ha
      obtain ⟨node, hnode, rfl⟩ := hj
      have hselect := (hp.gathering g' hg').selection.select ho
      rw [hk, hnode] at hselect
      obtain rfl := Request.select.inj (Option.some.inj hselect)
      rfl
  · rename_i hk
    rw [if_neg hk]
    exact hd.gathering g' hg' a ha

/-- A job that brings what the contents say leaves everything as they say. -/
theorem Sourced.perform (h : d.Sourced contents) (ho : OnlyDecks requests) (hp : d.Proper requests) {job : CallJob}
    (hfor : job.For requests) (hj : job.From contents requests) :
    (perform job d).state.Sourced contents ∧ (∀ job' ∈ (SessionDesk.perform job d).jobs, job'.From contents requests) ∧
      ∀ fetch ∈ (SessionDesk.perform job d).fetches, fetch.From requests := by
  have hperf := d.performed job
  generalize SessionDesk.perform job d = t at hperf
  cases hperf with
  | ends => exact ⟨⟨h.gathering, h.waiters, h.outcome, h.stored⟩, fun _ hm => (by cases hm), fun _ hm => by cases hm⟩
  | opens hop =>
    refine ⟨⟨fun g hg => ?_, h.waiters, h.outcome, h.stored⟩, ?_, fun _ hm => by cases hm⟩
    · rcases List.mem_append.1 hg with hg | hg
      · exact h.gathering g hg
      · rw [List.mem_singleton.1 hg]
        intro a ha
        cases ha
    · simp only [List.forall_mem_cons, List.not_mem_nil, false_imp_iff, implies_true, and_true]
      exact ⟨trivial, _, hop.sourced ho hfor, rfl⟩
  | asks ha _ =>
    refine ⟨⟨h.gathering, fun l hl => ?_, fun l hl => ?_, h.stored⟩, ?_, fun _ hm => by cases hm⟩
    · rcases List.mem_append.1 hl with hl | hl
      · exact h.waiters l hl
      · rw [List.mem_singleton.1 hl]
        exact fun w hw => List.mem_singleton.1 hw ▸ ha.sourced hj
    · rcases List.mem_append.1 hl with hl | hl
      · exact h.outcome l hl
      · rw [List.mem_singleton.1 hl]
        intro outcome ho
        cases ho
    · exact fun job' hm => List.mem_singleton.1 hm ▸ trivial
  | @joins _ waiter path load ha hl _ =>
    refine ⟨⟨h.gathering, fun l hmem w hw => ?_, fun l hmem => ?_, h.stored⟩, fun _ hm => (by cases hm), fun _ hm => by cases hm⟩
    · obtain ⟨l', hl', rfl⟩ := List.mem_map.1 hmem
      split at hw
      · rename_i hkey
        rw [if_pos hkey]
        rcases List.mem_append.1 hw with hw | hw
        · exact h.waiters l' hl' w hw
        · have hfrom := ha.sourced hj
          rw [List.mem_singleton.1 hw]
          cases waiter with
          | rootModels | deckData => trivial
          | deckModels => exact ⟨hfrom.1, hfrom.2.1, hfrom.2.2.trans (Json.sameKey_iff.1 hkey).symm⟩
      · rename_i hkey
        rw [if_neg hkey]
        exact h.waiters l' hl' w hw
    · obtain ⟨l', hl', rfl⟩ := List.mem_map.1 hmem
      split <;> exact h.outcome l' hl'
  | passes => exact ⟨h, fun job' hm => List.mem_singleton.1 hm ▸ trivial, fun _ hm => by cases hm⟩
  | sends => exact ⟨h, fun _ hm => (by cases hm), fun fetch hm => List.mem_singleton.1 hm ▸ hj⟩
  | arrives hb _ =>
    exact ⟨⟨hb.sourced ho hp h hj, h.waiters, h.outcome, h.stored⟩, fun _ hm => (by cases hm), fun _ hm => by cases hm⟩
  | gathers hb hg =>
    have hall := hb.sourced ho hp h hj
    refine ⟨⟨fun g hm => hall g (List.mem_filter.1 hm).1, h.waiters, h.outcome, h.stored⟩, fun job' hm => ?_, fun _ hm => by cases hm⟩
    exact List.mem_singleton.1 hm ▸ hall _ (List.mem_of_find?_eq_some hg) _ rfl
  | loads =>
    exact ⟨⟨h.gathering, h.waiters, h.outcome, h.stored⟩, fun _ hm => (by cases hm), fun fetch hm => List.mem_singleton.1 hm ▸ trivial⟩
  | forgets =>
    exact ⟨⟨h.gathering, fun l hl => h.waiters l (List.mem_filter.1 hl).1, fun l hl => h.outcome l (List.mem_filter.1 hl).1, h.stored⟩,
      fun _ hm => (by cases hm), fun _ hm => by cases hm⟩

/-- An answer that is what the contents say leaves everything as they say. -/
theorem Sourced.receive (h : d.Sourced contents) {fetch : Fetch} (hf : fetch.From requests) :
    (receive fetch (contents.answer fetch.path) d).state.Sourced contents ∧
      ∀ job' ∈ (SessionDesk.receive fetch (contents.answer fetch.path) d).jobs, job'.From contents requests := by
  cases fetch with
  | notes k path =>
    obtain ⟨node, hnode, rfl⟩ := hf
    exact ⟨h, fun job' hm => List.mem_singleton.1 hm ▸ ⟨node, hnode, rfl⟩⟩
  | resource path =>
    refine ⟨⟨h.gathering, fun l hl => ?_, fun l hl outcome ho => ?_, fun e he => ?_⟩, fun job' hm => ?_⟩
    · obtain ⟨l', hl', hpath, hw, -⟩ := Cache.mem_finish_loads hl
      rw [hpath, hw]
      exact h.waiters l' hl'
    · obtain ⟨l', hl', hpath, -, hout⟩ := Cache.mem_finish_loads hl
      rw [hpath]
      rcases hout with hout | ⟨hkey, hout⟩
      · exact h.outcome l' hl' outcome (hout ▸ ho)
      · rw [← Option.some.inj (hout.symm.trans ho)]
        exact Contents.value?_congr hkey.symm
    · rcases Cache.mem_store he with he | ⟨hkey, hout⟩
      · exact h.stored e he
      · rw [Contents.value?_congr hkey]
        exact congrArg Except.toOption hout
    · obtain ⟨chore, hchore, rfl⟩ := List.mem_map.1 hm
      rcases Cache.mem_finish_chores hchore with rfl | ⟨l, hl, hkey, w, hw, rfl⟩
      · trivial
      · have hfrom := h.waiters l hl w hw
        cases w with
        | rootModels | deckData => trivial
        | deckModels => exact ⟨hfrom.1, hfrom.2.1, Contents.value?_congr (hfrom.2.2.trans hkey).symm⟩

end SessionDesk

end Flashcards

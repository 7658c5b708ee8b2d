import Flashcards.Proofs.Session.Escapes

/-!
# What the selection of a deck comes to

Where each path has one answer for every fetch (`Source`), and no other call is under way, what the selection of a deck comes to is told by
an `Errand`: the selection, what is stored when its call is made, and the source. From these follow the notes of the deck and its models
(`Errand.notes`, `Errand.models`), and with them what becomes of the session (`Session.deliver`).

Everything that is on its way for the call belongs to the errand (`Errand.Covers`, `Errand.Includes`, `Errand.Sends`). A job that belongs to it
leaves only what does (`Errand.Covers.perform`), and so does an answer (`Errand.Covers.receive`); the job that ends the call ends it as
the errand says (`Errand.Includes.ending`).

Two paths may be the same key, but two that one call waits for are then the same path: one of them is a text.
-/

namespace Flashcards

open SessionDesk

/-- What a fetch of each path ends with. -/
abbrev Source := Json → Answer

/-! ## What a call fetches -/

namespace Cache

/-- What a request for a path comes to when no load is under way. -/
def comesTo {Waiter : Type} (source : Source) (path : Json) (c : Cache Waiter) : Outcome :=
  if path.isBlank then .ok .null
  else if !path.isKey then .error (.notAKey path.kind)
  else
    match c.stored? path with
    | some data => .ok data
    | none => outcomeOf path (source path)

variable {Waiter : Type} {source : Source} {path : Json} {c c' : Cache Waiter}

theorem comesTo_congr (h : c'.stored? path = c.stored? path) : c'.comesTo source path = c.comesTo source path := by
  rw [comesTo, comesTo, h]

/-- A path for which nothing is stored is fetched. -/
theorem comesTo_of_none (hb : path.isBlank = false) (hk : path.isKey = true) (hs : c.stored? path = none) :
    c.comesTo source path = outcomeOf path (source path) := by
  rw [comesTo, hb, hk, hs, if_neg Bool.false_ne_true, if_neg (by simp)]

/-- A path for which the value is stored that it came to still comes to this value. -/
theorem comesTo_of_put {data : Json} (h : c.comesTo source path = .ok data) (hs : c'.stored? path = some data) :
    c'.comesTo source path = .ok data := by
  rw [comesTo] at h ⊢
  split at h
  · rename_i hb
    rw [if_pos hb, h]
  · rename_i hb
    rw [if_neg hb]
    split at h
    · cases h
    · rename_i hk
      rw [if_neg hk, hs]

end Cache

/-- The selection of a deck, what is stored when it begins, and what the fetches for it end with. -/
structure Errand where
  selection : Selection
  cache : Cache Waiter
  source : Source

namespace Errand

/-- What a request for a path comes to. -/
def outcome (e : Errand) (path : Json) : Outcome := e.cache.comesTo e.source path

/-- The path of the data of the deck. -/
def dataPath (e : Errand) : Json := .text e.selection.node.deckPath

/-- The path of the models of the deck. -/
def modelsPath (e : Errand) : Json := e.selection.node.modelsPath

/-- What the fetch of the notes ends with. -/
def markup (e : Errand) : Answer := e.source (.text e.selection.node.notesHtmlPath)

/-- The notes of the deck, or why they cannot be shown. -/
def notes (e : Errand) : Except Failure (List Note) := notesOf (e.outcome e.dataPath) e.markup

/-- The models of the deck, if it has any. -/
def models (e : Errand) : Except Failure (Option Json) :=
  if e.modelsPath.isBlank then .ok none else (Optional.ofOutcome (e.outcome e.modelsPath)).map Optional.data?

end Errand

/-- The selection of a deck brought to its end with what fetching its notes and its models has come to. -/
def Session.deliver (selection : Selection) (notes : Except Failure (List Note)) (models : Except Failure (Option Json))
    (s : Session) : Session × Except Failure DeckResult :=
  match notes, models with
  | .error failure, _ => ((s.fail selection failure).1, .ok (s.fail selection failure).2)
  | .ok _, .error failure => (s, .error failure)
  | .ok notes, .ok models => s.showDeck selection notes models

namespace Errand

/-- What becomes of a session in which the selection has begun, and what the call comes to. -/
def result (e : Errand) (s : Session) : Session × Except Failure DeckResult := s.deliver e.selection e.notes e.models

variable {e : Errand} {d : SessionDesk}

/-! ## What is on its way for the call -/

/-- The call waits for a path. -/
inductive Awaits (e : Errand) : Waiter → Json → Prop
  | data : Awaits e (.deckData e.selection.call) e.dataPath
  | models {notes : List Note} (hn : e.notes = .ok notes) (hb : e.modelsPath.isBlank = false) :
    Awaits e (.deckModels e.selection notes) e.modelsPath

/-- The call has a path loaded, for which nothing is stored. -/
structure Loads (e : Errand) (path : Json) : Prop where
  awaited : ∃ waiter, e.Awaits waiter path
  fetched : e.outcome path = Cache.outcomeOf path (e.source path)

/-- A job is for the call, and brings what the errand says. -/
inductive Includes (e : Errand) : CallJob → Prop
  | begin : Includes e (.begin e.selection.call (.select e.selection.node))
  | askData : Includes e (.askData e.selection.call e.selection.node.deckPath)
  | askNotes : Includes e (.askNotes e.selection.call e.selection.node.notesHtmlPath)
  | dataArrived : Includes e (.dataArrived e.selection.call (e.outcome e.dataPath))
  | notesArrived : Includes e (.notesArrived e.selection.call e.markup)
  | gathered : Includes e (.gathered e.selection (e.outcome e.dataPath) e.markup)
  | load {path : Json} (hl : e.Loads path) : Includes e (.chore (.load path))
  | forget {path : Json} : Includes e (.chore (.forget path))
  | wake {waiter : Waiter} {path : Json} (ha : e.Awaits waiter path) : Includes e (.chore (.wake waiter (e.outcome path)))

/-- A fetch is for the call. -/
inductive Sends (e : Errand) : Fetch → Prop
  | resource {path : Json} (hl : e.Loads path) : Sends e (.resource path)
  | notes : Sends e (.notes e.selection.call e.selection.node.notesHtmlPath)

/-- A gathering is that of the call, and what has arrived for it is what the errand says. -/
structure Gathers (e : Errand) (g : Gathering) : Prop where
  selection : g.selection = e.selection
  data : ∀ outcome, g.data = some outcome → outcome = e.outcome e.dataPath
  notes : ∀ answer, g.notes = some answer → answer = e.markup

/-- A load is for the call, and its outcome is what the errand says. -/
structure Owns (e : Errand) (l : Load Waiter) : Prop where
  waiters : ∀ w ∈ l.waiters, e.Awaits w l.path
  loads : e.Loads l.path
  outcome : ∀ outcome, l.outcome = some outcome → outcome = e.outcome l.path

/-- Everything that is under way is for the call, and what has been stored since it was made is what it has had loaded. -/
structure Covers (e : Errand) (d : SessionDesk) : Prop where
  gathering : ∀ g ∈ d.gathering, e.Gathers g
  loads : ∀ l ∈ d.cache.loads, e.Owns l
  stored : ∀ path, d.cache.stored? path = e.cache.stored? path ∨
    ∃ p data, e.Loads p ∧ p.key = path.key ∧ e.outcome p = .ok data ∧ d.cache.stored? path = some data

/-- Paths that the call waits for are the same if their keys are. -/
theorem Awaits.path_eq {w w' : Waiter} {p q : Json} (hp : e.Awaits w p) (hq : e.Awaits w' q) (hkey : p.key = q.key) : p = q := by
  cases hp with
  | data =>
    cases hq with
    | data => rfl
    | models => exact (Json.eq_text_of_key hkey.symm).symm
  | models =>
    cases hq with
    | data => exact Json.eq_text_of_key hkey
    | models => rfl

theorem Loads.path_eq {p q : Json} (hp : e.Loads p) (hq : e.Loads q) (hkey : p.key = q.key) : p = q := by
  obtain ⟨_, hp'⟩ := hp.awaited
  obtain ⟨_, hq'⟩ := hq.awaited
  exact hp'.path_eq hq' hkey

/-- What has been stored since does not change what a path comes to, unless another that the call loads is the same key. -/
theorem Covers.comesTo_eq (h : e.Covers d) {path : Json} (hpath : ∀ p, e.Loads p → p.key = path.key → p = path) :
    d.cache.comesTo e.source path = e.outcome path := by
  rcases h.stored path with hs | ⟨p, data, hl, hkey, ho, hs⟩
  · exact Cache.comesTo_congr hs
  · obtain rfl := hpath p hl hkey
    rw [ho]
    exact Cache.comesTo_of_put ho hs

theorem Covers.comesTo_of_awaits (h : e.Covers d) {waiter : Waiter} {path : Json} (ha : e.Awaits waiter path) :
    d.cache.comesTo e.source path = e.outcome path := by
  refine h.comesTo_eq fun p hl hkey => ?_
  obtain ⟨_, hp⟩ := hl.awaited
  exact hp.path_eq ha hkey

/-! ## Jobs of the call -/

/-- What a job of the call asks for is what the call waits for. -/
theorem Includes.awaits {job : CallJob} (hj : e.Includes job) {waiter : Waiter} {path : Json} (ha : Asks d job waiter path) :
    e.Awaits waiter path := by
  cases ha with
  | rootModels => cases hj
  | deckData =>
    cases hj
    exact .data
  | deckModels hn hb =>
    cases hj
    exact .models hn hb

/-- A request of the call that is answered at once is answered as the errand says. -/
theorem Covers.outcome_of_now (h : e.Covers d) {waiter : Waiter} {path : Json} (ha : e.Awaits waiter path) {outcome : Outcome}
    (hnow : (d.cache.ask waiter path).2 = .now outcome) : outcome = e.outcome path := by
  have hsame := h.comesTo_of_awaits ha
  have hr := d.cache.asked waiter path
  generalize d.cache.ask waiter path = r at hr hnow
  rw [Cache.comesTo] at hsame
  cases hr with
  | blank hb =>
    rw [if_pos hb] at hsame
    exact (Reply.now.inj hnow).symm.trans hsame
  | notAKey hb hk =>
    rw [hb, hk, if_neg Bool.false_ne_true] at hsame
    exact (Reply.now.inj hnow).symm.trans hsame
  | stored hb hk hs =>
    rw [hb, hk, hs, if_neg Bool.false_ne_true] at hsame
    exact (Reply.now.inj hnow).symm.trans hsame
  | loaded _ _ _ hl ho =>
    have howns := h.loads _ (Cache.load?_mem hl)
    obtain ⟨_, hw⟩ := howns.loads.awaited
    rw [← hw.path_eq ha (Cache.load?_path hl), ← Reply.now.inj hnow]
    exact howns.outcome _ ho
  | begins | joins => cases hnow

/-- Whoever is told by a job of the call waits for the call, and is told what the errand says. -/
theorem Includes.told {job : CallJob} (hj : e.Includes job) (h : e.Covers d) {waiter : Waiter} {outcome : Outcome}
    (ht : Told d job waiter outcome) : ∃ path, e.Awaits waiter path ∧ outcome = e.outcome path := by
  cases ht with
  | woken =>
    cases hj with
    | wake ha => exact ⟨_, ha, rfl⟩
  | atOnce ha hnow => exact ⟨_, hj.awaits ha, h.outcome_of_now (hj.awaits ha) hnow⟩

/-- A job begins a load only for a path for which nothing is stored. -/
theorem stored?_of_load {job : CallJob} {waiter : Waiter} {path : Json} (ha : Asks d job waiter path)
    (hj : .chore (.load path) ∈ (perform job d).jobs) :
    path.isBlank = false ∧ path.isKey = true ∧ d.cache.stored? path = none := by
  have hr := d.cache.asked waiter path
  have hlater : ∀ outcome, (d.cache.ask waiter path).2 ≠ .now outcome := by
    intro outcome hnow
    rw [(Told.atOnce ha hnow).perform] at hj
    cases waiter <;> simp [wake, Turn.rest] at hj
  generalize d.cache.ask waiter path = r at hr hlater
  cases hr with
  | blank | notAKey | stored | loaded => exact absurd rfl (hlater _)
  | begins hb hk hs _ => exact ⟨hb, hk, hs⟩
  | joins hb hk hs _ _ => exact ⟨hb, hk, hs⟩

/-- What arrives by a job of the call leaves its gathering as the errand says. -/
theorem Includes.arrived {job : CallJob} (hj : e.Includes job) (h : e.Covers d) {call : Nat} {f : Gathering → Gathering}
    (hb : Brings job call f) : ∀ g ∈ arrived call f d.gathering, e.Gathers g := by
  intro g hg
  obtain ⟨g', hg', rfl⟩ := List.mem_map.1 hg
  have hgathers := h.gathering g' hg'
  split
  · cases hb with
    | data =>
      cases hj
      exact ⟨hgathers.selection, fun _ ho => (Option.some.inj ho).symm, hgathers.notes⟩
    | notes =>
      cases hj
      exact ⟨hgathers.selection, hgathers.data, fun _ ha => (Option.some.inj ha).symm⟩
  · exact hgathers

/-- One more who waits for a load of the call is one of its own. -/
theorem Covers.joins (h : e.Covers d) {waiter : Waiter} {path : Json} (ha : e.Awaits waiter path) :
    ∀ l ∈ (d.cache.addWaiter waiter path).loads, e.Owns l := by
  intro l hl
  obtain ⟨l', hl', rfl⟩ := List.mem_map.1 hl
  have howns := h.loads l' hl'
  split
  · rename_i hkey
    obtain ⟨_, hw⟩ := howns.loads.awaited
    have hpath := hw.path_eq ha (Json.sameKey_iff.1 hkey)
    refine ⟨fun w hmem => ?_, howns.loads, howns.outcome⟩
    rcases List.mem_append.1 hmem with hmem | hmem
    · exact howns.waiters w hmem
    · rw [List.mem_singleton.1 hmem, hpath]
      exact ha
  · exact howns

/-- A job of the call leaves only what belongs to the errand. The selection that it begins has to get the number that the errand says. -/
theorem Covers.perform (h : e.Covers d) {job : CallJob} (hj : e.Includes job)
    (hnew : ∀ call node mode, Opening d job call node mode → d.session.token + 1 = e.selection.token) :
    e.Covers (perform job d).state ∧ (∀ job' ∈ (SessionDesk.perform job d).jobs, e.Includes job') ∧
      ∀ fetch ∈ (SessionDesk.perform job d).fetches, e.Sends fetch := by
  have hload := fun waiter path (ha : Asks d job waiter path) => stored?_of_load ha
  have hperf := d.performed job
  generalize SessionDesk.perform job d = t at hperf hload
  cases hperf with
  | ends => exact ⟨⟨h.gathering, h.loads, h.stored⟩, by simp [Turn.rest], by simp [Turn.rest]⟩
  | @opens _ call node mode hop =>
    have htoken := hnew _ _ _ hop
    cases hop with
    | setMode => cases hj
    | select =>
      cases hj
      refine ⟨⟨fun g hg => ?_, h.loads, h.stored⟩, ?_, by simp⟩
      · rcases List.mem_append.1 hg with hg | hg
        · exact h.gathering g hg
        · rw [List.mem_singleton.1 hg, htoken]
          exact ⟨rfl, by simp, by simp⟩
      · simp only [List.forall_mem_cons, List.not_mem_nil, false_imp_iff, implies_true, and_true]
        exact ⟨.askData, .askNotes⟩
  | @asks _ waiter path ha _ =>
    have hawaits := hj.awaits ha
    obtain ⟨hb, hk, hs⟩ := hload waiter path ha List.mem_cons_self
    have hloads : e.Loads path := ⟨⟨waiter, hawaits⟩, (h.comesTo_of_awaits hawaits).symm.trans (Cache.comesTo_of_none hb hk hs)⟩
    refine ⟨⟨h.gathering, fun l hl => ?_, h.stored⟩, ?_, by simp⟩
    · rcases List.mem_append.1 hl with hl | hl
      · exact h.loads l hl
      · rw [List.mem_singleton.1 hl]
        exact ⟨fun w hw => List.mem_singleton.1 hw ▸ hawaits, hloads, by simp⟩
    · exact fun job' hmem => List.mem_singleton.1 hmem ▸ .load hloads
  | joins ha _ _ => exact ⟨⟨h.gathering, h.joins (hj.awaits ha), h.stored⟩, by simp, by simp⟩
  | passes ht =>
    obtain ⟨path, ha, rfl⟩ := hj.told h ht
    cases ha
    exact ⟨h, fun job' hmem => List.mem_singleton.1 hmem ▸ .dataArrived, by simp⟩
  | sends =>
    cases hj
    exact ⟨h, by simp, fun fetch hmem => List.mem_singleton.1 hmem ▸ .notes⟩
  | arrives hb _ => exact ⟨⟨hj.arrived h hb, h.loads, h.stored⟩, by simp [Turn.rest], by simp [Turn.rest]⟩
  | gathers hb hg =>
    have hall := hj.arrived h hb
    have hgathers := hall _ (List.mem_of_find?_eq_some hg)
    refine ⟨⟨fun g hmem => hall g (List.mem_filter.1 hmem).1, h.loads, h.stored⟩, fun job' hmem => ?_, by simp⟩
    obtain ⟨rfl, hdata, hnotes⟩ := hgathers
    rw [List.mem_singleton.1 hmem, hdata _ rfl, hnotes _ rfl]
    exact .gathered
  | loads =>
    cases hj with
    | load hl =>
      exact ⟨⟨h.gathering, h.loads, h.stored⟩, by simp, fun fetch hmem => List.mem_singleton.1 hmem ▸ .resource hl⟩
  | forgets =>
    exact ⟨⟨h.gathering, fun l hl => h.loads l (List.mem_filter.1 hl).1, h.stored⟩, by simp [Turn.rest], by simp [Turn.rest]⟩

/-- What the source has for a path that the call loads leaves only what belongs to the errand. -/
theorem Covers.finish (h : e.Covers d) {path : Json} (hl : e.Loads path) :
    e.Covers { d with cache := (d.cache.finish path (e.source path)).1 } ∧
      ∀ chore ∈ (d.cache.finish path (e.source path)).2, e.Includes (.chore chore) := by
  have hsame : ∀ l ∈ d.cache.loads, l.path.key = path.key → l.path = path := fun l hmem hkey => (h.loads l hmem).loads.path_eq hl hkey
  refine ⟨⟨h.gathering, fun l hmem => ?_, fun q => ?_⟩, fun chore hmem => ?_⟩
  · obtain ⟨l', hl', hpath, hw, hout⟩ := Cache.mem_finish_loads hmem
    have howns := h.loads l' hl'
    refine ⟨by rw [hpath, hw]; exact howns.waiters, by rw [hpath]; exact howns.loads, fun outcome ho => ?_⟩
    rw [hpath]
    rcases hout with hout | ⟨hkey, hout⟩
    · exact howns.outcome outcome (hout ▸ ho)
    · rw [hsame l' hl' hkey, hl.fetched]
      exact Option.some.inj (ho.symm.trans hout)
  · change (d.cache.store path (Cache.outcomeOf path (e.source path))).stored? q = _ ∨
      ∃ p data, e.Loads p ∧ p.key = q.key ∧ e.outcome p = .ok data ∧
        (d.cache.store path (Cache.outcomeOf path (e.source path))).stored? q = some data
    cases ho : Cache.outcomeOf path (e.source path) with
    | error failure => exact h.stored q
    | ok data =>
      rw [Cache.stored?_put]
      by_cases hkey : path.key = q.key
      · exact Or.inr ⟨path, data, hl, hkey, hl.fetched.trans ho, if_pos hkey⟩
      · rw [if_neg hkey]
        exact h.stored q
  · rcases Cache.mem_finish_chores hmem with rfl | ⟨l, hl', hkey, w, hw, rfl⟩
    · exact .forget
    · rw [← hl.fetched]
      exact .wake (hsame l hl' hkey ▸ (h.loads l hl').waiters w hw)

/-- A fetch of the call that ends with what the source has leaves only what belongs to the errand. -/
theorem Covers.receive (h : e.Covers d) {fetch : Fetch} (hf : e.Sends fetch) :
    e.Covers (receive fetch (e.source fetch.path) d).state ∧
      ∀ job ∈ (SessionDesk.receive fetch (e.source fetch.path) d).jobs, e.Includes job := by
  cases hf with
  | notes => exact ⟨h, fun job hmem => List.mem_singleton.1 hmem ▸ .notesArrived⟩
  | resource hl =>
    obtain ⟨hcovers, hchores⟩ := h.finish hl
    refine ⟨hcovers, fun job hmem => ?_⟩
    obtain ⟨chore, hchore, rfl⟩ := List.mem_map.1 hmem
    exact hchores chore hchore

/-- The models that a job of the call is told of are those of the deck. -/
theorem Includes.models {job : CallJob} (hj : e.Includes job) (h : e.Covers d) {selection : Selection} {notes : List Note}
    {outcome : Outcome} (ht : Told d job (.deckModels selection notes) outcome) :
    selection = e.selection ∧ e.notes = .ok notes ∧ e.models = (Optional.ofOutcome outcome).map Optional.data? := by
  obtain ⟨path, ha, rfl⟩ := hj.told h ht
  cases ha with
  | models hn hb => exact ⟨rfl, hn, by rw [Errand.models, hb, if_neg Bool.false_ne_true]⟩

/-- A job of the call that has what it needs has the notes of the deck and its models. -/
theorem Includes.deckReady {job : CallJob} (hj : e.Includes job) (h : e.Covers d) {selection : Selection} {notes : List Note}
    {models : Option Json} (hr : DeckReady d job selection notes models) :
    selection = e.selection ∧ e.notes = .ok notes ∧ e.models = .ok models := by
  cases hr with
  | noModels hn hb =>
    cases hj
    exact ⟨rfl, hn, by rw [Errand.models, show e.modelsPath.isBlank = true from hb, if_pos rfl]⟩
  | models ht ho =>
    obtain ⟨hsel, hn, hm⟩ := hj.models h ht
    exact ⟨hsel, hn, by rw [hm, ho]; rfl⟩

/-- A job of the call that ends a call ends this one, as the errand says. -/
theorem Includes.ending {job : CallJob} (hj : e.Includes job) (h : e.Covers d) {call : Nat} {session : Session}
    {result : Except Failure CallResult} (he : SessionDesk.Ending d job call session result) :
    call = e.selection.call ∧ job.selection? = some e.selection ∧ session = (e.result d.session).1 ∧
      result = (e.result d.session).2.map .shown := by
  cases he with
  | badMode | noDeck => cases hj
  | noRootModels ht _ =>
    obtain ⟨_, ha, -⟩ := hj.told h ht
    cases ha
  | rootModels hr =>
    cases hr with
    | noPath => cases hj
    | models ht _ =>
      obtain ⟨_, ha, -⟩ := hj.told h ht
      cases ha
  | failed hn =>
    cases hj
    rw [Errand.result, show e.notes = _ from hn]
    exact ⟨rfl, rfl, rfl, rfl⟩
  | noDeckModels ht ho =>
    obtain ⟨rfl, hn, hm⟩ := hj.models h ht
    rw [Errand.result, hn, hm, ho]
    exact ⟨rfl, ht.selection, rfl, rfl⟩
  | shown hr =>
    obtain ⟨rfl, hn, hm⟩ := hj.deckReady h hr
    rw [Errand.result, hn, hm]
    exact ⟨rfl, hr.selection, rfl, rfl⟩

end Errand

end Flashcards

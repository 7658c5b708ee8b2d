import Flashcards.Proofs.Hoist.Scripts
import Flashcards.Proofs.Page.Scripts
import Flashcards.Proofs.Session.Shown

/-!
# The scripts of a deck are run once

The scripts that the cards of a deck bring are collected, and run when all cards stand in the page. The texts that are collected, those that
the page remembers, and those that stand in its region are three accounts of the same (`Session.Ran`). In every history they agree when
a call has ended with a deck (`History.scripts_run_once`): they are the scripts of its cards, each once, or there are none, if the deck
could not be loaded or has no notes.

A deck that could not be loaded leaves nothing of an earlier one because the cards of that have been taken away when the deck was selected:
until the call ends, the page says that the deck is being loaded, whatever else happens (`History.waiting`).
-/

namespace Flashcards

open Text Markup Markup.Node

/-- The texts of the scripts that the card of a note brings to be run, in document order: those in the markup that the template of its model
makes of it, if it is shown by one. -/
def Note.scripts (models : ModelRegistry) (mode : RenderMode) (note : Note) : List Text :=
  match NoteModel.templateIn? mode (models.resolve note) with
  | none => []
  | some (m, template) =>
    match Page.fragment (Card.facesMarkup note m template) with
    | .ok nodes => inlineScripts nodes
    | .error _ => []

/-- The scripts that a card brings wait after those that have waited before. -/
theorem Card.render_deferred {models : ModelRegistry} {mode : RenderMode} {note : Note} {w w' : Workspace} {card : Card}
    (h : Card.render note (models.resolve note) mode w = (w', .ok card)) :
    w'.deferred = w.deferred.insertAll (note.scripts models mode) := by
  rw [render_eq] at h
  rw [Note.scripts]
  cases ht : NoteModel.templateIn? mode (models.resolve note) with
  | none =>
    rw [ht] at h
    obtain ⟨rfl, -⟩ := Prod.mk.inj h
    rfl
  | some found =>
    obtain ⟨m, template⟩ := found
    rw [ht] at h
    obtain ⟨markup, -, hleft, -⟩ := exists_of_fromTemplate (congrArg Prod.snd h)
    obtain ⟨nodes, hf, hcut, -⟩ := leftOf_eq_ok_iff.1 hleft
    dsimp only at h ⊢
    rw [fromTemplate_eq, Harvest.ofFragment, hf] at h
    obtain ⟨rfl, -⟩ := Prod.mk.inj h
    rw [hf]
    dsimp only
    rw [Harvest.reached_eq_ofNodes hcut, Workspace.take_deferred_eq, filterMap_runnable?]

namespace Session

variable {s s' : Session} {l : Layout}

/-! ## Scripts that have been run -/

/-- Scripts have been run for the deck, and no others: they are what has been collected and what the page remembers, and they stand in the
page's own region for them, which is empty where the cards have an element of its name. -/
structure Ran (scripts : List Text) (s : Session) : Prop where
  collected : s.workspace.deferred.items = scripts
  executed : s.page.executed = scripts
  region : ∃ l : Layout, s.page.LaidOut l ∧ l.deferred = if carry Page.deferredId l.cards then [] else scripts

/-- Where the cards have no element of the name of the region, a search for it finds the scripts that have been run. -/
theorem Ran.byId? {scripts : List Text} (h : s.Ran scripts) (hc : carry Page.deferredId s.page.cards = false) :
    s.page.byId? Page.deferredId =
      some (Page.element "div" [("id", Page.deferredId)] (s.page.executed.map Page.inlineScript)) := by
  obtain ⟨l, hl, hd⟩ := h.region
  rw [Page.cards_eq hl] at hc
  rw [hc, if_neg Bool.false_ne_true] at hd
  rw [Page.byId?_deferred hl hc, hd, h.executed]

/-- No script has been run where the page has run none and shows a message. -/
theorem ran_showNodes {p : Page} (hp : p.Unrun) (nodes : List Node) (hpage : s.page = p.showNodes nodes)
    (hd : s.workspace.deferred = Collection.empty) : s.Ran [] := by
  obtain ⟨he, l, hl, hdeferred⟩ := hp.showNodes nodes
  refine ⟨congrArg Collection.items hd, hpage ▸ he, l, hpage ▸ hl, ?_⟩
  rw [hdeferred, ite_self]

/-- Notes that are rendered leave their scripts waiting, and none of them run. -/
theorem renderFrom_scripts (node : DeckNode) (total : Nat) (notes : List Note) :
    ∀ (done : Nat) {s : Session}, s.page.Unrun → (s.renderFrom node total done notes).2 = none →
      (s.renderFrom node total done notes).1.page.Unrun ∧
        (s.renderFrom node total done notes).1.workspace.deferred =
          s.workspace.deferred.insertAll (notes.flatMap (Note.scripts s.models s.mode)) := by
  induction notes with
  | nil => exact fun _ _ h _ => ⟨h, rfl⟩
  | cons note notes ih =>
    intro done s h hok
    have hgains := Card.render_gains note (s.models.resolve note) s.mode s.workspace
    rw [renderFrom] at hok ⊢
    generalize hrender : Card.render note (s.models.resolve note) s.mode s.workspace = r at hgains hok ⊢
    obtain ⟨w, made⟩ := r
    cases made with
    | error failure => cases hok
    | ok card =>
      have hdeferred := Card.render_deferred hrender
      have hplaced : ((({ s with workspace := w } : Session).placeCard card).notify
          (Notice.progress node.name (done + 1) total)).page.Unrun := (h.gains hgains).appendCard card.element
      obtain ⟨hunrun, hall⟩ := ih (done + 1) hplaced hok
      refine ⟨hunrun, hall.trans ?_⟩
      show w.deferred.insertAll (notes.flatMap (Note.scripts s.models s.mode)) = _
      rw [hdeferred, List.flatMap_cons, Collection.insertAll_append]

/-- The table is cleared: no script of an earlier deck is left. -/
theorem clearTable_unrun (hl : s.page.LaidOut l) : s.clearTable.page.Unrun :=
  Page.resetScripts_unrun (Page.clearCards_laidOut hl) rfl

/-- What a selection that is brought to its end leaves of scripts: those of its cards, each once; or none, where there are no notes. -/
theorem Brought.ran {selection : Selection} {notes : List Note} {own : Option Json} {r : DeckResult}
    (h : s.Brought selection notes own s' r) (hl : s.page.LaidOut l) :
    (r.status = .rendered →
        s'.Ran (distinct (notes.flatMap (Note.scripts s'.models s'.mode))) ∧ r.scriptsRun = s'.page.executed.length) ∧
      (r.status = .empty → s'.Ran []) ∧ r.status ≠ .failed := by
  obtain ⟨l₁, hl₁, -⟩ := (s.register_aside ((own.map NoteModel.listOf).getD [])).titled ⟨l, hl, rfl, rfl⟩
  have hcleared := clearTable_unrun hl₁
  cases h with
  | overtaken => exact ⟨fun h => (by cases h), fun h => (by cases h), fun h => (by cases h)⟩
  | empty =>
    refine ⟨fun h => (by cases h), fun _ => ?_, fun h => (by cases h)⟩
    refine ran_showNodes hcleared [Page.noNotesBox] ?_ rfl
    show (Page.showMessage Chrome.noNotes _).1 = _
    rw [Page.showMessage, Page.fragment_noNotes]
    rfl
  | @rendered s₂ notice _ _ hrender =>
    refine ⟨fun _ => ?_, fun h => (by cases h), fun h => (by cases h)⟩
    obtain ⟨hunrun, hwaiting⟩ := renderFrom_scripts selection.node notes.length notes 0 hcleared (by rw [hrender])
    have hkept := renderFrom_models selection.node notes.length notes 0 (s.register ((own.map NoteModel.listOf).getD [])).1.clearTable
    rw [hrender] at hunrun hwaiting hkept
    obtain ⟨hexecuted, hregion⟩ := hunrun.foldl_runScript s₂.workspace.deferred.items
    have hitems : s₂.workspace.deferred.items = distinct (notes.flatMap (Note.scripts s₂.models s₂.mode)) := by
      rw [hwaiting, hkept.1, hkept.2]
      exact Collection.items_insertAll_empty _
    rw [hitems] at hexecuted hregion
    have hpage : (s₂.runDeferred.notify notice).page =
        (distinct (notes.flatMap (Note.scripts s₂.models s₂.mode))).foldl (fun p t => p.runScript t) s₂.page := by
      rw [← hitems]
      rfl
    refine ⟨⟨hitems, hpage ▸ hexecuted, hpage ▸ hregion⟩, ?_⟩
    rw [hpage, hexecuted, ← hitems]
    rfl

/-! ## While a deck is being loaded -/

/-- The page says that a deck is being loaded. -/
def Waits (s : Session) : Prop := (∃ cards, s.deal = .taken cards) ∧ s.page.cards = [Page.plain Chrome.loading]

theorem select_waits (hl : s.page.LaidOut l) (node : DeckNode) : (s.select node).Waits :=
  ⟨⟨_, rfl⟩, Page.cards_eq (select_laidOut hl node)⟩

/-- It goes on saying so when style sheets and libraries are taken in. -/
theorem Waits.gains (h : s.Waits) (hl : s.page.LaidOut l) (hg : s.workspace.Gains s'.workspace) (hd : s'.deal = s.deal) : s'.Waits := by
  obtain ⟨l', hl', hgain⟩ := hg.layout l hl
  have hcards : l.cards = [Page.plain Chrome.loading] := (Page.cards_eq hl).symm.trans h.2
  refine ⟨hd ▸ h.1, ?_⟩
  rw [Page.cards_eq (show s'.page.LaidOut l' from hl'), hgain.cards (by rw [hcards]; rfl), hcards]

/-- It goes on saying so when cards are clicked that have been taken away. -/
theorem Waits.click (h : s.Waits) (i : Nat) : (s.click i).Waits := by
  obtain ⟨⟨cards, hcards⟩, hpage⟩ := h
  rw [Session.click, hcards]
  exact ⟨⟨_, rfl⟩, hpage⟩

/-- A deck that could not be loaded leaves no scripts. -/
theorem Waits.fail (h : s.Waits) (hl : s.page.LaidOut l) {selection : Selection} (hnew : s.isNewest selection = true)
    (failure : Failure) : (s.fail selection failure).1.Ran [] := by
  have hcards : l.cards = [Page.plain Chrome.loading] := (Page.cards_eq hl).symm.trans h.2
  have hreset : s.page.resetScripts.Unrun := Page.resetScripts_unrun hl (by rw [hcards]; rfl)
  rw [Session.fail, hnew, if_pos rfl]
  refine ran_showNodes hreset [Page.errorBox failure.message] ?_ rfl
  show (Page.showMessage (Chrome.errorMarkup failure.message) _).1 = _
  rw [Page.showMessage, Page.fragment_errorMarkup]
  rfl

end Session

namespace History

/-- While the newest selection has not ended, the page says that its deck is being loaded. -/
def Waiting (h : History) : Prop :=
  ∀ call node, h.course.started.getLast? = some (call, node) → (∀ e ∈ h.course.ended, e.1 ≠ call) → h.session.Waits

variable {h h' : History}

theorem Becomes.waiting (hb : h.Becomes h') (hw : h.Waiting) (ho : h.course.Orderly) {l : Layout} (hl : h.session.page.LaidOut l) :
    h'.Waiting := by
  intro call node hlast hopen
  cases hb with
  | @ends i job call' session result hj he hs hst hend =>
    rw [hst] at hlast
    rw [hend] at hopen
    have hwaits := hw call node hlast fun e hmem => hopen e (List.mem_append_left _ hmem)
    have hother : call' ≠ call := hopen (call', result) (List.mem_append_right _ (List.mem_singleton.2 rfl))
    rcases he.effect hl with ⟨haside, -⟩ | ⟨selection, hsel, hcall, hnew, -⟩
    · rw [← hs] at haside
      exact hwaits.gains hl haside.gains haside.deal
    · -- The newest selection would have ended.
      have hnewest := (ho.isNewest_iff (ho.ready job (List.mem_of_getElem? hj) selection hsel)).1 hnew
      rw [Course.newest?, hlast, hcall] at hnewest
      exact absurd (Option.some.inj hnewest).symm hother
  | @opens i job call' node' mode' hj hop hs hst hend =>
    have hbefore : ({ h.session with mode := mode' } : Session).page.LaidOut l := hl
    rw [hs]
    exact Session.select_waits hbefore node'
  | hoisted librariesOnly fragment hs hst hend =>
    rw [hst] at hlast
    rw [hend] at hopen
    rw [hs]
    exact (hw call node hlast hopen).gains hl (Workspace.strip_gains librariesOnly fragment h.session.workspace) rfl
  | clicked i hs hst hend =>
    rw [hst] at hlast
    rw [hend] at hopen
    rw [hs]
    exact (hw call node hlast hopen).click i
  | stays hs hst hend =>
    rw [hst] at hlast
    rw [hend] at hopen
    rw [hs]
    exact hw call node hlast hopen

/-- In every history, the page says that the deck of the newest selection is being loaded until its call has ended. -/
theorem waiting (mode : RenderMode) (rootModels : Json) (xs : List Happening) : ((fresh mode rootModels).through xs).Waiting := by
  induction xs using List.reverseRecOn with
  | nil => exact fun _ _ hlast => (by cases hlast)
  | append_singleton xs x ih =>
    obtain ⟨l, hl⟩ := exists_laidOut mode rootModels xs
    rw [through_append]
    exact (becomes _ x).waiting ih (orderly mode rootModels xs) hl

/-- The scripts of a deck have been run once each: those of its cards, if it has been rendered, and otherwise none. -/
structure ScriptsRun (h : History) (call : Nat) (r : DeckResult) : Prop where
  /-- The scripts run for a deck that has been rendered are those of its cards, in order, each once. -/
  rendered : r.status = .rendered → ∃ notes, h.answers.Notes call r.deck notes ∧ (∀ others, h.answers.Notes call r.deck others → others = notes) ∧
    h.session.page.executed = distinct (notes.flatMap (Note.scripts h.session.models h.session.mode)) ∧
    r.scriptsRun = h.session.page.executed.length
  /-- No script is left where the deck could not be loaded, or has no notes, and the region for scripts is empty. -/
  bare : r.status = .failed ∨ r.status = .empty → h.session.page.executed = [] ∧
    h.session.page.byId? Page.deferredId = some (Page.element "div" [("id", Page.deferredId)] [])
  /-- The scripts run are those that have been collected. -/
  collected : r.status ≠ .superseded → h.session.workspace.deferred.items = h.session.page.executed
  /-- They stand in the region for scripts, if no card has an element of its name. -/
  standing : r.status ≠ .superseded → carry Page.deferredId h.session.page.cards = false →
    h.session.page.byId? Page.deferredId =
      some (Page.element "div" [("id", Page.deferredId)] (h.session.page.executed.map Page.inlineScript))
  /-- And if one has, then nothing stands in the page's own region. -/
  own : r.status ≠ .superseded → ∃ l : Layout, h.session.page.LaidOut l ∧
    l.deferred = if carry Page.deferredId l.cards then [] else h.session.page.executed

/-- It is enough that the scripts have been run that are those of the cards, or none. -/
theorem ScriptsRun.of_ran {call : Nat} {r : DeckResult}
    (hrendered : r.status = .rendered → ∃ notes, h.answers.Notes call r.deck notes ∧
      (∀ others, h.answers.Notes call r.deck others → others = notes) ∧
      h.session.Ran (distinct (notes.flatMap (Note.scripts h.session.models h.session.mode))) ∧
      r.scriptsRun = h.session.page.executed.length)
    (hbare : r.status = .failed ∨ r.status = .empty → h.session.Ran [])
    (hshows : r.status ≠ .superseded → h.session.Shows r) : ScriptsRun h call r := by
  have hran : r.status ≠ .superseded → h.session.Ran h.session.page.executed := by
    intro hne
    cases hstatus : r.status with
    | superseded => exact absurd hstatus hne
    | rendered =>
      obtain ⟨notes, -, -, hr, -⟩ := hrendered hstatus
      rwa [hr.executed]
    | failed =>
      have hr := hbare (Or.inl hstatus)
      rwa [hr.executed]
    | empty =>
      have hr := hbare (Or.inr hstatus)
      rwa [hr.executed]
  refine ⟨fun hstatus => ?_, fun hstatus => ?_, fun hne => (hran hne).collected, fun hne hc => (hran hne).byId? hc, fun hne => (hran hne).region⟩
  · obtain ⟨notes, hnotes, honly, hr, hrun⟩ := hrendered hstatus
    exact ⟨notes, hnotes, honly, hr.executed, hrun⟩
  · have hr := hbare hstatus
    have hnone : carry Page.deferredId h.session.page.cards = false := by
      rcases hstatus with hstatus | hstatus
      · have hs := (hshows (by rw [hstatus]; decide)).2
        rw [hstatus] at hs
        obtain ⟨failure, -, hcards⟩ := hs
        rw [hcards]
        rfl
      · have hs := (hshows (by rw [hstatus]; decide)).2
        rw [hstatus] at hs
        rw [show h.session.page.cards = _ from hs]
        rfl
    have hregion := hr.byId? hnone
    rw [hr.executed] at hregion
    exact ⟨hr.executed, hregion⟩

/-- A call that ends with a deck has run its scripts, each once, whatever has been shown before. -/
theorem scripts_run_once (mode : RenderMode) (rootModels : Json) (xs : List Happening) (x : Happening) (call : Nat) (r : DeckResult)
    (hend : (((fresh mode rootModels).through xs).happen x).course.ended =
      ((fresh mode rootModels).through xs).course.ended ++ [(call, .ok (.shown r))]) :
    ScriptsRun (((fresh mode rootModels).through xs).happen x) call r := by
  have hsound := sound mode rootModels xs
  have hwaiting := waiting mode rootModels xs
  generalize (fresh mode rootModels).through xs = h at hend hsound hwaiting ⊢
  obtain ⟨l, hl⟩ := hsound.laidOut
  obtain ⟨hends, hshows⟩ := hsound.endsWith hend
  cases hends with
  | @failed selection failure hcall hbegun hopen hsession hr =>
    refine ScriptsRun.of_ran (fun hstatus => ?_) (fun hstatus => ?_) hshows
    · rcases Session.fail_status selection failure h.session with hs | hs <;> (rw [hr, hs] at hstatus; cases hstatus)
    · cases hnew : h.session.isNewest selection with
      | false =>
        rw [hr, Session.fail_of_overtaken hnew] at hstatus
        rcases hstatus with hstatus | hstatus <;> cases hstatus
      | true =>
        -- Its call is the newest and has not ended, so that the page still says that the deck is being loaded.
        obtain ⟨⟨call', node⟩, hlast, hcall'⟩ := Option.map_eq_some_iff.1 ((hsound.orderly.isNewest_iff hbegun).1 hnew)
        rw [← hcall, ← hcall'] at hopen
        rw [hsession]
        exact (hwaiting call' node hlast hopen).fail hl hnew failure
  | @brought job selection notes own _ _ _ _ _ hnotes honly _ hb =>
    obtain ⟨hrendered, hempty, hfailed⟩ := hb.ran hl
    exact ScriptsRun.of_ran (fun hstatus => ⟨notes, hnotes, honly, hrendered hstatus⟩)
      (fun hstatus => hempty (hstatus.resolve_left hfailed)) hshows

/-! ## A run with scripts -/

/-- The models that all decks share come, two of them with scripts, and a deck is shown. Another is selected, of two cards, and has all it
needs. -/
def scripted : List Happening :=
  let models := [modelNamed "m" "<script>s</script>", modelNamed "n" "<script>t</script><script>u</script>"]
  ([.call .loadRootModels, .run 0, .run 0, .answer 0 (.ok (modelsText models)), .run 0, .run 0] ++ selected "a" (notesText ["m"]) ++
    (selected "b" (notesText ["n", "n"])).dropLast : List CallEvent).map Happening.event

/-- The scripts of the second deck are run, each once, and that of the first is gone. -/
theorem scripts_run_once_rendered :
    ((fresh .model (.text "models.json")).through scripted).session.page.executed = [("s" : Text)] ∧
      ∃ (call : Nat) (r : DeckResult), ((fresh .model (.text "models.json")).through scripted).shown? (.event (.run 0)) = some (call, r) ∧
        r.status = .rendered ∧ ScriptsRun (((fresh .model (.text "models.json")).through scripted).happen (.event (.run 0))) call r ∧
        (((fresh .model (.text "models.json")).through scripted).happen (.event (.run 0))).session.page.executed = [("t" : Text), "u"] := by
  have hshown : ((fresh .model (.text "models.json")).through scripted).session.page.executed = [("s" : Text)] ∧
      (((fresh .model (.text "models.json")).through scripted).shown? (.event (.run 0))).any (fun e => e.2.status = .rendered) = true ∧
      (((fresh .model (.text "models.json")).through scripted).happen (.event (.run 0))).session.page.executed = [("t" : Text), "u"] := by
    decide +kernel
  obtain ⟨hbefore, hany, hafter⟩ := hshown
  obtain ⟨⟨call, r⟩, hs, hr⟩ := (Option.any_eq_true _ _).1 hany
  exact ⟨hbefore, call, r, hs, of_decide_eq_true hr,
    scripts_run_once .model (.text "models.json") scripted (.event (.run 0)) call r (ended_of_shown? hs), hafter⟩

end History

end Flashcards

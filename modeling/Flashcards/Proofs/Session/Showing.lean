import Flashcards.Proofs.Hoist.Gain
import Flashcards.Proofs.Page.Message
import Flashcards.Session.Basic

/-!
# What a session shows

What the operations of a session do to the page, by its layout. Registering models leaves alone what is shown (`Session.Undisturbed`).
Beginning to select a deck sets the title and the controls; ending it, with cards, without notes or with a failure, fills the container
of the cards, and the page then shows what the selection came to (`Session.Shows`).
-/

namespace Flashcards

open Text Markup Markup.Node

namespace Session

/-! ## What stays -/

/-- The newest selection and its deck are the same. -/
structure SameDeck (s s' : Session) : Prop where
  token : s'.token = s.token
  current : s'.current = s.current

theorem SameDeck.trans {s s' s'' : Session} (h : s.SameDeck s') (h' : s'.SameDeck s'') : s.SameDeck s'' :=
  ⟨h'.token.trans h.token, h'.current.trans h.current⟩

theorem fail_sameDeck (selection : Selection) (failure : Failure) (s : Session) : s.SameDeck (s.fail selection failure).1 := by
  rw [fail]
  split <;> exact ⟨rfl, rfl⟩

theorem renderFrom_sameDeck (node : DeckNode) (total : Nat) (notes : List Note) :
    ∀ (done : Nat) (s : Session), s.SameDeck (s.renderFrom node total done notes).1 := by
  induction notes with
  | nil => exact fun _ s => ⟨rfl, rfl⟩
  | cons note notes ih =>
    intro done s
    rw [renderFrom]
    split
    · exact ⟨rfl, rfl⟩
    · exact ⟨(ih _ _).token, (ih _ _).current⟩

theorem renderDeck_sameDeck (node : DeckNode) (notes : List Note) (s : Session) : s.SameDeck (s.renderDeck node notes).1 := by
  have hf := renderFrom_sameDeck node notes.length notes 0 s.clearTable
  rw [renderDeck]
  dsimp only
  split
  · exact ⟨rfl, rfl⟩
  · split <;> rename_i h <;> rw [h] at hf <;> exact ⟨hf.token, hf.current⟩

theorem showDeck_sameDeck (selection : Selection) (notes : List Note) (models : Option Json) (s : Session) :
    s.SameDeck (s.showDeck selection notes models).1 := by
  have hr : s.SameDeck (s.register ((models.map NoteModel.listOf).getD [])).1 := ⟨rfl, rfl⟩
  rw [showDeck]
  generalize s.register ((models.map NoteModel.listOf).getD []) = p at hr ⊢
  obtain ⟨s', failure⟩ := p
  cases failure with
  | some failure => exact hr
  | none =>
    dsimp only
    split
    · exact hr.trans (renderDeck_sameDeck _ _ _)
    · exact hr

/-- The page of a session has a layout, with a title and a mode. -/
def Titled (deck mode : Option Text) (s : Session) : Prop := ∃ l : Layout, s.page.LaidOut l ∧ l.deck = deck ∧ l.mode = mode

/-- A session to whose page style sheets and libraries have been added, and to which nothing else has happened that shows. -/
structure Aside (s s' : Session) : Prop where
  gains : s.workspace.Gains s'.workspace
  deferred : s'.workspace.deferred = s.workspace.deferred
  deal : s'.deal = s.deal
  same : s.SameDeck s'

/-- What a session shows of a deck has not been changed: the title in both its places, the controls, the current deck, where its cards
are, the waiting scripts and the scripts run; and neither have the cards, if none of them has an element of the name of the region
for libraries. -/
structure Undisturbed (s s' : Session) : Prop where
  title : s'.page.byId? Page.titleId = s.page.byId? Page.titleId
  pageTitle : s'.page.find? (isNamed "title") = s.page.find? (isNamed "title")
  controls : s'.page.byId? Page.controlsId = s.page.byId? Page.controlsId
  current : s'.current = s.current
  deal : s'.deal = s.deal
  deferred : s'.workspace.deferred = s.workspace.deferred
  executed : s'.page.executed = s.page.executed
  cards : carry Page.libraryId s.page.cards = false → s'.page.cards = s.page.cards ∧ s'.cards = s.cards

/-- What does not touch the page, the current deck and the cards happens aside. -/
theorem Aside.of_eq {s s' : Session} (hw : s'.workspace = s.workspace) (hd : s'.deal = s.deal) (hs : s.SameDeck s') : s.Aside s' :=
  ⟨Workspace.Gains.of_page (by rw [hw]), by rw [hw], hd, hs⟩

theorem Aside.refl (s : Session) : s.Aside s := Aside.of_eq rfl rfl ⟨rfl, rfl⟩

/-- What happens aside does not disturb what is shown. -/
theorem Aside.undisturbed {s s' : Session} (h : s.Aside s') {l : Layout} (hl : s.page.LaidOut l) : s.Undisturbed s' := by
  obtain ⟨l', hl', hgain⟩ := h.gains.layout l hl
  have hl'' : s'.page.LaidOut l' := hl'
  have hr : l'.regions.title = l.regions.title ∧ l'.regions.pageTitle = l.regions.pageTitle := by
    simp only [Layout.regions, hgain.deck, and_self]
  have hm : l'.regions.controls = l.regions.controls ∧ l'.regions.mode = l.regions.mode := by
    simp only [Layout.regions, hgain.mode, and_self]
  refine ⟨?_, ?_, ?_, h.same.current, h.deal, h.deferred, h.gains.executed, fun hc => ?_⟩
  · rw [Page.byId?_title hl'', Page.byId?_title hl, hr.1]
  · rw [Page.find?_pageTitle hl'', Page.find?_pageTitle hl, hr.2]
  · rw [Page.byId?_controls hl'', Page.byId?_controls hl, hm.1, hm.2]
  · have hcards : s'.page.cards = s.page.cards := by
      rw [Page.cards_eq hl] at hc ⊢
      rw [Page.cards_eq hl'', hgain.cards hc]
    refine ⟨hcards, ?_⟩
    rw [Session.cards, Session.cards, hcards, h.deal]

/-- What happens aside keeps the title and the mode. -/
theorem Aside.titled {s s' : Session} (h : s.Aside s') {deck mode : Option Text} (ht : s.Titled deck mode) : s'.Titled deck mode := by
  obtain ⟨l, hl, hd, hm⟩ := ht
  obtain ⟨l', hl', hgain⟩ := h.gains.layout l hl
  exact ⟨l', hl', hgain.deck.trans hd, hgain.mode.trans hm⟩

/-- An element of the name of the region for libraries stays in the cards, whatever happens aside. -/
theorem Aside.carry {s s' : Session} (h : s.Aside s') {l : Layout} (hl : s.page.LaidOut l)
    (hc : Markup.Node.carry Page.libraryId s.page.cards = true) : Markup.Node.carry Page.libraryId s'.page.cards = true := by
  obtain ⟨l', hl', hgain⟩ := h.gains.layout l hl
  have hl'' : s'.page.LaidOut l' := hl'
  rw [Page.cards_eq hl] at hc
  rw [Page.cards_eq hl'']
  exact hgain.carry hc

/-- Models are registered, and the libraries of their templates taken in, aside. -/
theorem register_aside (models : List NoteModel) (s : Session) : s.Aside (s.register models).1 := by
  obtain ⟨hg, hd⟩ := s.workspace.preloadAll_gains (Workspace.templateTexts models)
  exact ⟨hg, hd, rfl, ⟨rfl, rfl⟩⟩

/-- The models that all decks share are taken in aside. -/
theorem takeRootModels_aside (resource : Option Json) (s : Session) : s.Aside (s.takeRootModels resource).1 := by
  cases resource with
  | none => exact Aside.refl s
  | some data =>
    have hr := s.register_aside (NoteModel.listOf data)
    rw [takeRootModels]
    generalize s.register (NoteModel.listOf data) = r at hr ⊢
    obtain ⟨s', failure⟩ := r
    cases failure with
    | some failure => exact hr
    | none => exact ⟨hr.gains, hr.deferred, hr.deal, ⟨hr.same.token, hr.same.current⟩⟩

/-! ## The selection of a deck begun -/

section Showing

variable {s : Session} {l : Layout}

/-- A message whose markup is not rejected stands in the place of the cards. -/
theorem showMessage_laidOut {p : Page} (hl : p.LaidOut l) {markup : Text} {nodes : List Node}
    (hf : Page.fragment markup = .ok nodes) : (p.showMessage markup).1.LaidOut { l with cards := nodes } := by
  rw [Page.showMessage, hf]
  exact Page.showNodes_laidOut hl nodes

/-- A selection that has begun has its title on the page, and the word that the deck is being loaded. -/
theorem select_laidOut (hl : s.page.LaidOut l) (node : DeckNode) :
    (s.select node).page.LaidOut
      { l with deck := some node.name, mode := some s.mode.name, cards := [Page.plain Chrome.loading] } :=
  showMessage_laidOut (Page.setControls_laidOut (Page.setTitle_laidOut hl node.name) s.mode.name) Page.fragment_loading

/-! ## The selection of a deck ended -/

/-- The page shows what a selection came to: its cards, or that there are none, or why it failed. -/
def Shows (r : DeckResult) (s : Session) : Prop :=
  s.cards = r.cards ∧
    match r.status with
    | .rendered => s.page.cards = r.cards.map Card.element
    | .empty => s.page.cards = [Page.noNotesBox]
    | .failed => ∃ failure, r.error = some failure ∧ s.page.cards = [Page.errorBox failure.message]
    | .superseded => False

theorem Shows.status_ne {r : DeckResult} {s : Session} (h : s.Shows r) : r.status ≠ .superseded := by
  intro hs
  rw [Shows, hs] at h
  exact h.2

/-- What a session shows depends on its page's cards and its own. -/
theorem Shows.congr {r : DeckResult} {s s' : Session} (hs : s.Shows r) (hp : s'.page.cards = s.page.cards) (hc : s'.cards = s.cards) :
    s'.Shows r := by
  rw [Shows, hp, hc]
  exact hs

theorem fail_of_overtaken {selection : Selection} (h : s.isNewest selection = false) (failure : Failure) :
    s.fail selection failure = (s, superseded selection (some failure)) := by
  rw [fail, h, if_neg Bool.false_ne_true]

/-- The layout of a page after its scripts have been reset keeps the title and the mode. -/
theorem reset_titled (l : Layout) : l.reset.deck = l.deck ∧ l.reset.mode = l.mode := by
  rw [Layout.reset]
  split <;> exact ⟨rfl, rfl⟩

/-- A failure of the newest selection stands on the page. -/
theorem fail_of_newest {selection : Selection} (hl : s.page.LaidOut l) (h : s.isNewest selection = true) (failure : Failure) :
    (s.fail selection failure).2 = ⟨selection.node, .failed, [], 0, some failure⟩ ∧
      (s.fail selection failure).1.Titled l.deck l.mode ∧
      (s.fail selection failure).1.Shows (s.fail selection failure).2 := by
  have hm := showMessage_laidOut (Page.resetScripts_laidOut hl) (Page.fragment_errorMarkup failure.message)
  rw [fail, h, if_pos rfl]
  refine ⟨rfl, ⟨_, hm, reset_titled l⟩, rfl, failure, rfl, ?_⟩
  exact Page.cards_eq hm

/-! ### Cards -/

/-- Cards stand in the page: each node in the container is a card, and the session knows which side it shows. -/
def Dealt (deck mode : Option Text) (s : Session) : Prop :=
  ∃ (l : Layout) (sides : List (Option Side)),
    s.page.LaidOut l ∧ l.deck = deck ∧ l.mode = mode ∧ s.deal = .standing sides ∧ l.cards.length = sides.length

variable {deck mode : Option Text}

theorem Dealt.titled (h : s.Dealt deck mode) : s.Titled deck mode := by
  obtain ⟨l, sides, hl, hd, hm, _⟩ := h
  exact ⟨l, hl, hd, hm⟩

/-- The cards that stand in the page are the nodes in the container. -/
theorem Dealt.map_element (h : s.Dealt deck mode) : s.cards.map Card.element = s.page.cards := by
  obtain ⟨l, sides, hl, _, _, hd, hn⟩ := h
  rw [← Page.cards_eq hl] at hn
  simp only [Session.cards, hd]
  clear hd hl
  generalize s.page.cards = nodes at hn ⊢
  induction nodes generalizing sides with
  | nil => simp
  | cons n ns ih =>
    cases sides with
    | nil => nomatch hn
    | cons side sides => simpa using ih sides (by simpa using hn)

theorem clearTable_dealt (hl : s.page.LaidOut l) : s.clearTable.Dealt l.deck l.mode :=
  ⟨_, [], Page.resetScripts_laidOut (Page.clearCards_laidOut hl), rfl, rfl, rfl, rfl⟩

/-- Style sheets and libraries may be added. -/
theorem Dealt.gains (h : s.Dealt deck mode) {w : Workspace} (hg : s.workspace.Gains w) :
    ({ s with workspace := w } : Session).Dealt deck mode := by
  obtain ⟨l, sides, hl, hd, hm, hs, hn⟩ := h
  obtain ⟨l', hl', hgain⟩ := hg.layout l hl
  exact ⟨l', sides, hl', hgain.deck.trans hd, hgain.mode.trans hm, hs, hgain.size.trans hn⟩

theorem placeCard_dealt (h : s.Dealt deck mode) (card : Card) : (s.placeCard card).Dealt deck mode := by
  obtain ⟨l, sides, hl, hd, hm, hs, hn⟩ := h
  refine ⟨_, sides ++ [card.side], Page.appendCard_laidOut hl card.element, hd, hm, ?_, ?_⟩
  · simp only [placeCard, hs]
  · simp only [List.length_append, hn, List.length_singleton]

theorem notify_dealt (h : s.Dealt deck mode) (n : Notice) : (s.notify n).Dealt deck mode := h

end Showing

end Session

namespace Card

/-- A card that is made adds to the page what its faces give up, also where it cannot be made. -/
theorem render_gains (note : Note) (model : Option NoteModel) (mode : RenderMode) (w : Workspace) :
    w.Gains (render note model mode w).1 := by
  have hf : ∀ (m : NoteModel) template, w.Gains (fromTemplate note m template w).1 := by
    intro m template
    rw [fromTemplate_eq]
    exact Workspace.take_gains _ w
  cases mode with
  | raw => exact Workspace.Gains.refl w
  | model =>
    cases model with
    | none => exact Workspace.Gains.refl w
    | some m =>
      rw [render]
      cases m.firstTemplate? with
      | none => exact Workspace.Gains.refl w
      | some template => exact hf m template

end Card

namespace Session

variable {s : Session} {l : Layout} {deck mode : Option Text}

/-- Rendering notes keeps the cards in the page, also where a note cannot be rendered. -/
theorem renderFrom_dealt (node : DeckNode) (total : Nat) (notes : List Note) :
    ∀ (done : Nat) {s : Session}, s.Dealt deck mode → (s.renderFrom node total done notes).1.Dealt deck mode := by
  induction notes with
  | nil => exact fun _ _ h => h
  | cons note notes ih =>
    intro done s h
    have hg := Card.render_gains note (s.models.resolve note) s.mode s.workspace
    rw [renderFrom]
    split
    · rename_i w failure hr
      rw [hr] at hg
      exact h.gains hg
    · rename_i w card hr
      rw [hr] at hg
      exact ih _ (notify_dealt (placeCard_dealt (h.gains hg) card) _)

/-- Running a script puts it in its region, or in the cards, of which there are as many as before. -/
theorem run_dealt (h : s.Dealt deck mode) (content : Text) : (s.onPage fun p => p.runScript content).Dealt deck mode := by
  obtain ⟨l, sides, hl, hd, hm, hs, hn⟩ := h
  have hrun : (l.run content).deck = l.deck ∧ (l.run content).mode = l.mode ∧
      (l.run content).cards.length = l.cards.length := by
    rw [Layout.run]
    split
    · rename_i cards hc
      exact ⟨rfl, rfl, length_updateFirstAmong? hc⟩
    · exact ⟨rfl, rfl, rfl⟩
  exact ⟨l.run content, sides, Page.runScript_laidOut hl content, hrun.1.trans hd, hrun.2.1.trans hm, hs, hrun.2.2.trans hn⟩

theorem runDeferred_dealt (h : s.Dealt deck mode) : s.runDeferred.Dealt deck mode := by
  have hfold : ∀ (scripts : List Text) {s : Session}, s.Dealt deck mode →
      (s.onPage fun p => scripts.foldl (fun p t => p.runScript t) p).Dealt deck mode := by
    intro scripts
    induction scripts with
    | nil => exact fun h => h
    | cons t scripts ih => exact fun h => ih (run_dealt h t)
  exact hfold s.workspace.deferred.items h

/-- A deck that is rendered keeps its title, and what it comes to stands on the page, if it does not fail. -/
theorem renderDeck_shows (hl : s.page.LaidOut l) (node : DeckNode) (notes : List Note) :
    (s.renderDeck node notes).1.Titled l.deck l.mode ∧
      ∀ r, (s.renderDeck node notes).2 = .ok r → r.deck = node ∧ (s.renderDeck node notes).1.Shows r := by
  rw [renderDeck]
  dsimp only
  split
  · have hm := showMessage_laidOut (Page.resetScripts_laidOut (Page.clearCards_laidOut hl)) Page.fragment_noNotes
    refine ⟨⟨_, hm, rfl, rfl⟩, fun r hr => ?_⟩
    obtain rfl := Except.ok.inj hr
    exact ⟨rfl, rfl, Page.cards_eq hm⟩
  · have hd := renderFrom_dealt node notes.length notes 0 (clearTable_dealt hl)
    split
    · rename_i s' failure hr
      rw [hr] at hd
      exact ⟨hd.titled, fun r h => nomatch h⟩
    · rename_i s' hr
      rw [hr] at hd
      have hd' := runDeferred_dealt hd
      refine ⟨(notify_dealt hd' _).titled, fun r h => ?_⟩
      obtain rfl := Except.ok.inj h
      exact ⟨rfl, rfl, (notify_dealt hd' _).map_element.symm⟩

/-- The selection of a deck that another has overtaken registers its models, and nothing else. -/
theorem showDeck_of_overtaken {selection : Selection} (h : s.isNewest selection = false) (notes : List Note) (models : Option Json) :
    s.Aside (s.showDeck selection notes models).1 ∧
      ∀ r, (s.showDeck selection notes models).2 = .ok r → r = superseded selection none := by
  have hr := s.register_aside ((models.map NoteModel.listOf).getD [])
  rw [showDeck]
  generalize s.register ((models.map NoteModel.listOf).getD []) = p at hr ⊢
  obtain ⟨s', failure⟩ := p
  cases failure with
  | some failure => exact ⟨hr, fun r h => nomatch h⟩
  | none =>
    have hn : s'.isNewest selection = false := by rw [isNewest, hr.same.token]; exact h
    simp only [hn, Bool.false_eq_true, if_false]
    exact ⟨hr, fun r h => (Except.ok.inj h).symm⟩

/-- The newest selection registers its models and renders its deck. -/
theorem showDeck_of_newest {selection : Selection} (hl : s.page.LaidOut l) (h : s.isNewest selection = true) (notes : List Note)
    (models : Option Json) :
    (s.showDeck selection notes models).1.Titled l.deck l.mode ∧
      ∀ r, (s.showDeck selection notes models).2 = .ok r →
        r.deck = selection.node ∧ (s.showDeck selection notes models).1.Shows r := by
  have hr := s.register_aside ((models.map NoteModel.listOf).getD [])
  rw [showDeck]
  generalize s.register ((models.map NoteModel.listOf).getD []) = p at hr ⊢
  obtain ⟨s', failure⟩ := p
  obtain ⟨l', hl', hd, hm⟩ := hr.titled ⟨l, hl, rfl, rfl⟩
  cases failure with
  | some failure => exact ⟨⟨l', hl', hd, hm⟩, fun r h => nomatch h⟩
  | none =>
    have hn : s'.isNewest selection = true := by rw [isNewest, hr.same.token]; exact h
    obtain ⟨ht, hs⟩ := renderDeck_shows hl' selection.node notes
    rw [hd, hm] at ht
    simp only [hn, if_true]
    exact ⟨ht, hs⟩

end Session

end Flashcards

import Flashcards.Proofs.Session.Rejection
import Flashcards.Proofs.Session.Showing

/-!
# What a deck's cards depend on

Two sessions are alike (`Session.Alike`) if the same cards stand in their pages, the same scripts wait and have been run, and they are in
the same mode; their models, the addresses claimed, and the libraries and style sheets taken in may differ. Sessions that are alike stay
alike when the same notes are rendered in both (`Session.renderFrom_alike`), as long as the notes lead to the same models, and no card has
an element of the name of the region for libraries: a library goes to the first element of that name, and which libraries are new depends
on what has been shown before.

So the cards of a deck, and the scripts run for it, depend on the deck and on the models its notes lead to (`Session.showDeck_alike`).
-/

namespace Flashcards

open Text Markup Markup.Node

/-- Whether a card can be made, and what it is, and which scripts wait then, does not depend on the page. -/
theorem Card.render_congr (note : Note) (model : Option NoteModel) (mode : RenderMode) {w w' : Workspace}
    (hd : w.deferred = w'.deferred) :
    (Card.render note model mode w).2 = (Card.render note model mode w').2 ∧
      (Card.render note model mode w).1.deferred = (Card.render note model mode w').1.deferred := by
  rw [Card.render_eq, Card.render_eq]
  cases NoteModel.templateIn? mode model with
  | none => exact ⟨rfl, hd⟩
  | some found =>
    obtain ⟨m, template⟩ := found
    dsimp only
    rw [Card.fromTemplate_eq, Card.fromTemplate_eq]
    exact ⟨rfl, Workspace.take_deferred_congr _ hd⟩

namespace Session

variable {s s' s'' t : Session}

/-! ## Elements of the name of the region for libraries -/

/-- A session whose cards have an element of the name of the region for libraries if they had one before. -/
def Keeps (s s' : Session) : Prop :=
  ∀ l : Layout, s.page.LaidOut l → ∃ l' : Layout, s'.page.LaidOut l' ∧
    (carry Page.libraryId l.cards = true → carry Page.libraryId l'.cards = true)

theorem Keeps.refl (s : Session) : s.Keeps s := fun l hl => ⟨l, hl, id⟩

theorem Keeps.trans (h : s.Keeps s') (h' : s'.Keeps s'') : s.Keeps s'' := by
  intro l hl
  obtain ⟨l', hl', hc⟩ := h l hl
  obtain ⟨l'', hl'', hc'⟩ := h' l' hl'
  exact ⟨l'', hl'', fun h => hc' (hc h)⟩

/-- Where there is no such element, there was none before. -/
theorem Keeps.carry_eq_false (h : s.Keeps s') {l : Layout} (hl : s.page.LaidOut l) (hc : carry Page.libraryId s'.page.cards = false) :
    carry Page.libraryId s.page.cards = false := by
  obtain ⟨l', hl', hkeep⟩ := h l hl
  rw [Page.cards_eq hl'] at hc
  rw [Page.cards_eq hl, Bool.eq_false_iff]
  exact fun ht => Bool.false_ne_true (hc.symm.trans (hkeep ht))

theorem keeps_gains {w : Workspace} (h : s.workspace.Gains w) : s.Keeps { s with workspace := w } := by
  intro l hl
  obtain ⟨l', hl', hgain⟩ := h.layout l hl
  exact ⟨l', hl', hgain.carry⟩

theorem keeps_placeCard (card : Card) (s : Session) : s.Keeps (s.placeCard card) := by
  intro l hl
  refine ⟨_, Page.appendCard_laidOut hl card.element, fun h => ?_⟩
  rw [carry, preorderAll_append, List.any_append, Bool.or_eq_true]
  exact Or.inl h

theorem keeps_notify (n : Notice) (s : Session) : s.Keeps (s.notify n) := fun l hl => ⟨l, hl, id⟩

theorem keeps_runScript (content : Text) (s : Session) : s.Keeps (s.onPage fun p => p.runScript content) := by
  intro l hl
  refine ⟨_, Page.runScript_laidOut hl content, fun h => ?_⟩
  rw [Layout.run]
  split
  · rename_i cards hc
    exact carry_of_appendChild hc h
  · exact h

theorem keeps_renderFrom (node : DeckNode) (total : Nat) (notes : List Note) (done : Nat) (s : Session) :
    s.Keeps (s.renderFrom node total done notes).1 := by
  induction notes generalizing done s with
  | nil => exact Keeps.refl s
  | cons note notes ih =>
    have hg := keeps_gains (Card.render_gains note (s.models.resolve note) s.mode s.workspace)
    rw [renderFrom]
    split
    · rename_i w failure hr
      rw [hr] at hg
      exact hg
    · rename_i w card hr
      rw [hr] at hg
      exact ((hg.trans (keeps_placeCard card _)).trans (keeps_notify _ _)).trans (ih _ _)

/-! ## Sessions that are alike -/

/-- The same cards stand in the pages of two sessions, the same scripts wait and have been run, and they are in the same mode. -/
structure Alike (s t : Session) : Prop where
  left : ∃ l : Layout, s.page.LaidOut l
  right : ∃ l : Layout, t.page.LaidOut l
  cards : s.page.cards = t.page.cards
  deferred : s.workspace.deferred = t.workspace.deferred
  executed : s.page.executed = t.page.executed
  mode : s.mode = t.mode

/-- Style sheets and libraries may be added to each of two sessions that are alike. -/
theorem Alike.gains (h : s.Alike t) {w w' : Workspace} (hs : s.workspace.Gains w) (ht : t.workspace.Gains w')
    (hd : w.deferred = w'.deferred) (hc : carry Page.libraryId t.page.cards = false) :
    ({ s with workspace := w } : Session).Alike { t with workspace := w' } := by
  obtain ⟨l, hl⟩ := h.left
  obtain ⟨k, hk⟩ := h.right
  obtain ⟨l', hl', hgain⟩ := hs.layout l hl
  obtain ⟨k', hk', hgain'⟩ := ht.layout k hk
  have hsame := h.cards
  rw [Page.cards_eq hl, Page.cards_eq hk] at hsame
  rw [Page.cards_eq hk] at hc
  refine ⟨⟨l', hl'⟩, ⟨k', hk'⟩, ?_, hd, (hs.executed.trans h.executed).trans ht.executed.symm, h.mode⟩
  show w.page.cards = w'.page.cards
  rw [Page.cards_eq hl', Page.cards_eq hk', hgain.cards (hsame ▸ hc), hgain'.cards hc, hsame]

theorem Alike.placeCard (h : s.Alike t) (card : Card) : (s.placeCard card).Alike (t.placeCard card) := by
  obtain ⟨l, hl⟩ := h.left
  obtain ⟨k, hk⟩ := h.right
  have hsame := h.cards
  rw [Page.cards_eq hl, Page.cards_eq hk] at hsame
  refine ⟨⟨_, Page.appendCard_laidOut hl card.element⟩, ⟨_, Page.appendCard_laidOut hk card.element⟩, ?_, h.deferred, h.executed, h.mode⟩
  show (s.page.appendCard card.element).cards = (t.page.appendCard card.element).cards
  rw [Page.cards_eq (Page.appendCard_laidOut hl card.element), Page.cards_eq (Page.appendCard_laidOut hk card.element), hsame]

theorem Alike.notify (h : s.Alike t) (n n' : Notice) : (s.notify n).Alike (t.notify n') :=
  ⟨h.left, h.right, h.cards, h.deferred, h.executed, h.mode⟩

/-- A script goes to the same place in two pages with the same cards, or to the region for scripts. -/
theorem cards_run (l : Layout) (content : Text) :
    (l.run content).cards =
      (updateFirstAmong? (hasId Page.deferredId) (appendChild (Page.inlineScript content)) l.cards).getD l.cards := by
  rw [Layout.run]
  split <;> rename_i hc <;> rw [hc] <;> rfl

theorem Alike.runScript (h : s.Alike t) (content : Text) :
    (s.onPage fun p => p.runScript content).Alike (t.onPage fun p => p.runScript content) := by
  obtain ⟨l, hl⟩ := h.left
  obtain ⟨k, hk⟩ := h.right
  have hsame := h.cards
  rw [Page.cards_eq hl, Page.cards_eq hk] at hsame
  have hl' := Page.runScript_laidOut hl content
  have hk' := Page.runScript_laidOut hk content
  refine ⟨⟨_, hl'⟩, ⟨_, hk'⟩, ?_, h.deferred, congrArg (· ++ [content]) h.executed, h.mode⟩
  show (s.page.runScript content).cards = (t.page.runScript content).cards
  rw [Page.cards_eq hl', Page.cards_eq hk', cards_run, cards_run, hsame]

theorem runDeferred_alike (h : s.Alike t) : s.runDeferred.Alike t.runDeferred := by
  have hfold : ∀ (scripts : List Text) {s t : Session}, s.Alike t →
      (s.onPage fun p => scripts.foldl (fun p t => p.runScript t) p).Alike
        (t.onPage fun p => scripts.foldl (fun p t => p.runScript t) p) := by
    intro scripts
    induction scripts with
    | nil => exact fun h => h
    | cons content scripts ih => exact fun h => ih (h.runScript content)
  rw [runDeferred, runDeferred, h.deferred]
  exact hfold t.workspace.deferred.items h

theorem keeps_runDeferred (s : Session) : s.Keeps s.runDeferred := by
  have hfold : ∀ (scripts : List Text) (s : Session), s.Keeps (s.onPage fun p => scripts.foldl (fun p t => p.runScript t) p) := by
    intro scripts
    induction scripts with
    | nil => exact Keeps.refl
    | cons content scripts ih => exact fun s => (keeps_runScript content s).trans (ih _)
  exact hfold s.workspace.deferred.items s

/-- Sessions in the same mode are alike when the page has been cleared for the cards of a deck. -/
theorem clearTable_alike {l k : Layout} (hl : s.page.LaidOut l) (hk : t.page.LaidOut k) (hm : s.mode = t.mode) :
    s.clearTable.Alike t.clearTable := by
  have hempty : ∀ {p : Page} {l : Layout}, p.LaidOut l → ∃ l' : Layout, p.clearCards.resetScripts.LaidOut l' ∧ l'.cards = [] :=
    fun h => ⟨_, Page.resetScripts_laidOut (Page.clearCards_laidOut h), rfl⟩
  obtain ⟨l', hl', hc⟩ := hempty hl
  obtain ⟨k', hk', hc'⟩ := hempty hk
  refine ⟨⟨l', hl'⟩, ⟨k', hk'⟩, ?_, rfl, rfl, hm⟩
  show s.page.clearCards.resetScripts.cards = t.page.clearCards.resetScripts.cards
  rw [Page.cards_eq hl', Page.cards_eq hk', hc, hc']

/-- Rendering keeps the models and the mode. -/
theorem renderFrom_models (node : DeckNode) (total : Nat) (notes : List Note) (done : Nat) (s : Session) :
    (s.renderFrom node total done notes).1.models = s.models ∧ (s.renderFrom node total done notes).1.mode = s.mode := by
  induction notes generalizing done s with
  | nil => exact ⟨rfl, rfl⟩
  | cons note notes ih =>
    rw [renderFrom]
    split
    · exact ⟨rfl, rfl⟩
    · exact ih _ _

/-- A selection that is brought to its end keeps the mode. -/
theorem showDeck_mode (selection : Selection) (notes : List Note) (models : Option Json) (s : Session) :
    (s.showDeck selection notes models).1.mode = s.mode := by
  have hr : (s.register ((models.map NoteModel.listOf).getD [])).1.mode = s.mode := rfl
  rw [showDeck]
  generalize s.register ((models.map NoteModel.listOf).getD []) = p at hr ⊢
  obtain ⟨s', _ | failure⟩ := p
  · dsimp only at hr ⊢
    split
    · have hf := (renderFrom_models selection.node notes.length notes 0 s'.clearTable).2
      rw [renderDeck]
      dsimp only
      split
      · exact hr
      · split <;> rename_i h <;> rw [h] at hf <;> exact hf.trans hr
    · exact hr
  · exact hr

theorem fail_mode (selection : Selection) (failure : Failure) (s : Session) : (s.fail selection failure).1.mode = s.mode := by
  rw [fail]
  split <;> rfl

theorem takeRootModels_mode (resource : Option Json) (s : Session) : (s.takeRootModels resource).1.mode = s.mode := by
  cases resource with
  | none => rfl
  | some data =>
    have hr : (s.register (NoteModel.listOf data)).1.mode = s.mode := rfl
    rw [takeRootModels]
    generalize s.register (NoteModel.listOf data) = p at hr ⊢
    obtain ⟨s', _ | failure⟩ := p <;> exact hr

/-- Sessions that are alike stay alike when the same notes are rendered, if these lead to the same models, and if there is no element of
the name of the region for libraries in the end. -/
theorem renderFrom_alike (node : DeckNode) (total : Nat) (notes : List Note) (done : Nat) (h : s.Alike t)
    (hm : ∀ note ∈ notes, s.models.resolve note = t.models.resolve note)
    (hc : carry Page.libraryId (t.renderFrom node total done notes).1.page.cards = false) :
    (s.renderFrom node total done notes).1.Alike (t.renderFrom node total done notes).1 := by
  induction notes generalizing done s t with
  | nil => exact h
  | cons note notes ih =>
    obtain ⟨k, hk⟩ := h.right
    have hcarry := (keeps_renderFrom node total (note :: notes) done t).carry_eq_false hk hc
    have hgs := Card.render_gains note (s.models.resolve note) s.mode s.workspace
    have hgt := Card.render_gains note (t.models.resolve note) t.mode t.workspace
    obtain ⟨hcard, hd⟩ := Card.render_congr note (t.models.resolve note) t.mode h.deferred
    rw [← h.mode, ← hm note List.mem_cons_self] at hcard hd hgt
    have hright : Card.render note (t.models.resolve note) t.mode t.workspace =
        Card.render note (s.models.resolve note) s.mode t.workspace := by rw [← h.mode, ← hm note List.mem_cons_self]
    rw [renderFrom, hright] at hc
    rw [renderFrom, renderFrom, hright]
    generalize Card.render note (s.models.resolve note) s.mode s.workspace = r at hcard hd hgs
    generalize Card.render note (s.models.resolve note) s.mode t.workspace = r' at hcard hd hgt hc
    obtain ⟨w, made⟩ := r
    obtain ⟨w', made'⟩ := r'
    obtain rfl : made = made' := hcard
    have halike := h.gains hgs hgt hd hcarry
    cases made with
    | error failure => exact halike
    | ok card =>
      exact ih _ ((halike.placeCard card).notify _ _) (fun note' hmem => hm note' (List.mem_cons_of_mem note hmem)) hc

/-! ## Decks -/

/-- A deck whose selection is brought to its end with cards: its notes have been rendered, with its models registered. -/
theorem showDeck_of_rendered {selection : Selection} {notes : List Note} {models : Option Json} {r : DeckResult}
    (h : (s.showDeck selection notes models).2 = .ok r) (hr : r.status = .rendered) :
    ∃ cleared notice, cleared = (s.register ((models.map NoteModel.listOf).getD [])).1.clearTable ∧
      (s.showDeck selection notes models).1 =
        ((cleared.renderFrom selection.node notes.length 0 notes).1.runDeferred.notify notice) := by
  rw [showDeck] at h ⊢
  generalize s.register ((models.map NoteModel.listOf).getD []) = p at h ⊢
  obtain ⟨s', _ | failure⟩ := p
  · dsimp only at h ⊢
    split at h
    · rename_i hnew
      rw [if_pos hnew]
      rw [renderDeck] at h ⊢
      dsimp only at h ⊢
      split at h
      · rw [← Except.ok.inj h] at hr
        cases hr
      · rename_i hne
        rw [if_neg hne]
        generalize hq : s'.clearTable.renderFrom selection.node notes.length 0 notes = q at h ⊢
        obtain ⟨s'', _ | failure⟩ := q
        · exact ⟨_, _, rfl, by rw [hq]⟩
        · cases h
    · rw [← Except.ok.inj h] at hr
      cases hr
  · cases h

/-- What stands in the pages of two sessions when the same deck has been rendered in both is the same. -/
theorem showDeck_alike {l k : Layout} (hl : s.page.LaidOut l) (hk : t.page.LaidOut k) (hmode : s.mode = t.mode)
    {selection selection' : Selection} (hn : selection.node = selection'.node) {notes : List Note} {models : Option Json}
    {r r' : DeckResult} (hs : (s.showDeck selection notes models).2 = .ok r) (hr : r.status = .rendered)
    (ht : (t.showDeck selection' notes models).2 = .ok r') (hr' : r'.status = .rendered)
    (hm : ∀ note ∈ notes,
      (s.showDeck selection notes models).1.models.resolve note = (t.showDeck selection' notes models).1.models.resolve note)
    (hc : carry Page.libraryId (t.showDeck selection' notes models).1.page.cards = false) :
    (s.showDeck selection notes models).1.Alike (t.showDeck selection' notes models).1 := by
  obtain ⟨cleared, notice, hcleared, heq⟩ := showDeck_of_rendered hs hr
  obtain ⟨cleared', notice', hcleared', heq'⟩ := showDeck_of_rendered ht hr'
  obtain ⟨l', hl', -⟩ := (s.register_aside ((models.map NoteModel.listOf).getD [])).titled ⟨l, hl, rfl, rfl⟩
  obtain ⟨k', hk', -⟩ := (t.register_aside ((models.map NoteModel.listOf).getD [])).titled ⟨k, hk, rfl, rfl⟩
  have halike : cleared.Alike cleared' := by
    rw [hcleared, hcleared']
    exact clearTable_alike hl' hk' hmode
  rw [heq, heq'] at hm ⊢
  rw [heq'] at hc
  rw [hn] at hm ⊢
  have hmodels : ∀ (s : Session) (node : DeckNode) (notice : Notice),
      ((s.renderFrom node notes.length 0 notes).1.runDeferred.notify notice).models = s.models :=
    fun s node _ => (renderFrom_models node notes.length notes 0 s).1
  obtain ⟨k'', hk'', -⟩ := keeps_renderFrom selection'.node notes.length notes 0 cleared' _ halike.right.choose_spec
  refine (runDeferred_alike (renderFrom_alike _ _ _ _ halike (fun note hmem => ?_) ?_)).notify _ _
  · have hnote := hm note hmem
    rwa [hmodels, hmodels] at hnote
  · exact (keeps_runDeferred _).carry_eq_false hk'' hc

end Session

end Flashcards

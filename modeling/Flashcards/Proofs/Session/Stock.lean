import Flashcards.Proofs.Models.Merging
import Flashcards.Proofs.Session.Dealing
import Flashcards.Proofs.Session.Growing

/-!
# What is taken in once

A deck brings its models and the libraries of their templates, and its cards bring what they give up. When it is selected again, all of this is
there already. Fragments bring nothing where all is claimed that had been claimed when they were taken in (`Workspace.preloadAll_again`,
`Card.render_again`), and models that have just been registered change nothing (`Session.register_again`).

So a session in which a deck has been shown has the same stock after the deck is shown there again (`Session.showDeck_takes_nothing`), whatever
has been done to the cards in between.
-/

namespace Flashcards

open Text Markup Markup.Node

/-! ## Fragments -/

namespace Workspace

variable {w₀ w w' : Workspace}

/-- The libraries of fragments that have been taken in, with none rejected, are not taken in again. -/
theorem preloadAll_again {fragments : List Text} (hw : w₀.preloadAll fragments = (w, none)) (hs : w.claimed.items ⊆ w'.claimed.items)
    {l : Layout} (hl : w₀.page.LaidOut l) : w'.preloadAll fragments = (w', none) := by
  induction fragments generalizing w₀ l with
  | nil => rfl
  | cons fragment fragments ih =>
    obtain ⟨rest, w₁, hh, hrest⟩ := exists_strip_of_preloadAll hw
    have hsupplies := strip_supplies true fragment w₀
    rw [hh] at hsupplies
    obtain ⟨l₁, _, _, hl₁, -⟩ := hsupplies l hl
    -- What this fragment claims is still claimed when the others have been taken in.
    have hgrow := (preloadAll_supplies fragments w₁).claimed_subset hl₁
    rw [hrest] at hgrow
    obtain ⟨rest', w₂, hh', hpage, hclaimed, -⟩ := strip_of_taken hh (List.Subset.trans hgrow hs) true
    have hdeferred := strip_librariesOnly_deferred fragment w'
    rw [hh'] at hdeferred
    have hsame : w₂ = w' := eq_of_parts hpage hclaimed hdeferred
    rw [preloadAll, hh', hsame]
    exact ih hrest hl₁

end Workspace

/-- A card that has been made adds nothing to the page when it is made again. -/
theorem Card.render_again {note : Note} {model : Option NoteModel} {mode : RenderMode} {w₀ w w' : Workspace} {card : Card}
    (hw : Card.render note model mode w₀ = (w, .ok card)) (hs : w.claimed.items ⊆ w'.claimed.items) :
    (Card.render note model mode w').1.page = w'.page ∧ (Card.render note model mode w').1.claimed = w'.claimed := by
  rw [render_eq] at hw ⊢
  cases ht : NoteModel.templateIn? mode model with
  | none => exact ⟨rfl, rfl⟩
  | some found =>
    obtain ⟨m, template⟩ := found
    rw [ht] at hw
    dsimp only at hw ⊢
    obtain ⟨markup, -, hleft, -⟩ := exists_of_fromTemplate (congrArg Prod.snd hw)
    rw [fromTemplate_eq] at hw ⊢
    obtain ⟨rfl, -⟩ := Prod.mk.inj hw
    have hstrip : w₀.strip false (facesMarkup note m template) =
        (w₀.take (Harvest.ofFragment false (facesMarkup note m template)), .ok markup) := by rw [Workspace.strip_eq, hleft]
    obtain ⟨rest, w₂, hagain, hpage, hclaimed, -⟩ := Workspace.strip_of_taken hstrip hs false
    rw [Workspace.strip_eq] at hagain
    obtain ⟨rfl, -⟩ := Prod.mk.inj hagain
    exact ⟨hpage, hclaimed⟩

namespace Session

variable {s s' s₁ t : Session} {l : Layout}

/-! ## The stock of a session -/

/-- Two sessions have the same stock: the models, the addresses claimed, and the style sheets and the libraries on the page; and they are in the
same mode. -/
structure SameStock (s t : Session) : Prop where
  mode : t.mode = s.mode
  models : t.models = s.models
  claimed : t.workspace.claimed = s.workspace.claimed
  layout : ∀ l, s.page.LaidOut l → ∃ l' : Layout, t.page.LaidOut l' ∧ l'.links = l.links ∧ l'.library = l.library

/-- What else there is in a session does not count. -/
theorem SameStock.of_eq (hm : t.mode = s.mode) (hmodels : t.models = s.models) (hw : t.workspace = s.workspace) : s.SameStock t := by
  refine ⟨hm, hmodels, by rw [hw], fun l hl => ⟨l, ?_, rfl, rfl⟩⟩
  rw [page, hw]
  exact hl

theorem SameStock.refl (s : Session) : s.SameStock s := SameStock.of_eq rfl rfl rfl

theorem SameStock.trans (h : s.SameStock s') (h' : s'.SameStock t) : s.SameStock t := by
  refine ⟨h'.mode.trans h.mode, h'.models.trans h.models, h'.claimed.trans h.claimed, fun l hl => ?_⟩
  obtain ⟨l', hl', hlinks, hlibrary⟩ := h.layout l hl
  obtain ⟨l'', hl'', hlinks', hlibrary'⟩ := h'.layout l' hl'
  exact ⟨l'', hl'', hlinks'.trans hlinks, hlibrary'.trans hlibrary⟩

/-- A change of the page that adds no style sheet and no library. -/
theorem sameStock_onPage {change : Page → Page}
    (h : ∀ l, s.page.LaidOut l → ∃ l' : Layout, (change s.page).LaidOut l' ∧ l'.links = l.links ∧ l'.library = l.library) :
    s.SameStock (s.onPage change) := ⟨rfl, rfl, rfl, h⟩

theorem sameStock_click (i : Nat) (s : Session) : s.SameStock (s.click i) := by
  unfold click
  split
  · exact SameStock.of_eq rfl rfl rfl
  · split
    · exact ⟨rfl, rfl, rfl, fun l hl => ⟨_, Page.showNodes_laidOut hl _, rfl, rfl⟩⟩
    · exact SameStock.refl s

theorem sameStock_select (node : DeckNode) (s : Session) : s.SameStock (s.select node) :=
  ⟨rfl, rfl, rfl, fun _ hl => ⟨_, select_laidOut hl node, rfl, rfl⟩⟩

theorem sameStock_clearTable (s : Session) : s.SameStock s.clearTable :=
  ⟨rfl, rfl, rfl, fun l hl =>
    ⟨_, Page.resetScripts_laidOut (Page.clearCards_laidOut hl), Layout.reset_resources { l with cards := [] }⟩⟩

theorem sameStock_showMessage (markup : Text) (s : Session) : s.SameStock (s.showMessage markup) :=
  sameStock_onPage fun _ hl => showMessage_resources hl markup

theorem sameStock_placeCard (card : Card) (s : Session) : s.SameStock (s.placeCard card) :=
  ⟨rfl, rfl, rfl, fun _ hl => ⟨_, Page.appendCard_laidOut hl card.element, rfl, rfl⟩⟩

theorem sameStock_notify (n : Notice) (s : Session) : s.SameStock (s.notify n) := SameStock.of_eq rfl rfl rfl

theorem sameStock_runDeferred (s : Session) : s.SameStock s.runDeferred := by
  have hfold : ∀ (scripts : List Text) (s : Session), s.SameStock (s.onPage fun p => scripts.foldl (fun p t => p.runScript t) p) := by
    intro scripts
    induction scripts with
    | nil => exact SameStock.refl
    | cons content scripts ih =>
      intro s
      have hrun : s.SameStock (s.onPage fun p => p.runScript content) :=
        sameStock_onPage fun l hl => ⟨_, Page.runScript_laidOut hl content, l.run_resources content⟩
      exact hrun.trans (ih _)
  exact hfold s.workspace.deferred.items s

theorem sameStock_fail (selection : Selection) (failure : Failure) (s : Session) : s.SameStock (s.fail selection failure).1 := by
  unfold fail
  split
  · have hreset : s.SameStock ({ s with deal := .taken [], workspace := (s.workspace.onPage Page.resetScripts).dropDeferred } : Session) :=
      ⟨rfl, rfl, rfl, fun l hl => ⟨_, Page.resetScripts_laidOut hl, l.reset_resources⟩⟩
    exact hreset.trans (sameStock_showMessage _ _)
  · exact SameStock.refl s

/-! ## A deck that is shown again -/

/-- Models that have been registered are registered again, and nothing changes. -/
theorem register_again {models : List NoteModel} {keys : Collection} (hkeys : s.models.keys = keys.items)
    (hr : s.register models = (s₁, none)) (hl : s.page.LaidOut l) (hmodels : t.models = s₁.models)
    (hs : s₁.workspace.claimed.items ⊆ t.workspace.claimed.items) : t.register models = (t, none) := by
  unfold register Workspace.preload at hr ⊢
  generalize hp : s.workspace.preloadAll (Workspace.templateTexts models) = p at hr
  obtain ⟨w, failure⟩ := p
  obtain ⟨rfl, rfl⟩ := Prod.mk.inj hr
  have hmerge : t.models.merge models = t.models := by
    rw [hmodels]
    exact ModelRegistry.merge_merge_self models s.models hkeys
  rw [Workspace.preloadAll_again hp hs hl, hmerge]

/-- A card that has been made is made again, and nothing is taken in. -/
theorem render_again {note : Note} {model : Option NoteModel} {mode : RenderMode} {w₀ w : Workspace} {card : Card}
    (hw : Card.render note model mode w₀ = (w, .ok card)) (hs : w.claimed.items ⊆ t.workspace.claimed.items) :
    ∃ w', Card.render note model mode t.workspace = (w', .ok card) ∧ t.SameStock { t with workspace := w' } := by
  have hsame := (Card.render_blank note model mode w₀).trans (Card.render_blank note model mode t.workspace).symm
  have hagain := Card.render_again hw hs
  rw [hw] at hsame
  generalize Card.render note model mode t.workspace = p at hagain hsame ⊢
  obtain ⟨w', made⟩ := p
  obtain rfl : .ok card = made := hsame
  obtain ⟨hpage, hclaimed⟩ := hagain
  refine ⟨w', rfl, rfl, rfl, hclaimed, fun l hl => ⟨l, ?_, rfl, rfl⟩⟩
  show w'.page.LaidOut l
  rw [hpage]
  exact hl

/-- Notes that have been rendered are rendered again, and nothing is taken in. -/
theorem renderFrom_again (node : DeckNode) (total : Nat) (notes : List Note) (done : Nat)
    (hr : s.renderFrom node total done notes = (s', none)) (hl : s.page.LaidOut l) (hmodels : t.models = s.models)
    (hmode : t.mode = s.mode) (hs : s'.workspace.claimed.items ⊆ t.workspace.claimed.items) :
    ∃ t', t.renderFrom node total done notes = (t', none) ∧ t.SameStock t' := by
  induction notes generalizing done s t l with
  | nil => exact ⟨t, rfl, SameStock.refl t⟩
  | cons note notes ih =>
    have hsupplies := Card.render_supplies note (s.models.resolve note) s.mode s.workspace
    have hnote : Card.render note (t.models.resolve note) t.mode t.workspace =
        Card.render note (s.models.resolve note) s.mode t.workspace := by rw [hmodels, hmode]
    rw [renderFrom] at hr
    rw [renderFrom, hnote]
    cases hcard : Card.render note (s.models.resolve note) s.mode s.workspace with
    | mk w made =>
      rw [hcard] at hr hsupplies
      cases made with
      | error failure => cases hr
      | ok card =>
        obtain ⟨l₁, _, _, hl₁, -⟩ := hsupplies l hl
        have hplaced : ((({ s with workspace := w } : Session).placeCard card).notify (Notice.progress node.name (done + 1) total)).page.LaidOut
            { l₁ with cards := l₁.cards ++ [card.element] } := Page.appendCard_laidOut hl₁ card.element
        -- What this card claims is still claimed when the others have been made.
        have hgrow := (renderFrom_supplies node total notes (done + 1) _).claimed_subset hplaced
        dsimp only at hr
        rw [hr] at hgrow
        obtain ⟨w', hmade, htaken⟩ := render_again (t := t) hcard (List.Subset.trans hgrow hs)
        rw [hmade]
        obtain ⟨t', ht', hstock⟩ := ih (done + 1) hr hplaced (t := (({ t with workspace := w' } : Session).placeCard card).notify
          (Notice.progress node.name (done + 1) total)) hmodels hmode (htaken.claimed.symm ▸ hs)
        exact ⟨t', ht', htaken.trans ((sameStock_placeCard card { t with workspace := w' }).trans
          ((sameStock_notify _ _).trans hstock))⟩

/-- A deck whose notes have been rendered is rendered again, and nothing is taken in. -/
theorem renderDeck_again {node : DeckNode} {notes : List Note} (hnotes : notes ≠ [])
    (hr : s.clearTable.renderFrom node notes.length 0 notes = (s', none)) (hl : s.page.LaidOut l) (hmodels : t.models = s.models)
    (hmode : t.mode = s.mode) (hs : s'.workspace.claimed.items ⊆ t.workspace.claimed.items) :
    ∃ r, (t.renderDeck node notes).2 = .ok r ∧ r.status = .rendered ∧ t.SameStock (t.renderDeck node notes).1 := by
  have hempty : ¬ notes.isEmpty = true := fun h => hnotes (List.isEmpty_iff.1 h)
  have hcleared : s.clearTable.page.LaidOut _ := Page.resetScripts_laidOut (Page.clearCards_laidOut hl)
  obtain ⟨t', ht', hstock⟩ := renderFrom_again node notes.length notes 0 hr hcleared (t := t.clearTable) hmodels hmode hs
  rw [renderDeck, if_neg hempty, ht']
  exact ⟨_, rfl, rfl, (sameStock_clearTable t).trans (hstock.trans ((sameStock_runDeferred t').trans (sameStock_notify _ _)))⟩

/-- A deck without notes takes nothing in. -/
theorem renderDeck_nil (node : DeckNode) (t : Session) :
    ∃ r, (t.renderDeck node []).2 = .ok r ∧ r.status = .empty ∧ t.SameStock (t.renderDeck node []).1 := by
  have hcleared : t.SameStock ({ t.clearTable with deal := .taken [] } : Session) :=
    (sameStock_clearTable t).trans (SameStock.of_eq rfl rfl rfl)
  exact ⟨_, rfl, rfl, hcleared.trans (sameStock_showMessage Chrome.noNotes _)⟩

section Again

variable {selection selection' : Selection} {notes : List Note} {own : Option Json} {r : DeckResult}

/-- A selection that has been brought to its end with a result has had its models registered, and none rejected. -/
theorem registered_of_ok (hok : (s.showDeck selection notes own).2 = .ok r) :
    ∃ s₁, s.register ((own.map NoteModel.listOf).getD []) = (s₁, none) := by
  cases hp : (s.register ((own.map NoteModel.listOf).getD [])).2 with
  | none => exact ⟨_, Prod.ext rfl hp⟩
  | some failure =>
    rw [showDeck_of_rejected hp] at hok
    cases hok

/-- A deck that has been shown is shown again, and nothing is taken in. -/
theorem showDeck_takes_nothing {keys : Collection} (hkeys : s.models.keys = keys.items) (hl : s.page.LaidOut l)
    (hnew : s.isNewest selection = true) (hok : (s.showDeck selection notes own).2 = .ok r)
    (hstock : (s.showDeck selection notes own).1.SameStock t) (hnew' : t.isNewest selection' = true)
    (hnode : selection'.node = selection.node) :
    ∃ r', (t.showDeck selection' notes own).2 = .ok r' ∧ r'.status = r.status ∧ t.SameStock (t.showDeck selection' notes own).1 := by
  obtain ⟨s₁, hregister⟩ := registered_of_ok hok
  have hb := brought_of_ok hok
  generalize (s.showDeck selection notes own).1 = s' at hb hstock
  have hsupplies := s.register_supplies ((own.map NoteModel.listOf).getD [])
  rw [hregister] at hsupplies
  obtain ⟨l₁, _, _, hl₁, -⟩ := hsupplies l hl
  have hshow : t.models = s₁.models → s₁.workspace.claimed.items ⊆ t.workspace.claimed.items →
      t.showDeck selection' notes own = t.renderDeck selection.node notes := by
    intro hmodels hclaimed
    have hagain := register_again hkeys hregister hl hmodels hclaimed
    rw [showDeck_of_registered (by rw [hagain]) hnew', hagain, hnode]
  cases hb with
  | overtaken hold =>
    rw [hold] at hnew
    cases hnew
  | empty _ hnotes =>
    subst hnotes
    rw [hregister] at hstock
    have hclaimed : t.workspace.claimed = s₁.workspace.claimed := hstock.claimed
    rw [hshow hstock.models fun a ha => hclaimed ▸ ha]
    exact renderDeck_nil selection.node t
  | @rendered s₂ _ _ hnotes hrender =>
    rw [hregister] at hrender
    have hcleared : s₁.clearTable.page.LaidOut _ := Page.resetScripts_laidOut (Page.clearCards_laidOut hl₁)
    have hkept := renderFrom_models selection.node notes.length notes 0 s₁.clearTable
    have hgrow := (renderFrom_supplies selection.node notes.length notes 0 s₁.clearTable).claimed_subset hcleared
    rw [hrender] at hkept hgrow
    have hmodels : t.models = s₁.models := hstock.models.trans hkept.1
    have hclaimed : t.workspace.claimed = s₂.workspace.claimed := hstock.claimed
    rw [hshow hmodels fun a ha => hclaimed ▸ hgrow ha]
    exact renderDeck_again hnotes hrender hl₁ hmodels (hstock.mode.trans hkept.2) fun a ha => hclaimed ▸ ha

end Again

end Session

end Flashcards

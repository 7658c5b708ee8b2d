import Flashcards.Proofs.Hoist.Growth
import Flashcards.Proofs.Session.Alike
import Flashcards.Proofs.Session.Rejection
import Flashcards.Proofs.Session.Selections

/-!
# How a deck is dealt

What it takes for a selection to be brought to its end with a result is said once (`Session.Brought`). A deck that is rendered has one card
for each of its notes, in order (`Session.Brought.cards`): the card of a note is the one that is made of it with its model, in the mode of
the session, and then grows where scripts go into it (`Note.ShownAs`).
-/

namespace Flashcards

open Text Markup Markup.Node

/-! ## One card -/

/-- A card is what a note is rendered as with the models and in the mode of a session. Scripts may have been put into its element since. -/
def Note.ShownAs (models : ModelRegistry) (mode : RenderMode) (note : Note) (card : Card) : Prop :=
  ∃ made, (Card.render note (models.resolve note) mode Workspace.blank).2 = .ok made ∧ card.side = made.side ∧
    Grows made.element card.element

namespace Card

variable {note : Note} {model : Option NoteModel} {mode : RenderMode} {w : Workspace}

/-- What a note is rendered as does not depend on the page. -/
theorem render_blank (note : Note) (model : Option NoteModel) (mode : RenderMode) (w : Workspace) :
    (render note model mode w).2 = (render note model mode Workspace.blank).2 := by
  rw [render_eq, render_eq]
  split
  · rename_i m template _
    rw [fromTemplate_eq, fromTemplate_eq]
  · rfl

/-- A card that is made adds to the page, also where it cannot be made. -/
theorem render_adds (note : Note) (model : Option NoteModel) (mode : RenderMode) (w : Workspace) :
    w.page.Adds (render note model mode w).1.page := by
  rw [render_eq]
  split
  · rw [fromTemplate_eq]
    exact Workspace.take_adds _ w
  · exact Page.Adds.refl

/-- What is made of a note: where there is no template for it in the mode, a raw card; else one with two faces, which shows its front. -/
theorem made_of_render {card : Card} (h : (render note model mode w).2 = .ok card) :
    NoteModel.templateIn? mode model = none ∧ (∃ shown, card = ⟨containerOf shown note, none⟩) ∨
      (NoteModel.templateIn? mode model).isSome = true ∧ ∃ faces, card = ofFaces faces note := by
  rw [render_eq] at h
  cases ht : NoteModel.templateIn? mode model with
  | none =>
    rw [ht] at h
    dsimp only at h
    unfold raw at h
    cases hrows : rowsFrom ((model.map NoteModel.fieldNames).getD []) 0 note.fields with
    | error failure => rw [hrows] at h; cases h
    | ok rows =>
      rw [hrows] at h
      exact Or.inl ⟨rfl, _, (Except.ok.inj h).symm⟩
  | some found =>
    obtain ⟨m, template⟩ := found
    rw [ht] at h
    dsimp only at h
    obtain ⟨-, faces, -, -, rfl⟩ := exists_of_fromTemplate h
    exact Or.inr ⟨rfl, faces, rfl⟩

/-- A card is made of a template exactly if it has a template for it in the mode. -/
theorem templated_of_render {card : Card} (h : (render note model mode w).2 = .ok card) :
    card.templated = (NoteModel.templateIn? mode model).isSome := by
  rcases made_of_render h with ⟨hnone, shown, rfl⟩ | ⟨hsome, faces, rfl⟩
  · rw [hnone]
    rfl
  · rw [hsome]
    rfl

/-- A card that has just been made does not show its back. -/
theorem side_of_render {card : Card} (h : (render note model mode w).2 = .ok card) : card.side ≠ some .back := by
  rcases made_of_render h with ⟨-, shown, rfl⟩ | ⟨-, faces, rfl⟩
  · simp
  · simp [ofFaces]

end Card

/-- There is a template in a mode exactly if cards are shown by their models and there is a model with a template. -/
theorem NoteModel.isSome_templateIn?_iff {mode : RenderMode} {model : Option NoteModel} :
    (templateIn? mode model).isSome = true ↔ mode = .model ∧ ∃ m, model = some m ∧ m.templates ≠ [] := by
  cases mode with
  | raw => simp [templateIn?]
  | model =>
    cases model with
    | none => simp [templateIn?]
    | some m => cases ht : m.templates <;> simp [templateIn?, firstTemplate?, ht]

/-- A card that shows a note is templated exactly if cards are shown by their models and the note's model has a template. -/
theorem Note.ShownAs.templated_iff {models : ModelRegistry} {mode : RenderMode} {note : Note} {card : Card}
    (h : note.ShownAs models mode card) :
    card.templated = true ↔ mode = .model ∧ ∃ m, models.resolve note = some m ∧ m.templates ≠ [] := by
  obtain ⟨made, hmade, hside, -⟩ := h
  rw [Card.templated, hside, ← Card.templated, Card.templated_of_render hmade]
  exact NoteModel.isSome_templateIn?_iff

namespace Session

variable {s s' : Session} {deck mode : Option Text}

/-! ## All cards -/

/-- The cards of a session show notes, one for each, in order. -/
def Deals (models : ModelRegistry) (mode : RenderMode) (notes : List Note) (s : Session) : Prop :=
  List.Forall₂ (Note.ShownAs models mode) notes s.cards

variable {models : ModelRegistry} {m : RenderMode} {notes : List Note}

/-- Cards whose elements have grown go on showing their notes. -/
theorem forall₂_shownAs_of_growAll {ns ns' : List Node} (hgrow : GrowAll ns ns') {sides : List (Option Side)}
    (h : List.Forall₂ (Note.ShownAs models m) notes (ns.zipWith Card.mk sides)) :
    List.Forall₂ (Note.ShownAs models m) notes (ns'.zipWith Card.mk sides) := by
  induction hgrow generalizing notes sides with
  | nil => exact h
  | cons hn _ ih =>
    cases sides with
    | nil => exact h
    | cons side sides =>
      cases h with
      | cons hcard hcards =>
        obtain ⟨made, hmade, hside, helement⟩ := hcard
        exact List.Forall₂.cons ⟨made, hmade, hside, helement.trans hn⟩ (ih hcards)

/-- Cards that stand in the page go on showing their notes when something is added to the page. -/
theorem Deals.adds (h : s.Deals models m notes) (hd : s.Dealt deck mode) (hdeal : s'.deal = s.deal) (ha : s.page.Adds s'.page) :
    s'.Deals models m notes := by
  obtain ⟨l, sides, hl, -, -, hstanding, -⟩ := hd
  obtain ⟨l', hl', hgrow⟩ := ha.cards hl
  have hcards : s.cards = l.cards.zipWith Card.mk sides := by
    rw [Session.cards, hstanding, ← Page.cards_eq hl]
  have hcards' : s'.cards = l'.cards.zipWith Card.mk sides := by
    rw [Session.cards, hdeal, hstanding, ← Page.cards_eq hl']
  rw [Deals, hcards] at h
  rw [Deals, hcards']
  exact forall₂_shownAs_of_growAll hgrow h

/-- A card that is put in the page is the last card. -/
theorem cards_placeCard (hd : s.Dealt deck mode) (card : Card) : (s.placeCard card).cards = s.cards ++ [card] := by
  obtain ⟨l, sides, hl, -, -, hstanding, hlength⟩ := hd
  have hplaced : (s.placeCard card).page.LaidOut _ := Page.appendCard_laidOut hl card.element
  have hdeal : (s.placeCard card).deal = .standing (sides ++ [card.side]) := by
    simp only [placeCard, hstanding]
  rw [Session.cards, hdeal, Session.cards, hstanding, Page.cards_eq hplaced, Page.cards_eq hl]
  exact List.zipWith_append hlength

/-- Each note that is rendered has a card, after the cards that were there before. Where a note cannot be rendered, those before it have
theirs. -/
theorem renderFrom_deals (node : DeckNode) (total : Nat) (rest : List Note) :
    ∀ (done : Nat) (notes : List Note) {s : Session}, s.Dealt deck mode → s.Deals s.models s.mode notes →
      ∃ shown, shown <+: rest ∧ ((s.renderFrom node total done rest).2 = none → shown = rest) ∧
        (s.renderFrom node total done rest).1.Deals s.models s.mode (notes ++ shown) := by
  induction rest with
  | nil =>
    intro done notes s _ h
    refine ⟨[], List.prefix_refl [], fun _ => rfl, ?_⟩
    rwa [List.append_nil]
  | cons note rest ih =>
    intro done notes s hd h
    have hadds := Card.render_adds note (s.models.resolve note) s.mode s.workspace
    have hgains := Card.render_gains note (s.models.resolve note) s.mode s.workspace
    have hblank := Card.render_blank note (s.models.resolve note) s.mode s.workspace
    rw [renderFrom]
    generalize Card.render note (s.models.resolve note) s.mode s.workspace = r at hadds hgains hblank ⊢
    obtain ⟨w, made⟩ := r
    have hold : ({ s with workspace := w } : Session).Deals s.models s.mode notes := h.adds hd rfl hadds
    cases made with
    | error failure =>
      refine ⟨[], List.nil_prefix, fun hok => (by cases hok), ?_⟩
      rwa [List.append_nil]
    | ok card =>
      have hdealt : ({ s with workspace := w } : Session).Dealt deck mode := hd.gains hgains
      have hplaced : ((({ s with workspace := w } : Session).placeCard card).notify
          (Notice.progress node.name (done + 1) total)).Deals s.models s.mode (notes ++ [note]) := by
        have hcards := cards_placeCard hdealt card
        have hcard : note.ShownAs s.models s.mode card := ⟨card, hblank.symm, rfl, Grows.refl⟩
        rw [Deals]
        show List.Forall₂ (Note.ShownAs s.models s.mode) (notes ++ [note]) (({ s with workspace := w } : Session).placeCard card).cards
        rw [hcards]
        exact List.rel_append hold (List.Forall₂.cons hcard List.Forall₂.nil)
      obtain ⟨shown, hprefix, hall, hdeals⟩ := ih (done + 1) (notes ++ [note]) (notify_dealt (placeCard_dealt hdealt card) _) hplaced
      refine ⟨note :: shown, (List.prefix_cons_inj note).2 hprefix, fun hok => by rw [hall hok], ?_⟩
      rwa [List.append_assoc] at hdeals

/-- On a cleared page the notes of a deck are rendered from the first on, all of them if none fails. -/
theorem clearTable_renderFrom_deals {l : Layout} (hl : s.page.LaidOut l) (node : DeckNode) (notes : List Note) :
    (s.clearTable.renderFrom node notes.length 0 notes).1.Dealt l.deck l.mode ∧
      ∃ shown, shown <+: notes ∧ ((s.clearTable.renderFrom node notes.length 0 notes).2 = none → shown = notes) ∧
        (s.clearTable.renderFrom node notes.length 0 notes).1.Deals s.models s.mode shown := by
  have hcleared := clearTable_dealt hl
  have hnone : s.clearTable.Deals s.models s.mode [] := by
    have hcards : s.clearTable.cards = [] := List.zipWith_nil_right
    rw [Deals, hcards]
    exact List.Forall₂.nil
  refine ⟨renderFrom_dealt node notes.length notes 0 hcleared, ?_⟩
  obtain ⟨shown, hprefix, hall, hdeals⟩ := renderFrom_deals node notes.length notes 0 [] hcleared hnone
  rw [List.nil_append] at hdeals
  exact ⟨shown, hprefix, hall, hdeals⟩

/-! ## The end of a selection -/

section Registered

variable {selection : Selection} {own : Option Json} {failure : Failure}

/-- Models of which a template is rejected end the selection. -/
theorem showDeck_of_rejected (h : (s.register ((own.map NoteModel.listOf).getD [])).2 = some failure) (notes : List Note) :
    s.showDeck selection notes own = ((s.register ((own.map NoteModel.listOf).getD [])).1, .error failure) := by
  rw [showDeck]
  generalize s.register ((own.map NoteModel.listOf).getD []) = p at h ⊢
  obtain ⟨t, _ | failure'⟩ := p
  · cases h
  · rw [Option.some.inj h]

/-- Models that are registered while the selection is the newest are followed by the notes. -/
theorem showDeck_of_registered (h : (s.register ((own.map NoteModel.listOf).getD [])).2 = none) (hnew : s.isNewest selection = true)
    (notes : List Note) :
    s.showDeck selection notes own = (s.register ((own.map NoteModel.listOf).getD [])).1.renderDeck selection.node notes := by
  have hkept : (s.register ((own.map NoteModel.listOf).getD [])).1.isNewest selection = true := hnew
  rw [showDeck]
  generalize s.register ((own.map NoteModel.listOf).getD []) = p at h hkept ⊢
  obtain ⟨t, _ | failure'⟩ := p
  · exact if_pos hkept
  · cases h

/-- Another selection has begun by the time that the models are registered. -/
theorem showDeck_of_registered_overtaken (h : (s.register ((own.map NoteModel.listOf).getD [])).2 = none)
    (hold : s.isNewest selection = false) (notes : List Note) :
    s.showDeck selection notes own = ((s.register ((own.map NoteModel.listOf).getD [])).1, .ok (superseded selection none)) := by
  have hkept : (s.register ((own.map NoteModel.listOf).getD [])).1.isNewest selection = false := hold
  rw [showDeck]
  generalize s.register ((own.map NoteModel.listOf).getD []) = p at h hkept ⊢
  obtain ⟨t, _ | failure'⟩ := p
  · exact if_neg (Bool.eq_false_iff.1 hkept)
  · cases h

end Registered

/-- What a selection that is brought to its end with a result leaves, its models having been registered. -/
inductive Brought (s : Session) (selection : Selection) (notes : List Note) (models : Option Json) : Session → DeckResult → Prop
  /-- Another selection had begun. -/
  | overtaken (hold : s.isNewest selection = false) :
    Brought s selection notes models (s.register ((models.map NoteModel.listOf).getD [])).1 (superseded selection none)
  /-- The deck has no notes. -/
  | empty (hnew : s.isNewest selection = true) (hnotes : notes = []) :
    Brought s selection notes models
      (({ (s.register ((models.map NoteModel.listOf).getD [])).1.clearTable with deal := .taken [] } : Session).showMessage
        Chrome.noNotes)
      ⟨selection.node, .empty, [], 0, none⟩
  /-- All notes have been rendered, and the scripts that they brought have been run. -/
  | rendered {s' : Session} {notice : Notice} (hnew : s.isNewest selection = true) (hnotes : notes ≠ [])
    (hr : (s.register ((models.map NoteModel.listOf).getD [])).1.clearTable.renderFrom selection.node notes.length 0 notes = (s', none)) :
    Brought s selection notes models (s'.runDeferred.notify notice)
      ⟨selection.node, .rendered, s'.runDeferred.cards, s'.workspace.deferred.size, none⟩

theorem Brought.node_eq {selection : Selection} {own : Option Json} {r : DeckResult} (h : s.Brought selection notes own s' r) :
    r.deck = selection.node := by
  cases h <;> rfl

/-- A selection that fails has failed, or another had begun. -/
theorem fail_status (selection : Selection) (failure : Failure) (s : Session) :
    (s.fail selection failure).2.status = .failed ∨ (s.fail selection failure).2.status = .superseded := by
  rw [fail]
  split
  · exact Or.inl rfl
  · exact Or.inr rfl

/-- A selection that is brought to its end with a result comes to one of these. -/
theorem brought_of_ok {selection : Selection} {notes : List Note} {models : Option Json} {r : DeckResult}
    (h : (s.showDeck selection notes models).2 = .ok r) : s.Brought selection notes models (s.showDeck selection notes models).1 r := by
  cases hp : (s.register ((models.map NoteModel.listOf).getD [])).2 with
  | some failure =>
    rw [showDeck_of_rejected hp] at h
    cases h
  | none =>
    cases hnew : s.isNewest selection with
    | false =>
      rw [showDeck_of_registered_overtaken hp hnew] at h ⊢
      obtain rfl := Except.ok.inj h
      exact .overtaken hnew
    | true =>
      rw [showDeck_of_registered hp hnew, renderDeck] at h ⊢
      dsimp only at h ⊢
      by_cases hnotes : notes = []
      · have hempty : notes.isEmpty = true := List.isEmpty_iff.2 hnotes
        rw [if_pos hempty] at h ⊢
        obtain rfl := Except.ok.inj h
        exact .empty hnew hnotes
      · have hempty : ¬ notes.isEmpty = true := fun h => hnotes (List.isEmpty_iff.1 h)
        rw [if_neg hempty] at h ⊢
        generalize hq : (s.register ((models.map NoteModel.listOf).getD [])).1.clearTable.renderFrom selection.node notes.length 0 notes = q
          at h ⊢
        obtain ⟨s₂, _ | failure⟩ := q
        · obtain rfl := Except.ok.inj h
          exact .rendered hnew hnotes hq
        · cases h

/-- Scripts that are run are put into the page, and nothing else is done to the cards. -/
theorem Deals.runDeferred (h : s.Deals models m notes) (hd : s.Dealt deck mode) : s.runDeferred.Deals models m notes :=
  h.adds hd rfl (Page.adds_runScripts s.workspace.deferred.items s.page)

/-- A deck that is rendered has a card for each of its notes, made with the models as they are then: those that were there, and after them
its own. -/
theorem Brought.cards {selection : Selection} {own : Option Json} {r : DeckResult} (h : s.Brought selection notes own s' r)
    (hr : r.status = .rendered) {l : Layout} (hl : s.page.LaidOut l) :
    List.Forall₂ (Note.ShownAs s'.models s'.mode) notes r.cards ∧ s'.models = s.models.merge ((own.map NoteModel.listOf).getD []) := by
  cases h with
  | overtaken | empty => cases hr
  | @rendered s₂ notice hnew hnotes hrender =>
    generalize hs₁ : (s.register ((own.map NoteModel.listOf).getD [])).1 = s₁ at hrender
    have hmodels₁ : s₁.models = s.models.merge ((own.map NoteModel.listOf).getD []) := by rw [← hs₁]; rfl
    obtain ⟨l₁, hl₁, -⟩ := (s.register_aside ((own.map NoteModel.listOf).getD [])).titled ⟨l, hl, rfl, rfl⟩
    rw [hs₁] at hl₁
    obtain ⟨hdealt, shown, -, hall, hdeals⟩ := clearTable_renderFrom_deals hl₁ selection.node notes
    obtain rfl := hall (by rw [hrender])
    have hkept := renderFrom_models selection.node shown.length shown 0 s₁.clearTable
    rw [hrender] at hdealt hdeals hkept
    refine ⟨?_, hkept.1.trans hmodels₁⟩
    show List.Forall₂ (Note.ShownAs s₂.models s₂.mode) shown s₂.runDeferred.cards
    rw [hkept.1, hkept.2]
    exact hdeals.runDeferred hdealt

end Session

/-- A call that ends with what came of a selection has found that its deck could not be loaded, or it has brought the selection to its
end. -/
theorem SessionDesk.Ending.of_shown {d : SessionDesk} {job : CallJob} {call : Nat} {session : Session} {r : DeckResult}
    (h : SessionDesk.Ending d job call session (.ok (.shown r))) :
    (∃ selection failure, job.selection? = some selection ∧ selection.call = call ∧ session = (d.session.fail selection failure).1 ∧
        r = (d.session.fail selection failure).2) ∨
      ∃ selection notes models, SessionDesk.DeckReady d job selection notes models ∧ selection.call = call ∧
        d.session.Brought selection notes models session r := by
  generalize hres : (Except.ok (CallResult.shown r) : Except Failure CallResult) = result at h
  cases h with
  | badMode | noRootModels | noDeckModels => cases hres
  | noDeck => cases Except.ok.inj hres
  | rootModels =>
    obtain ⟨found, -, hf⟩ := SessionDesk.ok_of_map hres.symm
    cases hf
  | @failed selection data answer failure _ =>
    obtain rfl := CallResult.shown.inj (Except.ok.inj hres)
    exact Or.inl ⟨selection, failure, rfl, rfl, rfl, rfl⟩
  | @shown _ selection notes models hr =>
    obtain ⟨r', hr', hf⟩ := SessionDesk.ok_of_map hres.symm
    obtain rfl := CallResult.shown.inj hf
    exact Or.inr ⟨selection, notes, models, hr, rfl, Session.brought_of_ok hr'⟩

end Flashcards

import Flashcards.Proofs.Page.Scripts
import Flashcards.Proofs.Session.Errand

/-!
# Sessions that differ in what the next deck clears

When the selection of a deck has begun, some of what was shown before is still there: the scripts of the deck before, in their region, those
that wait and those that have been run, and the cards that the session had. Two sessions match if they differ in nothing else, apart from
the number of the newest selection (`Session.Matches`).

Sessions that match stay so when models are registered (`Session.Matches.register`). The table is cleared for the cards of a deck, and it is
cleared for the word that it could not be loaded; then nothing is left that is different but the number, and rendering does not depend on it
(`Session.renderDeck_numbered`). So what has been fetched for a deck comes to the same in both sessions (`Session.Matches.deliver`).
-/

namespace Flashcards

open Text Markup Markup.Node

/-! ## Pages -/

namespace Page

variable {p p' : Page} {l : Layout}

/-- Pages of one layout that remember the same scripts are the same. -/
theorem eq_of_laidOut (h : p.LaidOut l) (h' : p'.LaidOut l) (he : p'.executed = p.executed) : p' = p := by
  obtain ⟨nodes, executed⟩ := p
  obtain ⟨nodes', executed'⟩ := p'
  obtain rfl : executed' = executed := he
  obtain rfl : nodes' = nodes := h'.trans h.symm
  rfl

/-- Two pages differ at most in the scripts of a deck: those in the page's own region for them, and those that are remembered. No card of
theirs has an element of the name of a region for scripts. -/
def Matches (p p' : Page) : Prop :=
  ∃ (l : Layout) (deferred : List Text), p.LaidOut l ∧ p'.LaidOut { l with deferred := deferred } ∧
    carry libraryId l.cards = false ∧ carry deferredId l.cards = false

theorem Matches.appendStylesheet (h : p.Matches p') (href : Text) : (p.appendStylesheet href).Matches (p'.appendStylesheet href) := by
  obtain ⟨l, deferred, hl, hl', hlibrary, hdeferred⟩ := h
  exact ⟨_, deferred, appendStylesheet_laidOut hl href, appendStylesheet_laidOut hl' href, hlibrary, hdeferred⟩

theorem Matches.appendScript (h : p.Matches p') (source : ScriptSource) : (p.appendScript source).Matches (p'.appendScript source) := by
  obtain ⟨l, deferred, hl, hl', hlibrary, hdeferred⟩ := h
  have hs := appendScript_laidOut hl source
  have hs' := appendScript_laidOut hl' source
  rw [Layout.addScript_eq hlibrary] at hs
  rw [Layout.addScript_eq (l := { l with deferred := deferred }) hlibrary] at hs'
  exact ⟨_, deferred, hs, hs', hlibrary, hdeferred⟩

/-- When the scripts of a deck have been reset, nothing is different. -/
theorem Matches.resetScripts_eq (h : p.Matches p') : p'.resetScripts = p.resetScripts := by
  obtain ⟨l, deferred, hl, hl', -, hdeferred⟩ := h
  have hr := resetScripts_laidOut hl
  have hr' := resetScripts_laidOut hl'
  rw [Layout.reset_eq hdeferred] at hr
  rw [Layout.reset_eq (l := { l with deferred := deferred }) hdeferred] at hr'
  exact eq_of_laidOut hr hr' rfl

theorem Matches.clearCards (h : p.Matches p') : p.clearCards.Matches p'.clearCards := by
  obtain ⟨l, deferred, hl, hl', -, -⟩ := h
  exact ⟨_, deferred, clearCards_laidOut hl, clearCards_laidOut hl', rfl, rfl⟩

end Page

/-! ## Workspaces -/

namespace Workspace

variable {w w' : Workspace}

/-- The same addresses have been claimed, and the pages differ at most in the scripts of a deck. -/
structure Matches (w w' : Workspace) : Prop where
  claimed : w'.claimed = w.claimed
  page : w.page.Matches w'.page

theorem Matches.claim (h : w.Matches w') (address : Text) {change : Page → Page} (hc : (change w.page).Matches (change w'.page)) :
    (w.claim address change).Matches (w'.claim address change) := by
  rw [Workspace.claim, Workspace.claim, h.claimed]
  split
  · exact h
  · exact ⟨rfl, hc⟩

theorem Matches.takeStylesheet (h : w.Matches w') (href : Text) : (w.takeStylesheet href).Matches (w'.takeStylesheet href) :=
  h.claim href (h.page.appendStylesheet href)

theorem Matches.takeScript (h : w.Matches w') (script : Script) : (w.takeScript script).Matches (w'.takeScript script) := by
  cases script with
  | external source => exact h.claim source.address (h.page.appendScript source)
  | inline content =>
    rw [Workspace.takeScript, Workspace.takeScript]
    split
    · exact h
    · exact ⟨h.claimed, h.page⟩

theorem Matches.foldl {α : Type} {f : Workspace → α → Workspace}
    (hf : ∀ {w w' : Workspace} (x : α), w.Matches w' → (f w x).Matches (f w' x)) (xs : List α) (h : w.Matches w') :
    (xs.foldl f w).Matches (xs.foldl f w') := by
  induction xs generalizing w w' with
  | nil => exact h
  | cons x xs ih => exact ih (hf x h)

theorem Matches.take (h : w.Matches w') (harvest : Harvest) : (w.take harvest).Matches (w'.take harvest) := by
  have hstylesheets := h.foldl (fun href h => h.takeStylesheet href) harvest.stylesheets
  exact hstylesheets.foldl (fun script h => h.takeScript script) harvest.scripts

/-- The libraries of fragments are taken in alike, and a fragment that cannot be hoisted is so in both. -/
theorem Matches.preloadAll (h : w.Matches w') (fragments : List Text) :
    (w.preloadAll fragments).1.Matches (w'.preloadAll fragments).1 ∧ (w'.preloadAll fragments).2 = (w.preloadAll fragments).2 := by
  induction fragments generalizing w w' with
  | nil => exact ⟨h, rfl⟩
  | cons fragment fragments ih =>
    rw [Workspace.preloadAll, Workspace.preloadAll, strip_eq, strip_eq]
    cases leftOf true fragment with
    | error failure => exact ⟨h.take _, rfl⟩
    | ok rest => exact ih (h.take _)

end Workspace

/-! ## Sessions -/

namespace Session

/-- A session with another number for the newest selection. -/
def numbered (token : Nat) (s : Session) : Session := { s with token := token }

/-- Two sessions differ at most in the scripts of a deck, in where the cards are, and in the number of the newest selection. -/
structure Matches (s s' : Session) : Prop where
  mode : s'.mode = s.mode
  models : s'.models = s.models
  current : s'.current = s.current
  notices : s'.notices = s.notices
  workspace : s.workspace.Matches s'.workspace

variable {s s' : Session}

/-- Nothing is different but the number when the workspace and the cards are put in place anew. -/
theorem Matches.eq_numbered (h : s.Matches s') (workspace : Workspace) (deal : Deal) :
    ({ s' with workspace := workspace, deal := deal } : Session) = ({ s with workspace := workspace, deal := deal } : Session).numbered s'.token := by
  obtain ⟨mode, _, models, current, _, token, notices⟩ := s
  obtain ⟨mode', _, models', current', _, token', notices'⟩ := s'
  obtain ⟨hmode, hmodels, hcurrent, hnotices, -⟩ := h
  dsimp only at hmode hmodels hcurrent hnotices
  subst hmode hmodels hcurrent hnotices
  rfl

/-- Models are registered alike. -/
theorem Matches.register (h : s.Matches s') (models : List NoteModel) :
    (s.register models).1.Matches (s'.register models).1 ∧ (s'.register models).2 = (s.register models).2 := by
  obtain ⟨hworkspace, hfailure⟩ := h.workspace.preloadAll (Workspace.templateTexts models)
  refine ⟨⟨h.mode, ?_, h.current, h.notices, hworkspace⟩, hfailure⟩
  show s'.models.merge models = s.models.merge models
  rw [h.models]

/-! ### Rendering -/

/-- Rendering notes does not depend on the number of the newest selection. -/
theorem renderFrom_numbered (token : Nat) (node : DeckNode) (total : Nat) (notes : List Note) (done : Nat) (s : Session) :
    (s.numbered token).renderFrom node total done notes =
      ((s.renderFrom node total done notes).1.numbered token, (s.renderFrom node total done notes).2) := by
  induction notes generalizing done s with
  | nil => rfl
  | cons note notes ih =>
    rw [renderFrom, renderFrom, show (s.numbered token).models = s.models from rfl, show (s.numbered token).mode = s.mode from rfl,
      show (s.numbered token).workspace = s.workspace from rfl]
    generalize Card.render note (s.models.resolve note) s.mode s.workspace = r
    obtain ⟨w, _ | card⟩ := r
    · rfl
    · exact ih (done + 1) ((({ s with workspace := w } : Session).placeCard card).notify (Notice.progress node.name (done + 1) total))

theorem renderDeck_numbered (token : Nat) (node : DeckNode) (notes : List Note) (s : Session) :
    (s.numbered token).renderDeck node notes = ((s.renderDeck node notes).1.numbered token, (s.renderDeck node notes).2) := by
  have hfrom := renderFrom_numbered token node notes.length notes 0 s.clearTable
  rw [renderDeck, renderDeck, show (s.numbered token).clearTable = s.clearTable.numbered token from rfl, hfrom]
  dsimp only
  generalize s.clearTable.renderFrom node notes.length 0 notes = r
  obtain ⟨s', _ | failure⟩ := r
  · split <;> rfl
  · split <;> rfl

/-- The table is cleared alike, and then nothing is different but the number. -/
theorem Matches.clearTable_eq (h : s.Matches s') : s'.clearTable = s.clearTable.numbered s'.token := by
  have hpage := h.workspace.page.clearCards.resetScripts_eq
  have hworkspace : (s'.workspace.onPage fun p => p.clearCards.resetScripts).dropDeferred =
      (s.workspace.onPage fun p => p.clearCards.resetScripts).dropDeferred := by
    simp only [Workspace.onPage, Workspace.dropDeferred, hpage, h.workspace.claimed]
  rw [clearTable, hworkspace]
  exact h.eq_numbered _ _

theorem Matches.renderDeck_eq (h : s.Matches s') (node : DeckNode) (notes : List Note) :
    s'.renderDeck node notes = ((s.renderDeck node notes).1.numbered s'.token, (s.renderDeck node notes).2) := by
  rw [← renderDeck_numbered, renderDeck, renderDeck, h.clearTable_eq]
  rfl

/-- A failure of the newest selection is shown alike, and then nothing is different but the number. -/
theorem Matches.fail_eq (h : s.Matches s') {selection selection' : Selection} (hs : s.isNewest selection = true)
    (hs' : s'.isNewest selection' = true) (hnode : selection'.node = selection.node) (failure : Failure) :
    s'.fail selection' failure = ((s.fail selection failure).1.numbered s'.token, (s.fail selection failure).2) := by
  have hpage := h.workspace.page.resetScripts_eq
  have hworkspace : (s'.workspace.onPage Page.resetScripts).dropDeferred = (s.workspace.onPage Page.resetScripts).dropDeferred := by
    simp only [Workspace.onPage, Workspace.dropDeferred, hpage, h.workspace.claimed]
  rw [fail, fail, if_pos hs, if_pos hs', hworkspace, hnode, h.eq_numbered]
  rfl

/-! ### The end of a selection -/

/-- A selection ends alike in two sessions: with the same result, the same models and the same addresses claimed; and nothing of the sessions is
different but the number, unless the call has failed. -/
structure EndsAlike (r r' : Session × Except Failure DeckResult) : Prop where
  result : r'.2 = r.2
  models : r'.1.models = r.1.models
  claimed : r'.1.workspace.claimed = r.1.workspace.claimed
  session : ∀ result, r.2 = .ok result → r'.1 = r.1.numbered r'.1.token

theorem EndsAlike.of_eq {r r' : Session × Except Failure DeckResult} (token : Nat) (h : r' = (r.1.numbered token, r.2)) : EndsAlike r r' := by
  subst h
  exact ⟨rfl, rfl, rfl, fun _ _ => rfl⟩

/-- A selection is brought to its end alike with the same notes and the same models. -/
theorem Matches.showDeck (h : s.Matches s') {selection selection' : Selection} (hs : s.isNewest selection = true)
    (hs' : s'.isNewest selection' = true) (hnode : selection'.node = selection.node) (notes : List Note) (models : Option Json) :
    EndsAlike (s.showDeck selection notes models) (s'.showDeck selection' notes models) := by
  obtain ⟨hmatches, hfailure⟩ := h.register ((models.map NoteModel.listOf).getD [])
  have hn : (s.register ((models.map NoteModel.listOf).getD [])).1.isNewest selection = true := hs
  have hn' : (s'.register ((models.map NoteModel.listOf).getD [])).1.isNewest selection' = true := hs'
  rw [Session.showDeck, Session.showDeck]
  generalize s.register ((models.map NoteModel.listOf).getD []) = r at hmatches hfailure hn ⊢
  generalize s'.register ((models.map NoteModel.listOf).getD []) = r' at hmatches hfailure hn' ⊢
  obtain ⟨t, made⟩ := r
  obtain ⟨t', made'⟩ := r'
  obtain rfl : made' = made := hfailure
  cases made' with
  | some failure => exact ⟨rfl, hmatches.models, hmatches.workspace.claimed, fun _ hr => by cases hr⟩
  | none =>
    dsimp only at hn hn' ⊢
    rw [if_pos hn, if_pos hn', hnode]
    exact EndsAlike.of_eq t'.token (hmatches.renderDeck_eq _ _)

/-- What has been fetched for a deck comes to the same. -/
theorem Matches.deliver (h : s.Matches s') {selection selection' : Selection} (hs : s.isNewest selection = true)
    (hs' : s'.isNewest selection' = true) (hnode : selection'.node = selection.node) (notes : Except Failure (List Note))
    (models : Except Failure (Option Json)) :
    EndsAlike (s.deliver selection notes models) (s'.deliver selection' notes models) := by
  cases notes with
  | error failure =>
    have hf := h.fail_eq hs hs' hnode failure
    refine EndsAlike.of_eq s'.token ?_
    rw [Session.deliver, Session.deliver, hf]
  | ok notes =>
    cases models with
    | error failure => exact ⟨rfl, h.models, h.workspace.claimed, fun _ hr => by cases hr⟩
    | ok models => exact h.showDeck hs hs' hnode notes models

end Session

end Flashcards

import Flashcards.Proofs.Session.Visits

/-!
# Decks one after the other

A deck is rendered in a session with fixed contents when it is selected while nothing is under way, and its call ends with cards
(`Rendering`). What has been done in the session before is left open, and so is the order in which jobs run and fetches end.

Two renderings of one deck have the same cards and have run the same scripts (`Rendering.cards_independent`), provided that the notes
of the deck lead to the same models in both sessions, and that the cards have no element of the name of the region for libraries. Neither
proviso can be spared (`Rendering.cards_differ`): the models of all decks that have been shown stay registered, so that a note may lead
to a model that another deck has brought; and a library that another deck has brought is not added again, wherever it would go.
-/

namespace Flashcards

open Text Markup Markup.Node

/-- A deck is rendered in a session, whatever has been done in the session before. -/
structure Rendering (contents : Contents) (mode : RenderMode) (rootModels : Json) (node : DeckNode) where
  /-- The moves before the deck is selected. -/
  earlier : List Move
  /-- The moves from then on. -/
  moves : List Move
  rest : ((Course.fresh mode rootModels).goes contents earlier).AtRest
  quiet : ∀ move ∈ moves, move.request? = none
  rendered : ∃ r : DeckResult, r.status = .rendered ∧
    (((Course.fresh mode rootModels).goes contents earlier).agenda.state.calls, .ok (.shown r)) ∈
      ((((Course.fresh mode rootModels).goes contents earlier).go contents (.select node)).goes contents moves).ended

namespace Rendering

variable {contents : Contents} {mode : RenderMode} {rootModels : Json} {node : DeckNode}

/-- The session when the deck is selected. -/
def before (v : Rendering contents mode rootModels node) : Course := (Course.fresh mode rootModels).goes contents v.earlier

/-- The session when the deck has been rendered. -/
def after (v : Rendering contents mode rootModels node) : Course := (v.before.go contents (.select node)).goes contents v.moves

/-- Two renderings of a deck have the same cards, and have run the same scripts. -/
def Same (v w : Rendering contents mode rootModels node) : Prop :=
  v.after.session.page.innerMarkup Page.cardsId = w.after.session.page.innerMarkup Page.cardsId ∧
    v.after.session.page.executed = w.after.session.page.executed

/-- The cards of a deck are made in the session as it was when the deck was selected, of the notes and the models that the contents have. -/
theorem after_eq (v : Rendering contents mode rootModels node) :
    ∃ (selection : Selection) (r : DeckResult), selection.node = node ∧ r.status = .rendered ∧
      ((v.before.session.select node).showDeck selection (contents.notes node) (contents.models? node)).2 = .ok r ∧
      v.after.session = ((v.before.session.select node).showDeck selection (contents.notes node) (contents.models? node)).1 := by
  have hkept := (Course.fresh_kept contents mode rootModels).goes v.earlier
  have hvisit := (hkept.visiting v.rest node).goes v.quiet
  obtain ⟨r, hr, hmem⟩ := v.rendered
  rw [hkept.proper.calls] at hmem
  cases hvisit.stage with
  | made _ _ he | begun _ _ he => exact absurd rfl (he _ hmem)
  | ended _ hover =>
    obtain ⟨selection, hnode, hshown, hsession⟩ := hover r hmem hr
    exact ⟨selection, r, hnode, hr, hshown, hsession⟩

/-- A deck is selected on a page that has its regions, in the mode of the session. -/
theorem select_before (v : Rendering contents mode rootModels node) :
    (∃ l : Layout, (v.before.session.select node).page.LaidOut l) ∧ (v.before.session.select node).mode = mode := by
  have hkept := (Course.fresh_kept contents mode rootModels).goes v.earlier
  obtain ⟨l, hl⟩ := hkept.faithful.laidOut
  exact ⟨⟨_, Session.select_laidOut hl node⟩, hkept.mode⟩

/-- The cards of a deck, and the scripts that have been run, do not depend on what has been done in the session before, provided that the
notes of the deck lead to the same models, and that the cards have no element of the name of the region for libraries. -/
theorem cards_independent (v w : Rendering contents mode rootModels node)
    (hm : ∀ note ∈ contents.notes node, v.after.session.models.resolve note = w.after.session.models.resolve note)
    (hc : carry Page.libraryId w.after.session.page.cards = false) : v.Same w := by
  obtain ⟨selection, r, hnode, hr, hshown, hv⟩ := v.after_eq
  obtain ⟨selection', r', hnode', hr', hshown', hw⟩ := w.after_eq
  obtain ⟨⟨l, hl⟩, hmode⟩ := v.select_before
  obtain ⟨⟨k, hk⟩, hmode'⟩ := w.select_before
  rw [hv, hw] at hm
  rw [hw] at hc
  have halike := Session.showDeck_alike hl hk (hmode.trans hmode'.symm) (hnode.trans hnode'.symm) hshown hr hshown' hr' hm hc
  obtain ⟨l', hl'⟩ := halike.left
  obtain ⟨k', hk'⟩ := halike.right
  have hcards := halike.cards
  rw [Page.cards_eq hl', Page.cards_eq hk'] at hcards
  rw [Same, hv, hw]
  refine ⟨?_, halike.executed⟩
  rw [Page.innerMarkup, Page.innerMarkup, Page.byId?_cards hl', Page.byId?_cards hk', hcards]

/-- A deck is rendered right after the models that all decks share have been loaded. -/
def Initial (w : Rendering contents mode rootModels node) : Prop :=
  ∃ moves : List Move, (∀ move ∈ moves, move.request? = none) ∧ w.earlier = .load :: moves

/-- A deck is rendered as in another session after a deck has been selected besides, and its call has ended. -/
def Follows (v w : Rendering contents mode rootModels node) : Prop :=
  ∃ (deck : DeckNode) (moves : List Move), (∀ move ∈ moves, move.request? = none) ∧ v.earlier = w.earlier ++ .select deck :: moves

end Rendering

/-! ## What another deck leaves -/

/-- A result is that of a deck that has been rendered. -/
def CallResult.isRendered : Except Failure CallResult → Bool
  | .ok (.shown r) => r.status = .rendered
  | _ => false

theorem CallResult.isRendered_iff {result : Except Failure CallResult} :
    isRendered result = true ↔ ∃ r : DeckResult, r.status = .rendered ∧ result = .ok (.shown r) := by
  cases result with
  | error failure => simp [isRendered]
  | ok result => cases result <;> simp [isRendered, eq_comm]

namespace Rendering

/-- The contents of some files. -/
def holding (files : List (Text × Text)) : Contents := fun key =>
  match files.find? fun file => (Json.text file.1).key = key with
  | some file => .ok file.2
  | none => .error ⟨.null, some 404, []⟩

/-- A resource with one model, which has one field. -/
def modelText (id template : Text) : Text :=
  "\x7b\"note_models\":[\x7b\"id\":\"" ++ id ++ "\",\"flds\":[\x7b\"name\":\"a\"\x7d],\"tmpls\":[\x7b\"qfmt\":\"" ++ template ++
    "\"\x7d]\x7d]\x7d"

/-- A note of a model, with one field. -/
def noteText (model field : Text) : Text := "<b class=card note_model_uuid=" ++ model ++ "><i class=field>" ++ field ++ "</i></b>"

/-- Three decks. The first has no notes, but brings a model, with a library; the note of the second refers to this model. In the third, a
field has the name of the region for libraries, and another brings the library. -/
def shelf : Contents := holding [
  ("models.json", modelText "m" "\x7b\x7ba\x7d\x7d"), ("first-models.json", modelText "n" "<script src=l></script>"),
  ("first.json", "\x7b\x7d"), ("first.html", ""), ("second.json", "\x7b\x7d"), ("second.html", "<b class=cards>" ++ noteText "n" "q"),
  ("third.json", "\x7b\x7d"),
  ("third.html", "<b class=cards>" ++ noteText "k" "<p id=library-scripts>" ++ noteText "m" "<script src=l></script>")]

/-- A deck of the shelf. -/
def deckAt (name : Text) (models : Json) : DeckNode := ⟨name, name ++ ".json", name ++ ".html", .null, models, name, []⟩

def first : DeckNode := deckAt "first" (.text "first-models.json")

def second : DeckNode := deckAt "second" .null

def third : DeckNode := deckAt "third" .null

/-- Jobs run and fetches end, one after the other. -/
def settling : List Move := (List.replicate 12 [Move.run 0, Move.answer 0]).flatten

theorem quiet_settling : ∀ move ∈ settling, move.request? = none := by decide

/-- The moves until the models that all decks share have been loaded and decks of the shelf have been shown. -/
def showing (decks : List DeckNode) : List Move := .load :: settling ++ decks.flatMap fun deck => .select deck :: settling

/-- The session when decks of the shelf have been shown. -/
def shown (mode : RenderMode) (decks : List DeckNode) : Course := (Course.fresh mode (.text "models.json")).goes shelf (showing decks)

/-- The session when another deck of the shelf has been selected then. -/
def visited (mode : RenderMode) (decks : List DeckNode) (node : DeckNode) : Course :=
  ((shown mode decks).go shelf (.select node)).goes shelf settling

/-- A deck of the shelf is rendered when others have been shown. -/
def IsRendered (mode : RenderMode) (decks : List DeckNode) (node : DeckNode) : Prop :=
  (shown mode decks).AtRest ∧
    ((visited mode decks node).ended.any fun e => e.1 == (shown mode decks).agenda.state.calls && CallResult.isRendered e.2) = true

instance (mode : RenderMode) (decks : List DeckNode) (node : DeckNode) : Decidable (IsRendered mode decks node) :=
  inferInstanceAs (Decidable ((_ ∧ _) ∧ _))

variable {mode : RenderMode} {decks : List DeckNode} {deck node : DeckNode}

/-- A deck of the shelf that is rendered when others have been shown. -/
def onShelf (h : IsRendered mode decks node) : Rendering shelf mode (.text "models.json") node where
  earlier := showing decks
  moves := settling
  rest := h.1
  quiet := quiet_settling
  rendered := by
    obtain ⟨e, hmem, he⟩ := List.any_eq_true.1 h.2
    rw [Bool.and_eq_true, beq_iff_eq] at he
    obtain ⟨r, hr, heq⟩ := CallResult.isRendered_iff.1 he.2
    exact ⟨r, hr, he.1 ▸ heq ▸ hmem⟩

theorem initial_onShelf (h : IsRendered mode [] node) : (onShelf h).Initial :=
  ⟨settling, quiet_settling, by simp [onShelf, showing]⟩

theorem follows_onShelf (h : IsRendered mode [deck] node) (h' : IsRendered mode [] node) : (onShelf h).Follows (onShelf h') :=
  ⟨deck, settling, quiet_settling, by simp [onShelf, showing]⟩

/-- The second deck has the field names of the model that the first brings, if this has been shown. -/
theorem second_visited :
    IsRendered .raw [] second ∧ IsRendered .raw [first] second ∧
      (visited .raw [first] second).session.page.innerMarkup Page.cardsId ≠ (visited .raw [] second).session.page.innerMarkup Page.cardsId ∧
      carry Page.libraryId (visited .raw [] second).session.page.cards = false := by
  decide +kernel

/-- The third deck has the library in a card, unless the first has brought it. -/
theorem third_visited :
    IsRendered .model [] third ∧ IsRendered .model [first] third ∧
      (visited .model [first] third).session.page.innerMarkup Page.cardsId ≠
        (visited .model [] third).session.page.innerMarkup Page.cardsId ∧
      ∀ note ∈ shelf.notes third,
        (visited .model [first] third).session.models.resolve note = (visited .model [] third).session.models.resolve note := by
  decide +kernel

/-- The second deck is the same after the third as it is at first. -/
theorem cards_independent_second :
    ∃ (hv : IsRendered .raw [third] second) (hw : IsRendered .raw [] second),
      (∀ note ∈ shelf.notes second,
        (onShelf hv).after.session.models.resolve note = (onShelf hw).after.session.models.resolve note) ∧
      carry Page.libraryId (onShelf hw).after.session.page.cards = false ∧ (onShelf hv).Same (onShelf hw) := by
  have h : IsRendered .raw [third] second ∧ IsRendered .raw [] second ∧
      (∀ note ∈ shelf.notes second,
        (visited .raw [third] second).session.models.resolve note = (visited .raw [] second).session.models.resolve note) ∧
      carry Page.libraryId (visited .raw [] second).session.page.cards = false := by
    decide +kernel
  obtain ⟨hv, hw, hm, hc⟩ := h
  exact ⟨hv, hw, hm, hc, cards_independent (onShelf hv) (onShelf hw) hm hc⟩

/-- Neither proviso can be spared: the cards of a deck may depend on one that has been shown before, by its models, even though no element
has the name of the region for libraries, and by its libraries, even though the notes lead to the same models. -/
theorem cards_differ :
    (¬ ∀ (contents : Contents) (mode : RenderMode) (rootModels : Json) (node : DeckNode) (v w : Rendering contents mode rootModels node),
      w.Initial → v.Follows w → carry Page.libraryId w.after.session.page.cards = false → v.Same w) ∧
    ¬ ∀ (contents : Contents) (mode : RenderMode) (rootModels : Json) (node : DeckNode) (v w : Rendering contents mode rootModels node),
      w.Initial → v.Follows w →
      (∀ note ∈ contents.notes node, v.after.session.models.resolve note = w.after.session.models.resolve note) → v.Same w := by
  refine ⟨fun h => ?_, fun h => ?_⟩
  · obtain ⟨hw, hv, hne, hc⟩ := second_visited
    exact hne (h _ _ _ _ (onShelf hv) (onShelf hw) (initial_onShelf hw) (follows_onShelf hv hw) hc).1
  · obtain ⟨hw, hv, hne, hm⟩ := third_visited
    exact hne (h _ _ _ _ (onShelf hv) (onShelf hw) (initial_onShelf hw) (follows_onShelf hv hw) hm).1

end Rendering

end Flashcards

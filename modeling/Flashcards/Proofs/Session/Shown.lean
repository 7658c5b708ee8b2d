import Flashcards.Proofs.Models.Registry
import Flashcards.Proofs.Session.Ended

/-!
# One card for each note

However calls overlap, a call that ends with a rendered deck leaves one card for each note of the document that it has fetched, in order
(`History.cards_of_rendered`). The cards are those of its result, those of the session, and the elements in the container of the cards. Each is
made with the model that its note resolves to then, and the models of the deck itself go before all others: whatever has been registered by
other calls, a note whose first reference is known by a model of the deck's own resource has the last such model of it.
-/

namespace Flashcards

open Text

namespace History

/-- A call that has ended between two histories has rendered a deck, with notes and with the models of the deck itself, if there were any. -/
structure Renders (h h' : History) (call : Nat) (r : DeckResult) (notes : List Note) (own : Option Json) : Prop where
  /-- The call has selected the deck. -/
  selected : (call, r.deck) ∈ h'.course.started
  /-- The notes are those in the document that the call has fetched at the path of the deck's notes. -/
  fetched : h'.answers.Notes call r.deck notes
  /-- The call has fetched no others. -/
  only : ∀ others, h'.answers.Notes call r.deck others → others = notes
  /-- The deck has just got all it needs: its notes, and its own models, or the news that it has none. -/
  ready : ∃ job ∈ h.course.agenda.ready, ∃ token, SessionDesk.DeckReady h.desk job ⟨call, r.deck, token⟩ notes own
  /-- Its own models are those in a document that has been fetched at their path. -/
  held : ∀ data, own = some data → h'.answers.Holds r.deck.modelsPath data
  /-- The cards of the result are those of the session, and their elements are what stands in the container. -/
  cards : h'.session.cards = r.cards
  standing : h'.session.page.cards = r.cards.map Card.element
  /-- There is one card for each note, in order, made with the model that the note resolves to. -/
  shown : List.Forall₂ (Note.ShownAs h'.session.models h'.session.mode) notes r.cards
  /-- A card is templated exactly if cards are shown by their models, and the model has a template. -/
  templated : List.Forall₂
    (fun note card => card.templated = true ↔
      h'.session.mode = .model ∧ ∃ m, h'.session.models.resolve note = some m ∧ m.templates ≠ []) notes r.cards
  /-- A note whose first reference is known by a model of the deck's own has the last such model. -/
  shadows : ∀ note ∈ notes, ∀ data key m, own = some data → note.modelUuid = some key → m ∈ NoteModel.listOf data →
    key ∈ m.identifiers →
      ∃ last, NoteModel.lastKnown? key (NoteModel.listOf data) = some last ∧ h'.session.models.resolve note = some last
  /-- The second reference counts where the first leads nowhere. -/
  second : ∀ note ∈ notes, h'.session.models.lookup note.modelUuid = none →
    h'.session.models.resolve note = h'.session.models.lookup note.modelId

/-- A call that ends with a rendered deck leaves one card for each note, made with the right model. -/
theorem cards_of_rendered (mode : RenderMode) (rootModels : Json) (xs : List Happening) (x : Happening) (call : Nat) (r : DeckResult)
    (hend : (((fresh mode rootModels).through xs).happen x).course.ended =
      ((fresh mode rootModels).through xs).course.ended ++ [(call, .ok (.shown r))])
    (hr : r.status = .rendered) :
    ∃ notes own, Renders ((fresh mode rootModels).through xs) (((fresh mode rootModels).through xs).happen x) call r notes own := by
  have hsound := sound mode rootModels xs
  generalize (fresh mode rootModels).through xs = h at hend hsound ⊢
  obtain ⟨hends, hshows⟩ := hsound.endsWith hend
  have hshows := hshows (by rw [hr]; decide)
  cases hends with
  | @failed selection failure _ _ _ _ hfail =>
    rw [hfail] at hr
    rcases Session.fail_status selection failure h.session with hs | hs <;> (rw [hs] at hr; cases hr)
  | @brought job selection notes own hjob hready hcall hnode hbegun hnotes honly hheld hb =>
    obtain ⟨l, hl⟩ := hsound.laidOut
    obtain ⟨hcards, hmodels⟩ := hb.cards hr hl
    have hstanding : (h.happen x).session.page.cards = r.cards.map Card.element := by
      have hs := hshows.2
      rwa [hr] at hs
    refine ⟨notes, own, hbegun, hnotes, honly, ⟨job, hjob, selection.token, ?_⟩, hheld, hshows.1, hstanding, hcards, ?_, ?_, ?_⟩
    · rw [hnode, ← hcall]
      exact hready
    · exact hcards.imp fun note card hshown => hshown.templated_iff
    · intro note _ data key m hdata hkey hm hknown
      obtain ⟨last, hlast⟩ := NoteModel.exists_lastKnown? hm hknown
      refine ⟨last, hlast, ?_⟩
      rw [hmodels, hdata, Option.map_some, Option.getD_some]
      exact ModelRegistry.resolve_merge hkey hlast h.session.models
    · exact fun note _ hnone => ModelRegistry.resolve_of_lookup_eq_none hnone

/-! ## A run in which models come in between -/

/-- A model of a name with a template. -/
def modelNamed (id template : Text) : Text := "\x7b\"id\":\"" ++ id ++ "\",\"tmpls\":[\x7b\"qfmt\":\"" ++ template ++ "\"\x7d]\x7d"

/-- A resource with models. -/
def modelsText (models : List Text) : Text := "\x7b\"note_models\":[" ++ joinWith "," models ++ "]\x7d"

/-- Notes without fields, one for each of the names of their models. -/
def notesText (models : List Text) : Text :=
  let card (model : Text) : Text := "<b class=card note_model_uuid=" ++ model ++ "></b>"
  "<b class=cards>" ++ models.flatMap card

/-- A deck is selected whose own models have the name of one that all decks share. This one comes while those of the deck are fetched. -/
def overlapping : List Happening :=
  ([.call (.select { Course.deckNamed "a" with modelsPath := .text "a/models.json" })] ++ List.replicate 4 (.run 0) ++
    [.answer 0 (.ok (notesText ["m"])), .answer 0 (.ok "\x7b\x7d")] ++
    List.replicate 6 (.run 0) ++
    [.call .loadRootModels, .run 0, .run 0, .answer 1 (.ok (modelsText [modelNamed "m" "shared"])), .run 0, .run 0,
      .answer 0 (.ok (modelsText [modelNamed "m" "first", modelNamed "m" "last"])), .run 0] : List CallEvent).map Happening.event

/-- The deck is rendered with its own models. -/
theorem cards_of_rendered_overlapping :
    ∃ (call : Nat) (r : DeckResult) (notes : List Note) (own : Option Json),
      ((fresh .model (.text "models.json")).through overlapping).shown? (.event (.run 0)) = some (call, r) ∧ r.status = .rendered ∧
      Renders ((fresh .model (.text "models.json")).through overlapping)
        (((fresh .model (.text "models.json")).through overlapping).happen (.event (.run 0))) call r notes own := by
  have hshown : (((fresh .model (.text "models.json")).through overlapping).shown? (.event (.run 0))).any
      (fun e => e.2.status = .rendered) = true := by
    decide +kernel
  obtain ⟨⟨call, r⟩, hs, hr⟩ := (Option.any_eq_true _ _).1 hshown
  obtain ⟨notes, own, h⟩ := cards_of_rendered .model (.text "models.json") overlapping (.event (.run 0)) call r (ended_of_shown? hs)
    (of_decide_eq_true hr)
  exact ⟨call, r, notes, own, hs, of_decide_eq_true hr, h⟩

end History

end Flashcards

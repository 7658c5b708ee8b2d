import Flashcards.Proofs.Hoist.Gain
import Flashcards.Proofs.Hoist.Pruning
import Flashcards.Session.Basic

/-!
# What cannot be shown

A text may be rejected where it is taken as a fragment of the page (`Page.Rejects`). It cannot be hoisted if it is rejected, or if a link to a
style sheet stands in one that is taken out (`Page.Unhoistable`). A note cannot be rendered if one of its fields is rejected, or if what a
template makes of it cannot be hoisted, or if what is left of that when its resources have been taken out is rejected (`Note.Unrenderable`);
this depends on the note, its model and the mode, and on nothing that has been shown before. From this follows exactly when the selection of
a deck, brought to its end, has no result (`Session.failed_showDeck`), and when the models that all decks share have none
(`Session.failed_takeRootModels`).
-/

namespace Flashcards

open Text Markup Markup.Node

/-- A text is rejected as a fragment. -/
def Page.Rejects (t : Text) : Prop := ∃ failure, Page.fragment t = .error failure

/-- Something has ended with a failure. -/
def Failed {α : Type} (e : Except Failure α) : Prop := ∃ failure, e = .error failure

theorem failed_map {α β : Type} {f : α → β} {e : Except Failure α} : Failed (e.map f) ↔ Failed e := by
  cases e with
  | error failure => exact ⟨fun _ => ⟨failure, rfl⟩, fun _ => ⟨failure, rfl⟩⟩
  | ok x => exact ⟨nofun, nofun⟩

theorem not_failed_ok {α : Type} {x : α} : ¬ Failed (.ok x : Except Failure α) := nofun

theorem failed_iff_isNone {α : Type} {e : Except Failure α} : Failed e ↔ e.toOption.isNone = true := by
  cases e with
  | error failure => exact ⟨fun _ => rfl, fun _ => ⟨failure, rfl⟩⟩
  | ok x => exact ⟨nofun, nofun⟩

/-- A text cannot be hoisted. -/
inductive Page.Unhoistable (t : Text) : Prop
  /-- It is rejected as a fragment. -/
  | rejected (h : Page.Rejects t)
  /-- A link to a style sheet stands in one that is taken out, and is gone when the search comes to it. -/
  | tangled {nodes : List Node} (h : Page.fragment t = .ok nodes) (ht : Tangled nodes)

/-- Hoisting a text fails as reading it does, or at a link that is gone. -/
theorem leftOf_eq_error_iff {librariesOnly : Bool} {t : Text} {failure : Failure} : leftOf librariesOnly t = .error failure ↔
    Page.fragment t = .error failure ∨ failure = .notAnObject .null ∧ ∃ nodes, Page.fragment t = .ok nodes ∧ Tangled nodes := by
  rw [leftOf]
  cases hf : Page.fragment t with
  | error failure' => simp
  | ok nodes =>
    have hcut := isCutShort_iff_tangled librariesOnly (parse_of_fragment hf)
    dsimp only
    constructor
    · intro h
      split at h
      · obtain rfl := Except.error.inj h
        exact Or.inr ⟨rfl, nodes, rfl, hcut.1 ‹_›⟩
      · cases h
    · rintro (h | ⟨rfl, nodes', h, ht⟩)
      · cases h
      · obtain rfl := Except.ok.inj h
        rw [if_pos (hcut.2 ht)]

/-- Hoisting a text fails exactly if it cannot be hoisted, whichever of its scripts are to be taken. -/
theorem failed_leftOf {librariesOnly : Bool} {t : Text} : Failed (leftOf librariesOnly t) ↔ Page.Unhoistable t := by
  constructor
  · rintro ⟨failure, h⟩
    rcases leftOf_eq_error_iff.1 h with hf | ⟨-, nodes, hf, ht⟩
    · exact .rejected ⟨failure, hf⟩
    · exact .tangled hf ht
  · rintro (⟨failure, hf⟩ | ⟨hf, ht⟩)
    · exact ⟨failure, leftOf_eq_error_iff.2 (Or.inl hf)⟩
    · exact ⟨_, leftOf_eq_error_iff.2 (Or.inr ⟨rfl, _, hf, ht⟩)⟩

theorem exists_leftOf_iff {librariesOnly : Bool} {t : Text} : (∃ rest, leftOf librariesOnly t = .ok rest) ↔ ¬ Page.Unhoistable t := by
  rw [← failed_leftOf, Failed]
  cases leftOf librariesOnly t <;> simp

/-- The template that a note of a model is rendered with in a mode, with the model, if there is one. -/
def NoteModel.templateIn? (mode : RenderMode) (model : Option NoteModel) : Option (NoteModel × CardTemplate) :=
  match mode with
  | .raw => none
  | .model => model.bind fun m => m.firstTemplate?.map (m, ·)

/-- A note cannot be rendered. -/
inductive Note.Unrenderable (note : Note) (model : Option NoteModel) (mode : RenderMode) : Prop
  /-- A field of a raw card is rejected. -/
  | field {field : Text} (ht : NoteModel.templateIn? mode model = none) (hf : field ∈ note.fields) (hr : Page.Rejects field)
  /-- What a template makes of the note cannot be hoisted. -/
  | faces {m : NoteModel} {template : CardTemplate} (ht : NoteModel.templateIn? mode model = some (m, template))
    (hr : Page.Unhoistable (Card.facesMarkup note m template))
  /-- What a template makes of the note gives up its resources, and what is left is rejected. -/
  | remainder {m : NoteModel} {template : CardTemplate} {nodes : List Node}
    (ht : NoteModel.templateIn? mode model = some (m, template)) (hn : Page.fragment (Card.facesMarkup note m template) = .ok nodes)
    (hr : Page.Rejects ((Harvest.ofNodes false nodes).remainder (Card.facesMarkup note m template)))

/-! ## Cards -/

namespace Card

variable {note : Note} {model : Option NoteModel} {mode : RenderMode}

/-- The rows of fields fail exactly if a field is rejected. -/
theorem failed_rowsFrom (names : List Text) (fields : List Text) (i : Nat) :
    Failed (rowsFrom names i fields) ↔ ∃ field ∈ fields, Page.Rejects field := by
  induction fields generalizing i with
  | nil => exact ⟨nofun, fun ⟨_, hf, _⟩ => nomatch hf⟩
  | cons field fields ih =>
    have hi := ih (i + 1)
    simp only [List.mem_cons, exists_eq_or_imp]
    rw [← hi, rowsFrom, Page.Rejects, Failed, Failed]
    cases Page.fragment field with
    | error failure => simp [bind, Except.bind]
    | ok nodes => cases rowsFrom names (i + 1) fields <;> simp [bind, Except.bind, pure, Except.pure]

theorem failed_raw : Failed (raw note model) ↔ ∃ field ∈ note.fields, Page.Rejects field := by
  rw [← failed_rowsFrom ((model.map NoteModel.fieldNames).getD []) note.fields 0, raw, Failed, Failed]
  cases rowsFrom ((model.map NoteModel.fieldNames).getD []) 0 note.fields <;> simp [bind, Except.bind, pure, Except.pure]

/-- A card is made from a template, or raw where there is none. -/
theorem render_eq (note : Note) (model : Option NoteModel) (mode : RenderMode) (w : Workspace) :
    render note model mode w =
      match NoteModel.templateIn? mode model with
      | some (m, template) => fromTemplate note m template w
      | none => (w, raw note model) := by
  cases mode with
  | raw => rfl
  | model =>
    cases model with
    | none => rfl
    | some m =>
      rw [render, NoteModel.templateIn?, Option.bind_some]
      cases m.firstTemplate? <;> rfl

/-- A card cannot be made exactly if its note cannot be rendered, whatever is on the page. -/
theorem failed_render (note : Note) (model : Option NoteModel) (mode : RenderMode) (w : Workspace) :
    Failed (render note model mode w).2 ↔ note.Unrenderable model mode := by
  rw [render_eq]
  cases ht : NoteModel.templateIn? mode model with
  | none =>
    rw [failed_raw]
    constructor
    · rintro ⟨field, hf, hr⟩
      exact .field ht hf hr
    · rintro (⟨-, hf, hr⟩ | ⟨ht', -⟩ | ⟨ht', -⟩)
      · exact ⟨_, hf, hr⟩
      · rw [ht] at ht'; cases ht'
      · rw [ht] at ht'; cases ht'
  | some found =>
    obtain ⟨m, template⟩ := found
    have hfaces : Failed (leftOf false (facesMarkup note m template)) ↔ _ := failed_leftOf
    dsimp only
    rw [fromTemplate_eq]
    cases hl : leftOf false (facesMarkup note m template) with
    | error failure => exact ⟨fun _ => .faces ht (hfaces.1 ⟨failure, hl⟩), fun _ => ⟨failure, rfl⟩⟩
    | ok rest =>
      obtain ⟨nodes, hn, -, rfl⟩ := leftOf_eq_ok_iff.1 hl
      dsimp only
      rw [Except.bind, failed_map]
      constructor
      · exact fun hr => .remainder ht hn hr
      · rintro (⟨ht', -⟩ | ⟨ht', hr⟩ | ⟨ht', hn', hr⟩)
        · rw [ht] at ht'; cases ht'
        · rw [ht] at ht'
          cases ht'
          obtain ⟨failure, hf⟩ := hfaces.2 hr
          rw [hl] at hf
          cases hf
        · rw [ht] at ht'
          cases ht'
          rw [hn] at hn'
          cases hn'
          exact hr

end Card

/-! ## Decks -/

namespace Session

/-- Rendering notes stops at a note exactly if there is one that cannot be rendered. -/
theorem renderFrom_eq_none_iff (node : DeckNode) (total : Nat) (notes : List Note) (done : Nat) (s : Session) :
    (s.renderFrom node total done notes).2 = none ↔ ∀ note ∈ notes, ¬ note.Unrenderable (s.models.resolve note) s.mode := by
  induction notes generalizing done s with
  | nil => exact ⟨fun _ _ h => (nomatch h), fun _ => rfl⟩
  | cons note notes ih =>
    have hn := Card.failed_render note (s.models.resolve note) s.mode s.workspace
    rw [List.forall_mem_cons, ← hn, renderFrom]
    generalize Card.render note (s.models.resolve note) s.mode s.workspace = r
    obtain ⟨w, failure | card⟩ := r
    · refine ⟨nofun, fun h => ?_⟩
      exact absurd ⟨failure, rfl⟩ h.1
    · exact (ih _ _).trans (and_iff_right not_failed_ok).symm

/-- A deck is rendered without a failure exactly if none of its notes is one that cannot be rendered. -/
theorem failed_renderDeck (node : DeckNode) (notes : List Note) (s : Session) :
    Failed (s.renderDeck node notes).2 ↔ ∃ note ∈ notes, note.Unrenderable (s.models.resolve note) s.mode := by
  have hn := renderFrom_eq_none_iff node notes.length notes 0 s.clearTable
  rw [renderDeck]
  dsimp only
  split
  · rename_i he
    rw [List.isEmpty_iff.1 he]
    exact ⟨nofun, fun ⟨_, h, _⟩ => nomatch h⟩
  · generalize s.clearTable.renderFrom node notes.length 0 notes = r at hn
    obtain ⟨s', _ | failure⟩ := r
    · refine ⟨nofun, fun ⟨note, hmem, hu⟩ => absurd hu (hn.1 rfl note hmem)⟩
    · refine ⟨fun _ => ?_, fun _ => ⟨failure, rfl⟩⟩
      refine Classical.byContradiction fun hnone => ?_
      nomatch hn.2 fun note hmem hu => hnone ⟨note, hmem, hu⟩

/-- Models are registered without a failure exactly if every template of theirs can be hoisted. -/
theorem register_eq_none_iff (models : List NoteModel) (s : Session) :
    (s.register models).2 = none ↔ ∀ t ∈ Workspace.templateTexts models, ¬ Page.Unhoistable t := by
  have hiff := s.workspace.preloadAll_eq_none_iff (Workspace.templateTexts models)
  simp only [exists_leftOf_iff] at hiff
  exact hiff

/-- The models that all decks share cannot be taken in exactly if a template of theirs cannot be hoisted. -/
theorem failed_takeRootModels (resource : Option Json) (s : Session) :
    Failed (s.takeRootModels resource).2 ↔
      ∃ data, resource = some data ∧ ∃ t ∈ Workspace.templateTexts (NoteModel.listOf data), Page.Unhoistable t := by
  cases resource with
  | none => exact ⟨nofun, fun ⟨_, h, _⟩ => nomatch h⟩
  | some data =>
    have hn := s.register_eq_none_iff (NoteModel.listOf data)
    rw [takeRootModels]
    generalize s.register (NoteModel.listOf data) = r at hn
    obtain ⟨s', _ | failure⟩ := r
    · refine ⟨nofun, ?_⟩
      rintro ⟨data', hdata, t, ht, hr⟩
      obtain rfl := Option.some.inj hdata
      exact absurd hr (hn.1 rfl t ht)
    · refine ⟨fun _ => ⟨data, rfl, ?_⟩, fun _ => ⟨failure, rfl⟩⟩
      refine Classical.byContradiction fun hnone => ?_
      nomatch hn.2 fun t ht hr => hnone ⟨t, ht, hr⟩

/-- The selection of a deck cannot be brought to its end exactly if a template of its models cannot be hoisted, or it is the newest and one of
its notes cannot be rendered with all the models that are registered then. -/
theorem failed_showDeck (selection : Selection) (notes : List Note) (models : Option Json) (s : Session) :
    Failed (s.showDeck selection notes models).2 ↔
      (∃ t ∈ Workspace.templateTexts ((models.map NoteModel.listOf).getD []), Page.Unhoistable t) ∨
        s.isNewest selection = true ∧
          ∃ note ∈ notes, note.Unrenderable ((s.models.merge ((models.map NoteModel.listOf).getD [])).resolve note) s.mode := by
  have hn := s.register_eq_none_iff ((models.map NoteModel.listOf).getD [])
  have hs : (s.register ((models.map NoteModel.listOf).getD [])).1.models = s.models.merge ((models.map NoteModel.listOf).getD []) ∧
      (s.register ((models.map NoteModel.listOf).getD [])).1.mode = s.mode ∧
      (s.register ((models.map NoteModel.listOf).getD [])).1.isNewest selection = s.isNewest selection := ⟨rfl, rfl, rfl⟩
  rw [showDeck]
  generalize s.register ((models.map NoteModel.listOf).getD []) = r at hn hs
  obtain ⟨s', _ | failure⟩ := r
  · rw [or_iff_right fun ⟨t, ht, hr⟩ => hn.1 rfl t ht hr]
    obtain ⟨hmodels, hmode, hnew⟩ := hs
    dsimp only at hmodels hmode hnew ⊢
    rw [hnew, ← hmodels, ← hmode]
    cases s.isNewest selection with
    | true => rw [if_pos rfl, and_iff_right rfl]; exact s'.failed_renderDeck selection.node notes
    | false => exact ⟨nofun, nofun⟩
  · refine ⟨fun _ => Or.inl ?_, fun _ => ⟨failure, rfl⟩⟩
    refine Classical.byContradiction fun hnone => ?_
    nomatch hn.2 fun t ht hr => hnone ⟨t, ht, hr⟩

end Session

end Flashcards

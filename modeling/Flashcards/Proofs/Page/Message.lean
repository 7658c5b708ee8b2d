import Flashcards.Proofs.Markup.Boxes
import Flashcards.Page.Basic

/-!
# Messages on the page

The three messages that a session shows in the place of the cards are markup that is never rejected: that a deck is being loaded, that
it has no notes, and that it could not be loaded. The last one holds the words of a failure, which may be any text; whatever they are,
the message is one element with one text in it (`fragment_errorMarkup`).
-/

namespace Flashcards

open Text Markup

namespace Page

/-- The element that tells of an error. -/
def errorBox (message : Text) : Node := classed "div" "error" [plain ("Error loading deck: " ++ message)]

/-- The element that tells that a deck has no notes. -/
def noNotesBox : Node := element "p" [] [plain "No notes in this deck."]

/-! ## The words of a failure -/

/-- A character that is no quote is written in a message as it is between tags. -/
theorem escapeChar_of_ne {c : Char} (hquot : c ≠ '\x22') (hapostrophe : c ≠ '\x27') : Chrome.escapeChar c = Markup.escapeChar c := by
  rw [Chrome.escapeChar, Markup.escapeChar, if_neg hquot, if_neg hapostrophe]

/-- A text as it is written in a message is a spelling of it. -/
theorem spells_message (m : Text) : Spells (Chrome.escape m) m := by
  refine spells_flatMap (fun c => ?_) m
  by_cases hquot : c = '\x22'
  · subst hquot
    exact Or.inr ⟨_, rfl, reference_quot⟩
  by_cases hapostrophe : c = '\x27'
  · subst hapostrophe
    exact Or.inr ⟨_, rfl, reference_apostrophe⟩
  rw [escapeChar_of_ne hquot hapostrophe]
  exact spelled_escapeChar c

/-- The markup that tells of an error is written as a box. -/
theorem errorMarkup_eq_box (m : Text) :
    Chrome.errorMarkup m = box [(("class" : Text), ("error" : Text))] (("Error loading deck: " : Text) ++ Chrome.escape m) := by
  have hopen : ("<div class=\"error\">Error loading deck: " : Text) =
      "<div" ++ (writtenAttributes [(("class" : Text), ("error" : Text))] ++ ('>' :: ("Error loading deck: " : Text))) := by decide +kernel
  unfold Chrome.errorMarkup box
  rw [hopen]
  simp only [List.append_assoc, List.cons_append]

/-- The markup that tells of an error is one element with one text, whatever the words of the error are. -/
theorem fragment_errorMarkup (m : Text) : fragment (Chrome.errorMarkup m) = .ok [errorBox m] := by
  have hspells : Spells (("Error loading deck: " : Text) ++ Chrome.escape m) ("Error loading deck: " ++ m) :=
    Spells.plain_append (List.all_eq_true.1 rfl) (spells_message m)
  have hblank : (("Error loading deck: " : Text) ++ m).all isMarkupBlank = false := rfl
  have hname : ∀ a ∈ [(("class" : Text), ("error" : Text))], AttributeName a.1 := List.forall_mem_singleton.2 attributeName_class
  rw [fragment, errorMarkup_eq_box, ((Content.spelled hspells hblank).box hname).parse]
  rfl

/-! ## The other messages -/

theorem fragment_loading : fragment Chrome.loading = .ok [plain Chrome.loading] := by
  have h : (fragment Chrome.loading).toOption = some [plain Chrome.loading] := by decide +kernel
  cases hf : fragment Chrome.loading <;> simp_all [Except.toOption]

theorem fragment_noNotes : fragment Chrome.noNotes = .ok [noNotesBox] := by
  have h : (fragment Chrome.noNotes).toOption = some [noNotesBox] := by decide +kernel
  cases hf : fragment Chrome.noNotes <;> simp_all [Except.toOption]

end Page

end Flashcards

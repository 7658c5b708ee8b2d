import Flashcards.Proofs.Session.Failing
import Flashcards.Proofs.Session.Supplied

/-!
# The words of a failure on the page

A selection that fails puts the words of its failure on the page. They may be any text, also one that is markup or looks as if
it had been escaped before. They are written as markup and read again, and what is read is one text, the words themselves
(`History.failure_words_shown`); nothing else on the page depends on them.
-/

namespace Flashcards

open Text Markup

/-- The text of a box with one text in it is that text. -/
theorem Markup.Node.textContent_div (attributes : Attributes) (t : Text) :
    (Node.element "div" attributes [.text .plain t]).textContent = t := by
  have hcounts : countsIn "div" .plain = true := by decide
  have htext : textOfKind (countsIn "div") (.text .plain t) = t := by rw [textOfKind, if_pos hcounts]
  show textOfKind (countsIn "div") (.text .plain t) ++ [] = t
  rw [htext, List.append_nil]

/-- The newest selection of a session, which is that of a deck by a call, fails. -/
def Session.failNewest (call : Nat) (node : DeckNode) (failure : Failure) (s : Session) : Session × DeckResult :=
  s.fail ⟨call, node, s.token⟩ failure

namespace History

/-- Whatever has happened to a session, and whatever the words of a failure of the newest selection are, the container of the cards holds one element
after it, with one text: the words. The rest of the page is the same for all failures. -/
theorem failure_words_shown (mode : RenderMode) (rootModels : Json) (xs : List Happening) (call : Nat) (node : DeckNode) :
    ∃ l : Layout, ∀ failure : Failure, ∃ (s : Session) (box : Node),
      ((fresh mode rootModels).through xs).session.failNewest call node failure = (s, ⟨node, .failed, [], 0, some failure⟩) ∧
        box = .element "div" [("class", .words ["error"])] [.text .plain ("Error loading deck: " ++ failure.message)] ∧
        box.textContent = "Error loading deck: " ++ failure.message ∧
        s.page.byId? Page.cardsId = some (Page.element "div" [("id", Page.cardsId)] [box]) ∧
        s.page.LaidOut { l with cards := [box] } := by
  obtain ⟨l, hl⟩ := exists_laidOut mode rootModels xs
  generalize ((fresh mode rootModels).through xs).session = s at hl ⊢
  refine ⟨l.reset, fun failure => ?_⟩
  have hnewest : s.isNewest ⟨call, node, s.token⟩ = true := beq_self_eq_true _
  have hshown := Session.showMessage_laidOut (Page.resetScripts_laidOut hl) (Page.fragment_errorMarkup failure.message)
  rw [Session.failNewest, Session.fail, if_pos hnewest]
  exact ⟨_, Page.errorBox failure.message, rfl, rfl, Node.textContent_div _ _, Page.byId?_cards hshown, hshown⟩

end History

end Flashcards

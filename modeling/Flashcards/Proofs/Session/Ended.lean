import Flashcards.Proofs.Session.Asking
import Flashcards.Proofs.Session.Dealing
import Flashcards.Proofs.Session.Supplied

/-!
# Calls that end with a deck

What holds in every history is put together here (`History.Sound`), and said of a call that ends with what came of a selection
(`History.EndsWith`): the deck could not be loaded, or the call has brought the selection to its end, with the notes that it has fetched itself,
and with models that have been fetched at the path of the deck's models. What the call comes to is what the session shows.
-/

namespace Flashcards

namespace History

/-- The page has a layout, the numbers of selections are their places, everything that is on its way comes from an answer, and the notes of a
call are asked for once. -/
structure Sound (h : History) : Prop where
  laidOut : ∃ l : Layout, h.session.page.LaidOut l
  orderly : h.course.Orderly
  traced : h.Traced
  asked : h.Asked

theorem sound (mode : RenderMode) (rootModels : Json) (xs : List Happening) : ((fresh mode rootModels).through xs).Sound :=
  ⟨exists_laidOut mode rootModels xs, orderly mode rootModels xs, traced mode rootModels xs, asked mode rootModels xs⟩

/-- A call has ended between two histories with what came of a selection. -/
inductive EndsWith (h h' : History) (call : Nat) (r : DeckResult) : Prop
  /-- The deck could not be loaded. -/
  | failed {selection : Selection} {failure : Failure} (hcall : selection.call = call) (hbegun : selection.BegunIn h.course.started)
    (hopen : ∀ e ∈ h.course.ended, e.1 ≠ call) (hs : h'.session = (h.session.fail selection failure).1)
    (hr : r = (h.session.fail selection failure).2)
  /-- The selection has been brought to its end, with the notes that the call has fetched, and no others, and with the deck's own models. -/
  | brought {job : CallJob} {selection : Selection} {notes : List Note} {own : Option Json} (hjob : job ∈ h.course.agenda.ready)
    (hready : SessionDesk.DeckReady h.desk job selection notes own) (hcall : selection.call = call) (hnode : r.deck = selection.node)
    (hbegun : (call, r.deck) ∈ h'.course.started) (hnotes : h'.answers.Notes call r.deck notes)
    (honly : ∀ others, h'.answers.Notes call r.deck others → others = notes)
    (hheld : ∀ data, own = some data → h'.answers.Holds r.deck.modelsPath data)
    (hb : h.session.Brought selection notes own h'.session r)

variable {h : History} {x : Happening} {call : Nat} {r : DeckResult}

/-- A call that ends with what came of a selection ends in one of these ways, and the session shows the result, unless it says that another
selection had begun. -/
theorem Sound.endsWith (hsound : h.Sound) (hend : (h.happen x).course.ended = h.course.ended ++ [(call, .ok (.shown r))]) :
    EndsWith h (h.happen x) call r ∧ (r.status ≠ .superseded → (h.happen x).session.Shows r) := by
  obtain ⟨l, hl⟩ := hsound.laidOut
  obtain ⟨i, job, hj, hending, hstarted⟩ := ending_of_ended hend
  have hjob := List.mem_of_getElem? hj
  refine ⟨?_, fun hne => ?_⟩
  · rcases hending.of_shown with ⟨selection, failure, hsel, hcall, hs, hr⟩ | ⟨selection, notes, own, hready, hcall, hbrought⟩
    · exact .failed hcall (hsound.orderly.ready job hjob selection hsel) (hsound.orderly.balanced.not_ended hj hending.thread) hs hr
    · have hnode := hbrought.node_eq
      obtain ⟨n, -, hn⟩ := hsound.orderly.ready job hjob selection hready.selection
      obtain ⟨hnotes, hheld⟩ := hready.traced hsound.traced.desk (hsound.traced.ready job hjob)
      have hfetched : (h.happen x).answers.Notes call r.deck notes := by
        rw [hnode, ← hcall]
        exact hnotes.mono (h.answers_subset x)
      refine .brought hjob hready hcall hnode ?_ hfetched (fun others hothers => ?_) (fun data hdata => ?_) hbrought
      · rw [hstarted, hnode, ← hcall]
        exact List.mem_of_getElem? hn
      · exact (hsound.asked.happen x).notes_eq (hsound.orderly.happen x) hfetched hothers
      · rw [hnode]
        exact (hheld data hdata).mono (h.answers_subset x)
  · rcases hending.effect hl with ⟨-, hover⟩ | ⟨_, -, -, -, -, hshow⟩
    · exact absurd (hover r rfl).1 hne
    · exact (hshow r rfl).2

end History

end Flashcards

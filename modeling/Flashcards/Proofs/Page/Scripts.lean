import Flashcards.Proofs.Hoist.Gain
import Flashcards.Proofs.Page.Message

/-!
# The scripts of a deck on the page

The scripts that a deck brings stand in the page's own region for them, or in the first element of the cards that has the region's name.
Which of these it is does not change when scripts are run (`Layout.carry_run`), so that scripts that are run one after the other on a page
that has run none all stand in one place (`Page.Unrun.foldl_runScript`).
-/

namespace Flashcards

open Markup Markup.Node

namespace Layout

variable {l : Layout}

/-- Whether the cards have an element of the name of the region for scripts does not change when a script is run. -/
theorem carry_run (content : Text) (l : Layout) : carry Page.deferredId (l.run content).cards = carry Page.deferredId l.cards := by
  rw [run]
  split
  · rename_i cards hc
    have hbefore : carry Page.deferredId l.cards = true := by
      cases h : carry Page.deferredId l.cards with
      | true => rfl
      | false =>
        rw [updateFirstAmong?_eq_none h] at hc
        cases hc
    rw [hbefore]
    exact carry_of_appendChild hc hbefore
  · rfl

/-- Scripts run one after the other. -/
def runAll (scripts : List Text) (l : Layout) : Layout := scripts.foldl (fun l t => l.run t) l

theorem carry_runAll (scripts : List Text) (l : Layout) :
    carry Page.deferredId (l.runAll scripts).cards = carry Page.deferredId l.cards := by
  induction scripts generalizing l with
  | nil => rfl
  | cons t ts ih => exact (ih (l.run t)).trans (l.carry_run t)

/-- Where the cards have no element of the name of the region, scripts that are run stand there. -/
theorem deferred_run (content : Text) (l : Layout) :
    (l.run content).deferred = if carry Page.deferredId l.cards then l.deferred else l.deferred ++ [content] := by
  cases h : carry Page.deferredId l.cards with
  | false =>
    rw [run_eq h]
    rfl
  | true =>
    rw [run]
    split
    · rfl
    · rename_i hnone
      rw [updateFirstAmong?_eq_none_iff] at hnone
      obtain ⟨n, hn, hid⟩ := List.any_eq_true.1 h
      rw [hnone n hn] at hid
      cases hid

theorem deferred_runAll (scripts : List Text) (l : Layout) :
    (l.runAll scripts).deferred = if carry Page.deferredId l.cards then l.deferred else l.deferred ++ scripts := by
  induction scripts generalizing l with
  | nil =>
    rw [List.append_nil, ite_self]
    rfl
  | cons t ts ih =>
    rw [runAll, List.foldl_cons, ← runAll, ih, carry_run, deferred_run]
    split
    · rfl
    · rw [List.append_assoc]
      rfl

end Layout

namespace Page

variable {p : Page} {l : Layout}

/-- The region for the scripts of a deck is the page's own where the cards have no element of its name. -/
theorem byId?_deferred (h : p.LaidOut l) (hc : carry deferredId l.cards = false) :
    p.byId? deferredId = some (element "div" [("id", deferredId)] (l.deferred.map inlineScript)) := by
  have hcards : (preorder (element "div" [("id", cardsId)] l.cards)).find? (hasId deferredId) = none := by
    rw [find?_of_ne (by decide)]
    exact List.find?_eq_none.2 (List.any_eq_false.1 hc)
  have hlibrary : (preorder (element "div" [("id", libraryId)] l.regions.library)).find? (hasId deferredId) = none := by
    refine find?_eq_none ?_
    rw [updateFirst?_of_ne (by decide), updateFirstAmong?_library]
    rfl
  rw [byId?_eq h (by decide) (by decide), find?_heading (by decide),
    find?_eq_none (updateFirst?_controls (by decide) (by decide)), hcards, hlibrary, find?_of_eq (by decide)]
  rfl

/-- No script of a deck has been run, and none stands in the page's own region for them. -/
def Unrun (p : Page) : Prop := p.executed = [] ∧ ∃ l : Layout, p.LaidOut l ∧ l.deferred = []

/-- Style sheets and libraries may be taken in. -/
theorem Unrun.gains {w w' : Workspace} (h : w.page.Unrun) (hg : w.Gains w') : w'.page.Unrun := by
  obtain ⟨he, l, hl, hd⟩ := h
  obtain ⟨l', hl', hgain⟩ := hg.layout l hl
  exact ⟨hg.executed.trans he, l', hl', hgain.deferred.trans hd⟩

theorem Unrun.appendCard (h : p.Unrun) (card : Node) : (p.appendCard card).Unrun := by
  obtain ⟨he, l, hl, hd⟩ := h
  exact ⟨he, _, appendCard_laidOut hl card, hd⟩

theorem Unrun.showNodes (h : p.Unrun) (nodes : List Node) : (p.showNodes nodes).Unrun := by
  obtain ⟨he, l, hl, hd⟩ := h
  exact ⟨he, _, showNodes_laidOut hl nodes, hd⟩

/-- Resetting scripts leaves none, where the cards have no element of the name of the region. -/
theorem resetScripts_unrun (h : p.LaidOut l) (hc : carry deferredId l.cards = false) : p.resetScripts.Unrun := by
  have hl := resetScripts_laidOut h
  rw [Layout.reset_eq hc] at hl
  exact ⟨rfl, _, hl, rfl⟩

theorem foldl_runScript_laidOut (scripts : List Text) (h : p.LaidOut l) :
    (scripts.foldl (fun p t => p.runScript t) p).LaidOut (l.runAll scripts) := by
  induction scripts generalizing p l with
  | nil => exact h
  | cons t ts ih => exact ih (runScript_laidOut h t)

theorem executed_foldl_runScript (scripts : List Text) (p : Page) :
    (scripts.foldl (fun p t => p.runScript t) p).executed = p.executed ++ scripts := by
  induction scripts generalizing p with
  | nil => exact (List.append_nil _).symm
  | cons t ts ih => exact (ih (p.runScript t)).trans (by rw [runScript, List.append_assoc]; rfl)

/-- Scripts run on a page that has run none are those that it remembers, and all of them stand in the page's own region, or none. -/
theorem Unrun.foldl_runScript (h : p.Unrun) (scripts : List Text) :
    (scripts.foldl (fun p t => p.runScript t) p).executed = scripts ∧
      ∃ l : Layout, (scripts.foldl (fun p t => p.runScript t) p).LaidOut l ∧
        l.deferred = if carry deferredId l.cards then [] else scripts := by
  obtain ⟨he, l, hl, hd⟩ := h
  refine ⟨?_, l.runAll scripts, foldl_runScript_laidOut scripts hl, ?_⟩
  · rw [executed_foldl_runScript, he, List.nil_append]
  · rw [Layout.carry_runAll, Layout.deferred_runAll, hd, List.nil_append]

end Page

end Flashcards

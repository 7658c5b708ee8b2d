import Mathlib.Data.List.Forall2
import Flashcards.Card
import Flashcards.Proofs.Hoist.Gain

/-!
# How cards grow

Cards that stand in the page may be changed after they have been made: a script goes to the first element of the name of its region, which
may be in a card. Nothing else is done to them (`Page.Adds.cards`): each card becomes what it was with scripts at the end of elements in it
(`Node.Grows`), and no card comes or goes.

All that hoisting does to a page, and all that running scripts does, is to add something to it (`Page.Adds`).
-/

namespace Flashcards

open Text Markup Markup.Node

namespace Markup.Node

/-- A node in which scripts have been put, one after the other, at the end of elements that have the name of a region for scripts. -/
inductive Grows (n : Node) : Node → Prop
  | refl : Grows n n
  | add {m m' script : Node} {id : Text} (h : Grows n m) (hid : id = Page.libraryId ∨ id = Page.deferredId)
    (hs : script.isNamed "script" = true) (hm : updateFirst? (hasId id) (appendChild script) m = some m') : Grows n m'

theorem Grows.trans {n m k : Node} (h : Grows n m) (h' : Grows m k) : Grows n k := by
  induction h' with
  | refl => exact h
  | add _ hid hs hm ih => exact ih.add hid hs hm

/-- A node in which no element has the name of a region for scripts does not grow. -/
theorem Grows.eq_of_unnamed {n m : Node} (h : Grows n m) (hn : ∀ id, id = Page.libraryId ∨ id = Page.deferredId → carry id [n] = false) :
    m = n := by
  induction h with
  | refl => rfl
  | @add m m' script id _ hid _ hm ih =>
    subst ih
    have hnone : updateFirstAmong? (hasId id) (appendChild script) [m] = none := updateFirstAmong?_eq_none (hn id hid)
    rw [updateFirstAmong?, hm] at hnone
    cases hnone

/-- Nodes that have each grown. -/
abbrev GrowAll : List Node → List Node → Prop := List.Forall₂ Grows

theorem GrowAll.refl (ns : List Node) : GrowAll ns ns := List.forall₂_same.2 fun _ _ => Grows.refl

theorem GrowAll.trans {ns ms ks : List Node} (h : GrowAll ns ms) (h' : GrowAll ms ks) : GrowAll ns ks := by
  induction h generalizing ks with
  | nil => exact h'
  | cons hn _ ih =>
    cases h' with
    | cons hm hms => exact List.Forall₂.cons (hn.trans hm) (ih hms)

/-- A script put into one of some nodes makes that one grow, and leaves the others. -/
theorem growAll_of_updateFirstAmong? {id : Text} {script : Node} (hid : id = Page.libraryId ∨ id = Page.deferredId)
    (hs : script.isNamed "script" = true) {ns ns' : List Node}
    (h : updateFirstAmong? (hasId id) (appendChild script) ns = some ns') : GrowAll ns ns' := by
  induction ns generalizing ns' with
  | nil => cases h
  | cons n ns ih =>
    rw [updateFirstAmong?] at h
    split at h
    · rename_i n' hn
      obtain rfl := Option.some.inj h
      exact List.Forall₂.cons (Grows.refl.add hid hs hn) (GrowAll.refl ns)
    · obtain ⟨ms, hms, rfl⟩ := Option.map_eq_some_iff.1 h
      exact List.Forall₂.cons Grows.refl (ih hms)

end Markup.Node

namespace Page

/-- A page to which style sheets, libraries and scripts of the deck have been added, one after the other. -/
inductive Adds (p : Page) : Page → Prop
  | refl : Adds p p
  | stylesheet {q : Page} (href : Text) (h : Adds p q) : Adds p (q.appendStylesheet href)
  | library {q : Page} (s : ScriptSource) (h : Adds p q) : Adds p (q.appendScript s)
  | run {q : Page} (content : Text) (h : Adds p q) : Adds p (q.runScript content)

variable {p q r : Page}

theorem Adds.trans (h : p.Adds q) (h' : q.Adds r) : p.Adds r := by
  induction h' with
  | refl => exact h
  | stylesheet href _ ih => exact ih.stylesheet href
  | library s _ ih => exact ih.library s
  | run content _ ih => exact ih.run content

/-- Scripts run one after the other are added. -/
theorem adds_runScripts (scripts : List Text) (p : Page) : p.Adds (scripts.foldl (fun p t => p.runScript t) p) := by
  induction scripts generalizing p with
  | nil => exact Adds.refl
  | cons t scripts ih => exact (Adds.refl.run t).trans (ih (p.runScript t))

/-- The cards of a layout grow when a script is put into it. -/
theorem growAll_addScript (l : Layout) (s : ScriptSource) : GrowAll l.cards (l.addScript s).cards := by
  rw [Layout.addScript]
  split
  · rename_i cards hc
    exact growAll_of_updateFirstAmong? (Or.inl rfl) rfl hc
  · exact GrowAll.refl l.cards

theorem growAll_run (l : Layout) (content : Text) : GrowAll l.cards (l.run content).cards := by
  rw [Layout.run]
  split
  · rename_i cards hc
    exact growAll_of_updateFirstAmong? (Or.inr rfl) rfl hc
  · exact GrowAll.refl l.cards

/-- What is added to a page makes its cards grow, and does nothing else to them. -/
theorem Adds.cards (h : p.Adds q) {l : Layout} (hl : p.LaidOut l) : ∃ l' : Layout, q.LaidOut l' ∧ GrowAll l.cards l'.cards := by
  induction h with
  | refl => exact ⟨l, hl, GrowAll.refl l.cards⟩
  | stylesheet href _ ih =>
    obtain ⟨l', hl', hgrow⟩ := ih
    exact ⟨_, appendStylesheet_laidOut hl' href, hgrow⟩
  | library s _ ih =>
    obtain ⟨l', hl', hgrow⟩ := ih
    exact ⟨_, appendScript_laidOut hl' s, hgrow.trans (growAll_addScript l' s)⟩
  | run content _ ih =>
    obtain ⟨l', hl', hgrow⟩ := ih
    exact ⟨_, runScript_laidOut hl' content, hgrow.trans (growAll_run l' content)⟩

end Page

/-! ## Hoisting adds -/

namespace Workspace

theorem claim_adds (address : Text) {change : Page → Page} (w : Workspace) (h : w.page.Adds (change w.page)) :
    w.page.Adds (w.claim address change).page := by
  rw [claim]
  split
  · exact Page.Adds.refl
  · exact h

theorem takeScript_adds (w : Workspace) (s : Script) : w.page.Adds (w.takeScript s).page := by
  cases s with
  | external s => exact claim_adds s.address w (Page.Adds.refl.library s)
  | inline content =>
    rw [takeScript]
    split <;> exact Page.Adds.refl

/-- What is taken in one after the other is added. -/
theorem foldl_adds {α : Type} {f : Workspace → α → Workspace} (hf : ∀ (w : Workspace) (x : α), w.page.Adds (f w x).page) (xs : List α)
    (w : Workspace) : w.page.Adds (xs.foldl f w).page := by
  induction xs generalizing w with
  | nil => exact Page.Adds.refl
  | cons x xs ih => exact (hf w x).trans (ih (f w x))

theorem take_adds (h : Harvest) (w : Workspace) : w.page.Adds (w.take h).page := by
  have hsheets := foldl_adds (fun w href => claim_adds href w (Page.Adds.refl.stylesheet href)) h.stylesheets w
  exact hsheets.trans (foldl_adds takeScript_adds h.scripts _)

/-- A fragment adds to the page, also if it cannot be hoisted. -/
theorem strip_adds (librariesOnly : Bool) (fragment : Text) (w : Workspace) : w.page.Adds (w.strip librariesOnly fragment).1.page := by
  rw [strip_eq]
  exact take_adds _ w

/-- The libraries of fragments that are taken in are added to the page, also where a fragment cannot be hoisted. -/
theorem preloadAll_adds (fragments : List Text) (w : Workspace) : w.page.Adds (w.preloadAll fragments).1.page := by
  induction fragments generalizing w with
  | nil => exact Page.Adds.refl
  | cons fragment fragments ih =>
    have hadds := strip_adds true fragment w
    rw [preloadAll]
    generalize w.strip true fragment = r at hadds
    obtain ⟨w', failure | rest⟩ := r
    · exact hadds
    · exact hadds.trans (ih w')

end Workspace

end Flashcards

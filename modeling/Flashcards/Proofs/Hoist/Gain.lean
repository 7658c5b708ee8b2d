import Flashcards.Proofs.Hoist.Searching
import Flashcards.Proofs.Page.Layout

/-!
# What taking resources in leaves alone

Style sheets and libraries may be taken in at any time, also while another deck is shown. They are added to the page, and everything
else stays (`Layout.Gains`): the title, the mode, the scripts of the deck, and the cards, unless an element in the cards has the name
of the region for libraries. Such an element stays there whatever is taken in, so whether the cards can change is the same before and
after.

Scripts with a text of their own wait to be run, and where only libraries are taken, none are added to them (`Workspace.preloadAll_gains`).
-/

namespace Flashcards

open Text Markup Markup.Node

/-- A layout to which style sheets and libraries have been added. -/
structure Layout.Gains (l l' : Layout) : Prop where
  deck : l'.deck = l.deck
  mode : l'.mode = l.mode
  deferred : l'.deferred = l.deferred
  size : l'.cards.length = l.cards.length
  cards : carry Page.libraryId l.cards = false → l'.cards = l.cards
  carry : carry Page.libraryId l.cards = true → carry Page.libraryId l'.cards = true

/-! ## Changes of nodes -/

namespace Markup.Node

/-- A change among nodes keeps how many there are. -/
theorem length_updateFirstAmong? {p : Node → Bool} {f : Node → Node} {ns ns' : List Node} (h : updateFirstAmong? p f ns = some ns') :
    ns'.length = ns.length := by
  induction ns generalizing ns' with
  | nil => cases h
  | cons n ns ih =>
    rw [updateFirstAmong?] at h
    split at h
    · obtain rfl := Option.some.inj h
      rfl
    · obtain ⟨ms, hms, rfl⟩ := Option.map_eq_some_iff.1 h
      simp only [List.length_cons, ih hms]

/-- A child put at the end of a node hides no name. -/
theorem any_hasId_appendChild (id : Text) (c n : Node) (h : (preorder n).any (hasId id) = true) :
    (preorder (appendChild c n)).any (hasId id) = true := by
  cases n with
  | text k t => exact h
  | element name as cs =>
    simp only [preorder, appendChild, List.any_cons, preorderAll_append, List.any_append, Bool.or_eq_true] at h ⊢
    exact h.imp_right Or.inl

/-- A child put at the end of a node among nodes hides no name. -/
theorem carry_of_appendChild {p : Node → Bool} {c : Node} {id : Text} {ns ns' : List Node}
    (h : updateFirstAmong? p (appendChild c) ns = some ns') (hc : carry id ns = true) : carry id ns' = true :=
  any_of_updateFirstAmong? (any_hasId_appendChild id c) (hasId_element_congr id) h hc

end Markup.Node

namespace Layout

variable {l l' l'' : Layout}

theorem Gains.refl (l : Layout) : l.Gains l := ⟨rfl, rfl, rfl, rfl, fun _ => rfl, id⟩

theorem Gains.trans (h : l.Gains l') (h' : l'.Gains l'') : l.Gains l'' where
  deck := h'.deck.trans h.deck
  mode := h'.mode.trans h.mode
  deferred := h'.deferred.trans h.deferred
  size := h'.size.trans h.size
  cards hc := (h'.cards (h.cards hc ▸ hc)).trans (h.cards hc)
  carry hc := h'.carry (h.carry hc)

/-- A style sheet stands in the head. -/
theorem gains_links (l : Layout) (links : List Text) : l.Gains { l with links := links } := ⟨rfl, rfl, rfl, rfl, fun _ => rfl, id⟩

/-- A library stands in its region, or in the cards if they have an element of that name. -/
theorem gains_addScript (l : Layout) (s : Page.ScriptSource) : l.Gains (l.addScript s) := by
  rw [addScript]
  split
  · rename_i cards hc
    refine ⟨rfl, rfl, rfl, length_updateFirstAmong? hc, fun hn => ?_, carry_of_appendChild hc⟩
    rw [updateFirstAmong?_eq_none hn] at hc
    cases hc
  · exact ⟨rfl, rfl, rfl, rfl, fun _ => rfl, id⟩

end Layout

namespace Workspace

/-- A workspace whose page has gained style sheets and libraries; the scripts run are the same. -/
structure Gains (w w' : Workspace) : Prop where
  layout : ∀ l, w.page.LaidOut l → ∃ l', w'.page.LaidOut l' ∧ l.Gains l'
  executed : w'.page.executed = w.page.executed

variable {w w' w'' : Workspace}

theorem Gains.refl (w : Workspace) : w.Gains w := ⟨fun l h => ⟨l, h, Layout.Gains.refl l⟩, rfl⟩

theorem Gains.trans (h : w.Gains w') (h' : w'.Gains w'') : w.Gains w'' := by
  refine ⟨fun l hl => ?_, h'.executed.trans h.executed⟩
  obtain ⟨l', hl', hg⟩ := h.layout l hl
  obtain ⟨l'', hl'', hg'⟩ := h'.layout l' hl'
  exact ⟨l'', hl'', hg.trans hg'⟩

/-- Only the page counts. -/
theorem Gains.of_page (h : w'.page = w.page) : w.Gains w' := by
  refine ⟨fun l hl => ⟨l, ?_, Layout.Gains.refl l⟩, by rw [h]⟩
  rw [h]
  exact hl

/-- An address that is claimed brings what is to be put in the page, or nothing. -/
theorem claim_gains (address : Text) {change : Page → Page} (w : Workspace)
    (hc : ∀ l, w.page.LaidOut l → ∃ l', (change w.page).LaidOut l' ∧ l.Gains l')
    (he : (change w.page).executed = w.page.executed) : w.Gains (w.claim address change) := by
  rw [claim]
  split
  · exact Gains.refl w
  · exact ⟨hc, he⟩

theorem takeStylesheet_gains (w : Workspace) (href : Text) : w.Gains (w.takeStylesheet href) :=
  claim_gains href w (fun l hl => ⟨_, Page.appendStylesheet_laidOut hl href, l.gains_links _⟩) rfl

theorem takeScript_gains (w : Workspace) (s : Script) : w.Gains (w.takeScript s) := by
  cases s with
  | external s => exact claim_gains s.address w (fun l hl => ⟨_, Page.appendScript_laidOut hl s, l.gains_addScript s⟩) rfl
  | inline content =>
    rw [takeScript]
    split
    · exact Gains.refl w
    · exact Gains.of_page rfl

/-- What is taken in one after the other adds up. -/
theorem foldl_gains {α : Type} {f : Workspace → α → Workspace} (hf : ∀ (w : Workspace) (x : α), w.Gains (f w x)) (xs : List α)
    (w : Workspace) :
    w.Gains (xs.foldl f w) := by
  induction xs generalizing w with
  | nil => exact Gains.refl w
  | cons x xs ih => exact (hf w x).trans (ih (f w x))

theorem take_gains (h : Harvest) (w : Workspace) : w.Gains (w.take h) :=
  (foldl_gains takeStylesheet_gains h.stylesheets w).trans (foldl_gains takeScript_gains h.scripts _)

/-- A fragment adds to the page what it gives up, also if it cannot be hoisted. -/
theorem strip_gains (librariesOnly : Bool) (fragment : Text) (w : Workspace) : w.Gains (w.strip librariesOnly fragment).1 := by
  rw [strip_eq]
  exact take_gains _ w

/-! ## Scripts that wait -/

/-- Taking in a script at an address, or a style sheet, makes no script wait. -/
theorem claim_deferred (address : Text) (change : Page → Page) (w : Workspace) :
    (w.claim address change).deferred = w.deferred := by
  rw [claim]
  split <;> rfl

/-- Where only libraries are taken, no script is taken that has a text of its own. -/
theorem scriptTaken?_ne_inline (n : Node) (content : Text) : scriptTaken? true n ≠ some (.inline content) := by
  intro h
  rw [scriptTaken?] at h
  split at h
  · simp at h
  · rename_i hs
    exact hs content h

/-- Of a fragment from which only libraries are taken, no script is taken that has a text of its own. -/
theorem not_inline_of_librariesOnly (fragment : Text) (content : Text) :
    Script.inline content ∉ (Harvest.ofFragment true fragment).scripts := by
  intro hm
  unfold Harvest.ofFragment at hm
  split at hm
  · cases hm
  · unfold Harvest.reached at hm
    dsimp only at hm
    split at hm
    · cases hm
    · obtain ⟨f, -, hf⟩ := List.mem_filterMap.1 hm
      exact scriptTaken?_ne_inline f.element content hf

/-- Taking in style sheets makes no script wait. -/
theorem stylesheets_deferred (hrefs : List Text) (w : Workspace) : (hrefs.foldl takeStylesheet w).deferred = w.deferred := by
  induction hrefs generalizing w with
  | nil => rfl
  | cons href hrefs ih => exact (ih _).trans (claim_deferred href _ w)

theorem take_deferred (h : Harvest) (w : Workspace) (hs : ∀ content, Script.inline content ∉ h.scripts) :
    (w.take h).deferred = w.deferred := by
  have hscripts : ∀ (ss : List Script), (∀ content, Script.inline content ∉ ss) →
      ∀ w : Workspace, (ss.foldl takeScript w).deferred = w.deferred := by
    intro ss
    induction ss with
    | nil => exact fun _ _ => rfl
    | cons s ss ih =>
      intro hss w
      refine (ih (fun content hc => hss content (List.mem_cons_of_mem s hc)) _).trans ?_
      cases s with
      | external s => exact claim_deferred s.address _ w
      | inline content => exact absurd (List.mem_cons_self ..) (hss content)
  exact (hscripts h.scripts hs _).trans (stylesheets_deferred h.stylesheets w)

/-- Which scripts wait after a fragment depends on which waited before, and on nothing else on the page. -/
theorem take_deferred_congr (h : Harvest) {w w' : Workspace} (hd : w.deferred = w'.deferred) :
    (w.take h).deferred = (w'.take h).deferred := by
  have hscripts : ∀ (ss : List Script) (w w' : Workspace), w.deferred = w'.deferred →
      (ss.foldl takeScript w).deferred = (ss.foldl takeScript w').deferred := by
    intro ss
    induction ss with
    | nil => exact fun _ _ hd => hd
    | cons s ss ih =>
      intro w w' hd
      refine ih _ _ ?_
      cases s with
      | external s => exact (claim_deferred s.address _ w).trans (hd.trans (claim_deferred s.address _ w').symm)
      | inline content =>
        rw [takeScript, takeScript]
        split
        · exact hd
        · exact congrArg (Collection.insert content) hd
  refine hscripts h.scripts _ _ ?_
  rw [stylesheets_deferred, stylesheets_deferred, hd]

theorem strip_librariesOnly_deferred (fragment : Text) (w : Workspace) : (w.strip true fragment).1.deferred = w.deferred := by
  rw [strip_eq]
  exact take_deferred _ w (not_inline_of_librariesOnly fragment)

/-- The libraries of fragments add to the page and make no script wait, also where a fragment cannot be hoisted. -/
theorem preloadAll_gains (fragments : List Text) (w : Workspace) :
    w.Gains (w.preloadAll fragments).1 ∧ (w.preloadAll fragments).1.deferred = w.deferred := by
  induction fragments generalizing w with
  | nil => exact ⟨Gains.refl w, rfl⟩
  | cons fragment fragments ih =>
    have hgains := strip_gains true fragment w
    have hdeferred := strip_librariesOnly_deferred fragment w
    rw [preloadAll]
    generalize w.strip true fragment = r at hgains hdeferred
    obtain ⟨w', failure | rest⟩ := r
    · exact ⟨hgains, hdeferred⟩
    · obtain ⟨hg, hd⟩ := ih w'
      exact ⟨hgains.trans hg, hd.trans hdeferred⟩

/-- Libraries are taken in without a failure exactly when every fragment can be hoisted, whatever has been taken in before. -/
theorem preloadAll_eq_none_iff (fragments : List Text) (w : Workspace) :
    (w.preloadAll fragments).2 = none ↔ ∀ t ∈ fragments, ∃ rest, leftOf true t = .ok rest := by
  induction fragments generalizing w with
  | nil => simp [preloadAll]
  | cons fragment fragments ih =>
    rw [preloadAll, strip_eq, List.forall_mem_cons]
    cases leftOf true fragment with
    | error failure => simp
    | ok rest => simpa using ih _

end Workspace

end Flashcards

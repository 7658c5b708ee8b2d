import Flashcards.Proofs.Hoist.Gain
import Flashcards.Proofs.Page.Resources

/-!
# What becomes of what is claimed

An address that is claimed is put on the page once: a style sheet in the head, a library in the region for libraries. Only where the cards
have an element of that region's name does a library go there instead, and it is gone when the cards are taken away. `Workspace.Supplies`
says so of two states of a workspace: what has been claimed since stands on the page, apart from what has gone astray, and what the page
had loaded before it still loads.
-/

namespace Flashcards

open Text Markup Markup.Node

/-! ## What a fragment gives up -/

/-- The address of a style sheet is not empty. -/
theorem nonEmpty_of_stylesheetAddress? {n : Node} {href : Text} (h : stylesheetAddress? n = some href) : nonEmpty href = true := by
  unfold stylesheetAddress? at h
  split at h
  · split at h
    · rename_i hc
      obtain rfl := Option.some.inj h
      exact (Bool.and_eq_true_iff.1 hc).2
    · cases h
  · cases h

/-- The address of a script is not empty. -/
theorem nonEmpty_of_script? {n : Node} {s : Page.ScriptSource} (h : script? n = some (.external s)) : nonEmpty s.address = true := by
  unfold script? at h
  split at h
  · split at h
    · obtain rfl := Script.external.inj (Option.some.inj h)
      rfl
    · cases h
  · cases h

/-- What is taken out of a fragment has an address that is not empty, or a text of its own. -/
structure Harvest.Addressed (h : Harvest) : Prop where
  stylesheets : ∀ href ∈ h.stylesheets, nonEmpty href = true
  scripts : ∀ s, Script.external s ∈ h.scripts → nonEmpty s.address = true

/-- The address of a script that is taken is not empty. -/
theorem nonEmpty_of_scriptTaken? {librariesOnly : Bool} {n : Node} {s : Page.ScriptSource}
    (h : scriptTaken? librariesOnly n = some (.external s)) : nonEmpty s.address = true := by
  unfold scriptTaken? at h
  split at h
  · split at h
    · cases h
    · cases Option.some.inj h
  · exact nonEmpty_of_script? h

theorem Harvest.ofFragment_addressed (librariesOnly : Bool) (fragment : Text) : (Harvest.ofFragment librariesOnly fragment).Addressed := by
  unfold ofFragment
  split
  · constructor <;> intro _ hm <;> cases hm
  · constructor
    · intro href hm
      obtain ⟨f, -, hf⟩ := List.mem_filterMap.1 hm
      exact nonEmpty_of_stylesheetAddress? hf
    · intro s hm
      unfold reached at hm
      dsimp only at hm
      split at hm
      · cases hm
      · obtain ⟨f, -, hf⟩ := List.mem_filterMap.1 hm
        exact nonEmpty_of_scriptTaken? hf

/-! ## What a page gains -/

namespace Layout

/-- A layout with more addresses, each of which is one. -/
structure Supplied (l l' : Layout) (new : List Text) : Prop where
  perm : l'.addresses.Perm (l.addresses ++ new)
  nonEmpty : ∀ t ∈ new, Text.nonEmpty t = true

theorem Supplied.refl (l : Layout) : l.Supplied l [] := ⟨by rw [List.append_nil], by simp⟩

/-- Only the style sheets and the libraries count. -/
theorem Supplied.of_eq {l l' : Layout} (hlinks : l'.links = l.links) (hlibrary : l'.library = l.library) : l.Supplied l' [] :=
  ⟨by rw [addresses, addresses, hlinks, hlibrary, List.append_nil], by simp⟩

theorem supplied_links (l : Layout) {href : Text} (h : Text.nonEmpty href = true) :
    l.Supplied { l with links := l.links ++ [href] } [href] := by
  refine ⟨?_, by simpa using h⟩
  simp only [addresses, List.append_assoc]
  exact List.Perm.append_left _ List.perm_append_comm

theorem supplied_library (l : Layout) {s : Page.ScriptSource} (h : Text.nonEmpty s.address = true) :
    l.Supplied { l with library := l.library ++ [s] } [s.address] := by
  refine ⟨?_, by simpa using h⟩
  simp only [addresses, List.map_append, List.map_cons, List.map_nil, List.append_assoc]
  exact List.Perm.refl _

end Layout

namespace Workspace

/-- The cards have an element of the name of the region for libraries. -/
def Astray (w : Workspace) : Prop := carry Page.libraryId w.page.cards = true

/-- What has been claimed between two states of a workspace is on the page, apart from what has gone astray, which happens only under a
condition. -/
def Supplies (astray : Prop) (w w' : Workspace) : Prop :=
  ∀ l : Layout, w.page.LaidOut l → ∃ (l' : Layout) (new strays : List Text), w'.page.LaidOut l' ∧ l.Supplied l' new ∧
    w'.claimed.items.Perm (w.claimed.items ++ new ++ strays) ∧ (strays ≠ [] → astray)

variable {w w' w'' : Workspace} {astray astray' : Prop}

theorem Supplies.refl (w : Workspace) : w.Supplies astray w := by
  intro l hl
  refine ⟨l, [], [], hl, Layout.Supplied.refl l, ?_, fun h => absurd rfl h⟩
  simp only [List.append_nil, List.Perm.refl]

theorem Supplies.mono (h : w.Supplies astray w') (ha : astray → astray') : w.Supplies astray' w' := by
  intro l hl
  obtain ⟨l', new, strays, hl', hs, hp, hstray⟩ := h l hl
  exact ⟨l', new, strays, hl', hs, hp, fun hne => ha (hstray hne)⟩

theorem Supplies.trans (h : w.Supplies astray w') (h' : w'.Supplies astray w'') : w.Supplies astray w'' := by
  intro l hl
  obtain ⟨l', new, strays, hl', hs, hp, hstray⟩ := h l hl
  obtain ⟨l'', new', strays', hl'', hs', hp', hstray'⟩ := h' l' hl'
  refine ⟨l'', new ++ new', strays ++ strays', hl'', ⟨?_, ?_⟩, ?_, ?_⟩
  · have happend := hs'.perm.trans (List.Perm.append_right new' hs.perm)
    rwa [List.append_assoc] at happend
  · intro t ht
    exact (List.mem_append.1 ht).elim (hs.nonEmpty t) (hs'.nonEmpty t)
  · rw [List.perm_iff_count] at hp hp' ⊢
    intro t
    have ht := hp t
    have ht' := hp' t
    simp only [List.count_append] at ht ht' ⊢
    omega
  · intro hne
    by_cases hempty : strays = []
    · refine hstray' fun hempty' => hne ?_
      rw [hempty, hempty', List.append_nil]
    · exact hstray hempty

/-- A change of the page that adds no style sheet and no library, with nothing claimed. -/
theorem Supplies.of_page (hc : w'.claimed = w.claimed)
    (h : ∀ l, w.page.LaidOut l → ∃ l' : Layout, w'.page.LaidOut l' ∧ l'.links = l.links ∧ l'.library = l.library) :
    w.Supplies astray w' := by
  intro l hl
  obtain ⟨l', hl', hlinks, hlibrary⟩ := h l hl
  refine ⟨l', [], [], hl', Layout.Supplied.of_eq hlinks hlibrary, ?_, fun hne => absurd rfl hne⟩
  rw [hc, List.append_nil, List.append_nil]

/-- Whether there is an element that leads libraries astray stays as it is when style sheets and libraries are added. -/
theorem Gains.astray_iff (h : w.Gains w') {l : Layout} (hl : w.page.LaidOut l) : w'.Astray ↔ w.Astray := by
  obtain ⟨l', hl', hg⟩ := h.layout l hl
  rw [Astray, Astray, Page.cards_eq hl, Page.cards_eq hl']
  refine ⟨fun hc => ?_, hg.carry⟩
  by_cases hn : carry Page.libraryId l.cards = true
  · exact hn
  · rw [hg.cards (Bool.eq_false_iff.2 hn)] at hc
    exact hc

/-- Additions one after the other, the second astray where the first has been. -/
theorem Supplies.trans_gains (h : w.Supplies w.Astray w') (hg : w.Gains w') (h' : w'.Supplies w'.Astray w'') :
    w.Supplies w.Astray w'' := by
  intro l hl
  exact h.trans (h'.mono (hg.astray_iff hl).1) l hl

/-! ## Taking resources in -/

/-- An address that is claimed for the first time brings its element to the page, or to the cards. -/
theorem claim_supplies (address : Text) {change : Page → Page} (w : Workspace)
    (hc : ∀ l, w.page.LaidOut l → ∃ l' : Layout, (change w.page).LaidOut l' ∧ (l.Supplied l' [address] ∨ l.Supplied l' [] ∧ w.Astray)) :
    w.Supplies w.Astray (w.claim address change) := by
  rw [claim]
  split
  · exact Supplies.refl w
  · rename_i hnew
    intro l hl
    have hi : (w.claimed.insert address).items = w.claimed.items ++ [address] := by
      rw [Collection.insert, dif_neg hnew]
    obtain ⟨l', hl', hs | ⟨hs, hastray⟩⟩ := hc l hl
    · refine ⟨l', [address], [], hl', hs, ?_, fun hne => absurd rfl hne⟩
      rw [hi, List.append_nil]
    · refine ⟨l', [], [address], hl', hs, ?_, fun _ => hastray⟩
      rw [hi, List.append_nil]

theorem takeStylesheet_supplies (w : Workspace) {href : Text} (h : nonEmpty href = true) : w.Supplies w.Astray (w.takeStylesheet href) :=
  claim_supplies href w fun l hl => ⟨_, Page.appendStylesheet_laidOut hl href, Or.inl (l.supplied_links h)⟩

/-- A library stands in its region, or in the cards. -/
theorem addScript_supplied (l : Layout) {s : Page.ScriptSource} (h : nonEmpty s.address = true) :
    l.Supplied (l.addScript s) [s.address] ∨ l.Supplied (l.addScript s) [] ∧ carry Page.libraryId l.cards = true := by
  rw [Layout.addScript]
  split
  · rename_i cards hc
    refine Or.inr ⟨Layout.Supplied.of_eq rfl rfl, ?_⟩
    by_cases hn : carry Page.libraryId l.cards = true
    · exact hn
    · rw [updateFirstAmong?_eq_none (Bool.eq_false_iff.2 hn)] at hc
      cases hc
  · exact Or.inl (l.supplied_library h)

theorem takeScript_supplies (w : Workspace) {s : Script} (h : ∀ source, s = .external source → nonEmpty source.address = true) :
    w.Supplies w.Astray (w.takeScript s) := by
  cases s with
  | external source =>
    refine claim_supplies source.address w fun l hl => ⟨_, Page.appendScript_laidOut hl source, ?_⟩
    rw [Astray, Page.cards_eq hl]
    exact addScript_supplied l (h source rfl)
  | inline content =>
    rw [takeScript]
    split
    · exact Supplies.refl w
    · exact Supplies.of_page rfl fun l hl => ⟨l, hl, rfl, rfl⟩

/-- What is taken in one after the other adds up. -/
theorem foldl_supplies {α : Type} {f : Workspace → α → Workspace} (hg : ∀ (w : Workspace) (x : α), w.Gains (f w x)) (xs : List α)
    (hf : ∀ w : Workspace, ∀ x ∈ xs, w.Supplies w.Astray (f w x)) (w : Workspace) : w.Supplies w.Astray (xs.foldl f w) := by
  induction xs generalizing w with
  | nil => exact Supplies.refl w
  | cons x xs ih =>
    exact (hf w x List.mem_cons_self).trans_gains (hg w x) (ih (fun w y hy => hf w y (List.mem_cons_of_mem x hy)) (f w x))

theorem take_supplies (w : Workspace) {h : Harvest} (ha : h.Addressed) : w.Supplies w.Astray (w.take h) := by
  have hsheets := foldl_supplies takeStylesheet_gains h.stylesheets (fun w href hm => takeStylesheet_supplies w (ha.stylesheets href hm)) w
  refine hsheets.trans_gains (foldl_gains takeStylesheet_gains h.stylesheets w) ?_
  refine foldl_supplies takeScript_gains h.scripts (fun w s hm => takeScript_supplies w ?_) _
  rintro source rfl
  exact ha.scripts source hm

/-- A fragment adds to the page what it gives up, once, also if it cannot be hoisted. -/
theorem strip_supplies (librariesOnly : Bool) (fragment : Text) (w : Workspace) :
    w.Supplies w.Astray (w.strip librariesOnly fragment).1 := by
  rw [strip_eq]
  exact take_supplies w (Harvest.ofFragment_addressed librariesOnly fragment)

/-- The libraries of fragments are added once each, also where a fragment cannot be hoisted. -/
theorem preloadAll_supplies (fragments : List Text) (w : Workspace) : w.Supplies w.Astray (w.preloadAll fragments).1 := by
  induction fragments generalizing w with
  | nil => exact Supplies.refl w
  | cons fragment fragments ih =>
    have hsupplies := strip_supplies true fragment w
    have hgains := strip_gains true fragment w
    rw [preloadAll]
    generalize w.strip true fragment = r at hsupplies hgains
    obtain ⟨w', failure | rest⟩ := r
    · exact hsupplies
    · exact hsupplies.trans_gains hgains (ih w')

end Workspace

end Flashcards

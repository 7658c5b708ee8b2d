import Flashcards.Proofs.Hoist.Pruning
import Flashcards.Proofs.Hoist.Scripts

/-!
# Hoisting a fragment again

Everything that a fragment gives up at an address has been claimed when the fragment has been taken in (`Workspace.take_taken`), and
what has been claimed is not taken in again (`Workspace.take_of_taken`). So when a fragment is hoisted again, the page and the addresses
claimed stay as they are, also where the one time its scripts are taken and the other time they are left (`Workspace.strip_of_taken`).
-/

namespace Flashcards

open Text Markup Markup.Node

namespace Workspace

variable {w w' : Workspace} {h : Harvest}

/-- A workspace is its page, the addresses claimed on it and the scripts that wait. -/
theorem eq_of_parts (hp : w'.page = w.page) (hc : w'.claimed = w.claimed) (hd : w'.deferred = w.deferred) : w' = w := by
  cases w
  cases w'
  simp_all

/-! ## What has been claimed -/

/-- Everything that a fragment gives up at an address has been claimed. -/
structure Taken (h : Harvest) (w : Workspace) : Prop where
  stylesheets : ∀ href ∈ h.stylesheets, href ∈ w.claimed.items
  scripts : ∀ source, Script.external source ∈ h.scripts → source.address ∈ w.claimed.items

theorem Taken.mono (ht : w.Taken h) (hs : w.claimed.items ⊆ w'.claimed.items) : w'.Taken h :=
  ⟨fun href hm => hs (ht.stylesheets href hm), fun source hm => hs (ht.scripts source hm)⟩

/-- An address that is claimed has been claimed, and so have those before it. -/
theorem mem_claim {t address : Text} {change : Page → Page} :
    t ∈ (w.claim address change).claimed.items ↔ t = address ∨ t ∈ w.claimed.items := by
  unfold claim
  by_cases ha : w.claimed.contains address = true
  · rw [if_pos ha]
    constructor
    · exact Or.inr
    · rintro (rfl | ht)
      · simpa [Collection.contains] using ha
      · exact ht
  · rw [if_neg ha]
    exact Collection.mem_insert

/-- An address that has been claimed before brings nothing. -/
theorem claim_of_mem {address : Text} {change : Page → Page} (ha : address ∈ w.claimed.items) : w.claim address change = w := by
  unfold claim
  rw [if_pos (by simpa [Collection.contains] using ha)]

theorem mem_takeStylesheets {t : Text} {hrefs : List Text} :
    t ∈ (hrefs.foldl takeStylesheet w).claimed.items ↔ t ∈ hrefs ∨ t ∈ w.claimed.items := by
  induction hrefs generalizing w with
  | nil => simp
  | cons href hrefs ih =>
    rw [List.foldl_cons, ih, takeStylesheet, mem_claim, List.mem_cons]
    constructor
    · rintro (ht | ht | ht)
      · exact Or.inl (Or.inr ht)
      · exact Or.inl (Or.inl ht)
      · exact Or.inr ht
    · rintro ((ht | ht) | ht)
      · exact Or.inr (Or.inl ht)
      · exact Or.inl ht
      · exact Or.inr (Or.inr ht)

/-- A script at an address claims it; another one claims nothing. -/
theorem mem_takeScript {t : Text} {s : Script} :
    t ∈ (w.takeScript s).claimed.items ↔ (∃ source, s = .external source ∧ source.address = t) ∨ t ∈ w.claimed.items := by
  cases s with
  | external source =>
    rw [takeScript, mem_claim]
    simp [eq_comm]
  | inline content =>
    rw [takeScript]
    split <;> simp

theorem mem_takeScripts {t : Text} {ss : List Script} :
    t ∈ (ss.foldl takeScript w).claimed.items ↔ (∃ source, Script.external source ∈ ss ∧ source.address = t) ∨ t ∈ w.claimed.items := by
  induction ss generalizing w with
  | nil => simp
  | cons s ss ih =>
    rw [List.foldl_cons, ih, mem_takeScript]
    constructor
    · rintro (⟨source, hs, ht⟩ | ⟨source, hs, ht⟩ | ht)
      · exact Or.inl ⟨source, List.mem_cons_of_mem s hs, ht⟩
      · exact Or.inl ⟨source, hs ▸ List.mem_cons_self, ht⟩
      · exact Or.inr ht
    · rintro (⟨source, hs, ht⟩ | ht)
      · rcases List.mem_cons.1 hs with hs | hs
        · exact Or.inr (Or.inl ⟨source, hs.symm, ht⟩)
        · exact Or.inl ⟨source, hs, ht⟩
      · exact Or.inr (Or.inr ht)

/-- When a fragment has been taken in, everything that it gives up at an address has been claimed. -/
theorem take_taken (h : Harvest) (w : Workspace) : (w.take h).Taken h := by
  refine ⟨?_, ?_⟩
  · intro href hm
    exact mem_takeScripts.2 (Or.inr (mem_takeStylesheets.2 (Or.inl hm)))
  · intro source hm
    exact mem_takeScripts.2 (Or.inl ⟨source, hm, rfl⟩)

/-! ## Taking in again -/

theorem takeStylesheets_of_mem {hrefs : List Text} (hm : ∀ href ∈ hrefs, href ∈ w.claimed.items) :
    hrefs.foldl takeStylesheet w = w := by
  induction hrefs with
  | nil => rfl
  | cons href hrefs ih =>
    rw [List.foldl_cons, takeStylesheet, claim_of_mem (hm href List.mem_cons_self)]
    exact ih fun href' hm' => hm href' (List.mem_cons_of_mem href hm')

/-- Scripts whose addresses have been claimed leave the page and the addresses as they are. -/
theorem takeScripts_of_mem {ss : List Script} (hm : ∀ source, Script.external source ∈ ss → source.address ∈ w.claimed.items) :
    (ss.foldl takeScript w).page = w.page ∧ (ss.foldl takeScript w).claimed = w.claimed := by
  induction ss generalizing w with
  | nil => exact ⟨rfl, rfl⟩
  | cons s ss ih =>
    have hone : (w.takeScript s).page = w.page ∧ (w.takeScript s).claimed = w.claimed := by
      cases s with
      | external source =>
        rw [takeScript, claim_of_mem (hm source List.mem_cons_self)]
        exact ⟨rfl, rfl⟩
      | inline content =>
        rw [takeScript]
        split <;> exact ⟨rfl, rfl⟩
    have hrest := ih (w := w.takeScript s) fun source hs => by
      rw [hone.2]
      exact hm source (List.mem_cons_of_mem s hs)
    exact ⟨hrest.1.trans hone.1, hrest.2.trans hone.2⟩

/-- What has been claimed is not taken in again. -/
theorem take_of_taken (ht : w.Taken h) : (w.take h).page = w.page ∧ (w.take h).claimed = w.claimed := by
  rw [take, takeStylesheets_of_mem ht.stylesheets]
  exact takeScripts_of_mem ht.scripts

/-- Which scripts at addresses a fragment gives up does not depend on whether its other scripts are taken. -/
theorem mem_ofNodes_external {source : Page.ScriptSource} (librariesOnly librariesOnly' : Bool) {nodes : List Node}
    (hm : Script.external source ∈ (Harvest.ofNodes librariesOnly nodes).scripts) :
    Script.external source ∈ (Harvest.ofNodes librariesOnly' nodes).scripts := by
  simp only [Harvest.ofNodes, List.mem_filterMap] at hm ⊢
  obtain ⟨n, hn, hs⟩ := hm
  refine ⟨n, hn, ?_⟩
  unfold scriptTaken? at hs ⊢
  cases hscript : script? n with
  | none => rw [hscript] at hs; cases hs
  | some s =>
    cases s with
    | external source' => rw [hscript] at hs; exact hs
    | inline content =>
      rw [hscript] at hs
      cases librariesOnly <;> cases hs

theorem Taken.other {librariesOnly : Bool} {nodes : List Node} (ht : w.Taken (Harvest.ofNodes librariesOnly nodes))
    (librariesOnly' : Bool) : w.Taken (Harvest.ofNodes librariesOnly' nodes) :=
  ⟨ht.stylesheets, fun source hm => ht.scripts source (mem_ofNodes_external librariesOnly' librariesOnly hm)⟩

/-- What a fragment comes to, or how it fails, depends on the fragment alone. -/
theorem hoist_rest_congr (librariesOnly : Bool) (fragment : Text) (w w' : Workspace) :
    (w.hoist librariesOnly fragment).map Prod.fst = (w'.hoist librariesOnly fragment).map Prod.fst := by
  rw [hoist_eq, hoist_eq]
  cases leftOf librariesOnly fragment <;> rfl

/-- Whether a fragment can be hoisted does not depend on whether its scripts are taken that are at no address. -/
theorem isCutShort_congr (librariesOnly librariesOnly' : Bool) {fragment : Text} {nodes : List Node}
    (hf : Page.fragment fragment = .ok nodes) :
    Harvest.isCutShort librariesOnly nodes = Harvest.isCutShort librariesOnly' nodes := by
  rw [Bool.eq_iff_iff, isCutShort_iff_tangled librariesOnly (parse_of_fragment hf),
    isCutShort_iff_tangled librariesOnly' (parse_of_fragment hf)]

/-- A fragment that has been hoisted is hoisted again, with the same choice or the other, in a workspace that has claimed what had been
claimed then: nothing is claimed, and the page stays as it is. No script is added to those that wait if the choice is the same and those
that waited then still do. -/
theorem strip_of_taken {librariesOnly : Bool} {fragment rest : Text} {w₀ w w' : Workspace}
    (hw : w₀.strip librariesOnly fragment = (w, .ok rest)) (hs : w.claimed.items ⊆ w'.claimed.items) (librariesOnly' : Bool) :
    ∃ rest' w'', w'.strip librariesOnly' fragment = (w'', .ok rest') ∧ w''.page = w'.page ∧ w''.claimed = w'.claimed ∧
      (librariesOnly' = librariesOnly → w.deferred.items ⊆ w'.deferred.items → w''.deferred = w'.deferred) := by
  obtain ⟨nodes, hf, hcut, rfl⟩ := exists_nodes_of_strip hw
  have htaken := ((take_taken (Harvest.ofNodes librariesOnly nodes) w₀).mono hs).other librariesOnly'
  obtain ⟨hpage, hclaimed⟩ := take_of_taken htaken
  refine ⟨_, _, strip_of_fragment hf ((isCutShort_congr librariesOnly' librariesOnly hf).trans hcut), hpage, hclaimed, ?_⟩
  rintro rfl hwait
  rw [take_deferred_eq] at hwait ⊢
  refine Collection.insertAll_of_subset fun t ht => hwait (Collection.mem_insertAll.2 (Or.inl ht))

end Workspace

end Flashcards

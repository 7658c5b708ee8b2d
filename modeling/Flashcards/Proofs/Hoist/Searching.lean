import Mathlib.Data.List.TakeWhile
import Flashcards.Card

/-!
# Searching while elements are taken out

A search goes through the elements that it has found in document order and takes out those that give something up, each with all that is in
it. It ends at an element that is gone, and by then it has taken in what the elements before that one give up (`Workspace.takeFound_eq`). So
what a fragment brings, and what is left of it, depends on the fragment alone (`Workspace.strip_eq`).

An element is gone when it stands in one that is taken out (`exists_gone_found_iff`). Where no element that is looked for does, a fragment
brings all that it has (`Harvest.reached_eq_ofNodes`).
-/

namespace Flashcards

open Text Markup Markup.Node

/-! ## What is found -/

section Findings

variable {p : Node → Bool}

mutual

/-- What is looked for among the elements of a node is what is looked for in the node. -/
theorem filterMap_findingsOf {β : Type} {g : Node → Option β} (hg : ∀ k t, g (.text k t) = none) (isGone : Bool) :
    ∀ n : Node, (findingsOf p isGone n).filterMap (fun f => g f.element) = (preorder n).filterMap g
  | .text k t => by rw [findingsOf, preorder, List.filterMap_nil, List.filterMap_cons_none (hg k t), List.filterMap_nil]
  | .element name as cs => by rw [findingsOf, preorder, List.filterMap_cons, List.filterMap_cons, filterMap_findings hg _ cs]

/-- What is looked for among the elements of nodes is what is looked for in the nodes. -/
theorem filterMap_findings {β : Type} {g : Node → Option β} (hg : ∀ k t, g (.text k t) = none) (isGone : Bool) :
    ∀ ns : List Node, (findings p isGone ns).filterMap (fun f => g f.element) = (preorderAll ns).filterMap g
  | [] => rfl
  | n :: ns => by
    rw [findings, preorderAll, List.filterMap_append, List.filterMap_append, filterMap_findingsOf hg, filterMap_findings hg]

end

mutual

/-- An element of a node is gone if all of them are, or if it stands in one that is taken out. -/
theorem exists_gone_findingsOf_iff {q : Node → Bool} (hq : ∀ k t, q (.text k t) = false) (isGone : Bool) : ∀ n : Node,
    (∃ f ∈ findingsOf p isGone n, q f.element = true ∧ f.isGone = true) ↔
      (isGone = true ∧ ∃ m ∈ preorder n, q m = true) ∨
        ∃ e ∈ preorder n, p e = true ∧ ∃ m ∈ preorderAll e.children, q m = true
  | .text k t => by simp [findingsOf, preorder, preorderAll, children, hq]
  | .element name as cs => by
    have hcs := exists_gone_findings_iff hq (isGone || p (.element name as cs)) cs
    have hself : (Node.element name as cs).children = cs := rfl
    simp only [findingsOf, preorder, List.mem_cons, exists_eq_or_imp, hself, hcs]
    cases isGone <;> cases p (.element name as cs) <;> simp [or_assoc]

/-- An element of nodes is gone if all of them are, or if it stands in one that is taken out. -/
theorem exists_gone_findings_iff {q : Node → Bool} (hq : ∀ k t, q (.text k t) = false) (isGone : Bool) : ∀ ns : List Node,
    (∃ f ∈ findings p isGone ns, q f.element = true ∧ f.isGone = true) ↔
      (isGone = true ∧ ∃ m ∈ preorderAll ns, q m = true) ∨
        ∃ e ∈ preorderAll ns, p e = true ∧ ∃ m ∈ preorderAll e.children, q m = true
  | [] => by simp [findings, preorderAll]
  | n :: ns => by
    have hn := exists_gone_findingsOf_iff hq isGone n
    have hns := exists_gone_findings_iff hq isGone ns
    simp only [findings, preorderAll, List.mem_append, or_and_right, exists_or, hn, hns, and_or_left]
    exact or_or_or_comm

end

end Findings

/-- What the elements that a search has found give up before it comes to one that is gone. -/
def givenUp {α : Type} (given? : Node → Option α) (fs : List Finding) : List α :=
  (fs.takeWhile fun f => !f.isGone).filterMap fun f => given? f.element

section Found

variable {α : Type} {wanted : Node → Bool} {given? : Node → Option α}

/-- A search comes to an element that is gone if one that it looks for stands in one that it takes out. -/
theorem any_isGone_found_iff (hw : ∀ k t, wanted (.text k t) = false) (nodes : List Node) :
    (found wanted given? nodes).any Finding.isGone = true ↔
      ∃ n ∈ preorderAll nodes, (given? n).isSome = true ∧ ∃ m ∈ preorderAll n.children, wanted m = true := by
  have hiff := exists_gone_findings_iff (p := fun n => (given? n).isSome) hw false nodes
  simp only [Bool.false_eq_true, false_and, false_or] at hiff
  simp only [found, List.any_eq_true, List.mem_filter, and_assoc, hiff]

/-- Where no element that is looked for is gone, all that the nodes have is given up. -/
theorem givenUp_found (hg : ∀ n x, given? n = some x → wanted n = true) (ht : ∀ k t, given? (.text k t) = none) {nodes : List Node}
    (h : (found wanted given? nodes).any Finding.isGone = false) :
    givenUp given? (found wanted given? nodes) = (preorderAll nodes).filterMap given? := by
  have hall : (found wanted given? nodes).takeWhile (fun f => !f.isGone) = found wanted given? nodes := by
    refine List.takeWhile_eq_self_iff.2 fun f hf => ?_
    rw [eq_false_of_ne_true (List.any_eq_false.1 h f hf)]
    rfl
  have hwanted : (fun f : Finding => if wanted f.element then given? f.element else none) = fun f => given? f.element := by
    funext f
    cases hf : given? f.element with
    | none => simp
    | some x => rw [if_pos (hg _ x hf)]
  rw [givenUp, hall, found, List.filterMap_filter, hwanted, filterMap_findings ht]

end Found

/-! ## What a fragment brings -/

/-- A style sheet is linked to by a link to a style sheet. -/
theorem isStylesheetLink_of_stylesheetAddress? {n : Node} {href : Text} (h : stylesheetAddress? n = some href) :
    isStylesheetLink n = true := by
  unfold stylesheetAddress? at h
  unfold isStylesheetLink
  split at h
  · rename_i relation _ hrel _
    split at h
    · rename_i hc
      rw [Bool.and_eq_true, Bool.and_eq_true] at hc
      rw [hrel, Option.any_some, hc.1.1, hc.1.2]
      rfl
    · cases h
  · cases h

theorem isNamed_of_script? {n : Node} {s : Script} (h : script? n = some s) : n.isNamed "script" = true := by
  unfold script? at h
  split at h
  · assumption
  · cases h

theorem isNamed_of_scriptTaken? {librariesOnly : Bool} {n : Node} {s : Script} (h : scriptTaken? librariesOnly n = some s) :
    n.isNamed "script" = true := by
  unfold scriptTaken? at h
  split at h
  · exact isNamed_of_script? ‹_›
  · exact isNamed_of_script? h

namespace Harvest

variable (librariesOnly : Bool) (nodes : List Node)

/-- The links to style sheets that are found in the nodes of a fragment. -/
abbrev links : List Finding := found isStylesheetLink stylesheetAddress? nodes

/-- The scripts that are found in the nodes of a fragment when the style sheets have been taken out. -/
abbrev scriptsFound : List Finding :=
  found (isNamed "script") (scriptTaken? librariesOnly) (prune (fun n => (stylesheetAddress? n).isSome) nodes)

/-- A search of the nodes of a fragment comes to an element that is gone. -/
def isCutShort : Bool := (links nodes).any Finding.isGone || (scriptsFound librariesOnly nodes).any Finding.isGone

/-- What the nodes of a fragment give up before a search comes to an element that is gone. -/
def reached : Harvest :=
  { ofNodes librariesOnly nodes with
    stylesheets := givenUp stylesheetAddress? (links nodes)
    scripts := if (links nodes).any Finding.isGone then [] else givenUp (scriptTaken? librariesOnly) (scriptsFound librariesOnly nodes) }

/-- Where no search is cut short, the nodes of a fragment give up all that they have. -/
theorem reached_eq_ofNodes {librariesOnly : Bool} {nodes : List Node} (h : isCutShort librariesOnly nodes = false) :
    reached librariesOnly nodes = ofNodes librariesOnly nodes := by
  obtain ⟨hlinks, hscripts⟩ := Bool.or_eq_false_iff.1 h
  have hsheets := givenUp_found (fun n href => isStylesheetLink_of_stylesheetAddress?) (fun _ _ => rfl) hlinks
  have hfound := givenUp_found (fun n s => isNamed_of_scriptTaken?) (fun _ _ => rfl) hscripts
  rw [reached, hlinks, if_neg Bool.false_ne_true, hsheets, hfound]
  rfl

/-- What a fragment gives up before a search comes to an element that is gone; one that is rejected gives up nothing. -/
def ofFragment (librariesOnly : Bool) (fragment : Text) : Harvest :=
  match Page.fragment fragment with
  | .error _ => ⟨[], [], []⟩
  | .ok nodes => reached librariesOnly nodes

end Harvest

/-- What is left of a fragment, or how it fails. -/
def leftOf (librariesOnly : Bool) (fragment : Text) : Except Failure Text :=
  match Page.fragment fragment with
  | .error failure => .error failure
  | .ok nodes =>
    if Harvest.isCutShort librariesOnly nodes then .error (.notAnObject .null)
    else .ok ((Harvest.ofNodes librariesOnly nodes).remainder fragment)

/-- Of a fragment that is hoisted something is left exactly if it has been read and no search in it has been cut short. -/
theorem leftOf_eq_ok_iff {librariesOnly : Bool} {fragment rest : Text} : leftOf librariesOnly fragment = .ok rest ↔
    ∃ nodes, Page.fragment fragment = .ok nodes ∧ Harvest.isCutShort librariesOnly nodes = false ∧
      rest = (Harvest.ofNodes librariesOnly nodes).remainder fragment := by
  unfold leftOf
  cases Page.fragment fragment with
  | error failure => simp
  | ok nodes =>
    dsimp only
    constructor
    · intro h
      split at h
      · cases h
      · exact ⟨nodes, rfl, eq_false_of_ne_true ‹_›, (Except.ok.inj h).symm⟩
    · rintro ⟨nodes', hnodes, hcut, rfl⟩
      obtain rfl := Except.ok.inj hnodes
      rw [hcut, if_neg Bool.false_ne_true]

namespace Workspace

open Harvest

variable {w w' : Workspace}

/-- A search takes in what the elements before the first that is gone give up, and fails if there is one. -/
theorem takeFound_eq {α : Type} (given? : Node → Option α) (take : Workspace → α → Workspace) (fs : List Finding) (w : Workspace) :
    w.takeFound given? take fs =
      ((givenUp given? fs).foldl take w, if fs.any Finding.isGone then some (.notAnObject .null) else none) := by
  induction fs generalizing w with
  | nil => rfl
  | cons f fs ih =>
    rw [takeFound, givenUp, List.takeWhile_cons, List.any_cons]
    cases f.isGone with
    | true => rfl
    | false =>
      rw [if_neg Bool.false_ne_true, Bool.not_false, if_pos rfl, List.filterMap_cons]
      cases given? f.element with
      | none => exact ih w
      | some x => exact ih (take w x)

/-- What a fragment brings, and what is left of it, depends on the fragment alone. -/
theorem strip_eq (librariesOnly : Bool) (fragment : Text) (w : Workspace) :
    w.strip librariesOnly fragment = (w.take (ofFragment librariesOnly fragment), leftOf librariesOnly fragment) := by
  rw [strip, ofFragment, leftOf]
  cases Page.fragment fragment with
  | error failure => rfl
  | ok nodes =>
    dsimp only
    rw [takeFound_eq, reached, isCutShort, take]
    cases (links nodes).any Finding.isGone with
    | true => rfl
    | false =>
      rw [if_neg Bool.false_ne_true]
      dsimp only
      rw [takeFound_eq]
      cases (scriptsFound librariesOnly nodes).any Finding.isGone <;> rfl

theorem hoist_eq (librariesOnly : Bool) (fragment : Text) (w : Workspace) :
    w.hoist librariesOnly fragment = (leftOf librariesOnly fragment).map (·, w.take (ofFragment librariesOnly fragment)) := by
  rw [hoist, strip_eq]

theorem leftOf_of_strip {librariesOnly : Bool} {fragment : Text} {left : Except Failure Text}
    (h : w.strip librariesOnly fragment = (w', left)) : leftOf librariesOnly fragment = left := by
  rw [strip_eq] at h
  exact (Prod.mk.inj h).2

/-- What is left of a fragment that is hoisted, and what it has brought. -/
theorem strip_of_hoist {librariesOnly : Bool} {fragment rest : Text} (h : w.hoist librariesOnly fragment = .ok (rest, w')) :
    w.strip librariesOnly fragment = (w', .ok rest) := by
  rw [hoist_eq] at h
  rw [strip_eq]
  cases hleft : leftOf librariesOnly fragment with
  | error failure => rw [hleft] at h; cases h
  | ok left =>
    rw [hleft] at h
    obtain ⟨rfl, rfl⟩ := Prod.mk.inj (Except.ok.inj h)
    rfl

/-- Where no search is cut short, a fragment that is read is hoisted, and all that it has is taken in. -/
theorem strip_of_fragment {librariesOnly : Bool} {fragment : Text} {nodes : List Node} (hf : Page.fragment fragment = .ok nodes)
    (hcut : isCutShort librariesOnly nodes = false) : w.strip librariesOnly fragment =
      (w.take (ofNodes librariesOnly nodes), .ok ((ofNodes librariesOnly nodes).remainder fragment)) := by
  rw [strip_eq, ofFragment, leftOf, hf]
  dsimp only
  rw [reached_eq_ofNodes hcut, hcut, if_neg Bool.false_ne_true]

/-- A fragment that is hoisted has been read, no search in it has been cut short, and all that it has is taken in. -/
theorem exists_nodes_of_strip {librariesOnly : Bool} {fragment rest : Text} (h : w.strip librariesOnly fragment = (w', .ok rest)) :
    ∃ nodes, Page.fragment fragment = .ok nodes ∧ isCutShort librariesOnly nodes = false ∧ w' = w.take (ofNodes librariesOnly nodes) := by
  obtain ⟨nodes, hf, hcut, -⟩ := leftOf_eq_ok_iff.1 (leftOf_of_strip h)
  rw [strip_of_fragment hf hcut] at h
  exact ⟨nodes, hf, hcut, (Prod.mk.inj h).1.symm⟩

/-- The libraries of fragments are taken in one fragment after the other. -/
theorem exists_strip_of_preloadAll {fragment : Text} {fragments : List Text} (h : w.preloadAll (fragment :: fragments) = (w', none)) :
    ∃ rest w₁, w.strip true fragment = (w₁, .ok rest) ∧ w₁.preloadAll fragments = (w', none) := by
  rw [preloadAll] at h
  cases hs : w.strip true fragment with
  | mk w₁ left =>
    rw [hs] at h
    cases left with
    | error failure => cases h
    | ok rest => exact ⟨rest, w₁, rfl, h⟩

end Workspace

/-- The card of a note from a template: what its faces give up is taken in, and what is left of them is shown. -/
theorem Card.fromTemplate_eq (note : Note) (model : NoteModel) (template : CardTemplate) (w : Workspace) :
    fromTemplate note model template w = (w.take (Harvest.ofFragment false (facesMarkup note model template)),
      (leftOf false (facesMarkup note model template)).bind fun markup => (Page.fragment markup).map (ofFaces · note)) := by
  rw [fromTemplate, Workspace.strip_eq]
  cases leftOf false (facesMarkup note model template) <;> rfl

/-- A card that is made from a template has the faces that what is left is read as. -/
theorem Card.exists_of_fromTemplate {note : Note} {model : NoteModel} {template : CardTemplate} {w : Workspace} {c : Card}
    (h : (fromTemplate note model template w).2 = .ok c) : ∃ markup faces,
      leftOf false (facesMarkup note model template) = .ok markup ∧ Page.fragment markup = .ok faces ∧ c = ofFaces faces note := by
  rw [fromTemplate_eq] at h
  cases hleft : leftOf false (facesMarkup note model template) with
  | error failure =>
    rw [hleft] at h
    cases h
  | ok markup =>
    rw [hleft] at h
    cases hfaces : Page.fragment markup with
    | error failure =>
      simp only [Except.bind, hfaces] at h
      cases h
    | ok faces =>
      simp only [Except.bind, hfaces] at h
      exact ⟨markup, faces, rfl, hfaces, (Except.ok.inj h).symm⟩

end Flashcards

import Flashcards.Proofs.Hoist.Pruning

/-!
# Places in trees

A place in a tree is the way to it from the top: which child to go to, again and again. A search in document order finds a node at a place
(`firstPlace?`), and a change at the first node where a condition holds is a change at that place (`updateFirst?_eq`). Such a change leaves every other
node what it was, apart from what is in it (`shell_at?_changeAt`), and the search finds the same place again if the change does not
concern its condition (`firstPlace?_changeAt`).

The same is said of the nodes at the top of a forest, where the first step of a place says which of them.
-/

namespace Flashcards.Markup.Node

variable {p : Node → Bool} {f : Node → Node}

/-! ## Nodes at places -/

/-- The node at a place within a node. -/
def at? : List Nat → Node → Option Node
  | [], n => some n
  | i :: place, n => (n.children[i]?).bind (at? place)

/-- The node at a place among nodes. -/
def atAmong? : List Nat → List Node → Option Node
  | [], _ => none
  | i :: place, ns => (ns[i]?).bind (at? place)

/-- A node with the node at a place in it changed. -/
def changeAt (f : Node → Node) : List Nat → Node → Node
  | [], n => f n
  | i :: place, n => n.withChildren (n.children.modify i (changeAt f place))

/-- Nodes with the node at a place among them changed. -/
def changeAmong (f : Node → Node) : List Nat → List Node → List Node
  | [], ns => ns
  | i :: place, ns => ns.modify i (changeAt f place)

theorem at?_cons (i : Nat) (place : List Nat) (n : Node) : at? (i :: place) n = atAmong? (i :: place) n.children := rfl

/-- A change that concerns neither what is in an element nor whether a node is one. -/
structure KeepsInner (f : Node → Node) : Prop where
  children : ∀ n, (f n).children = n.children
  isText : ∀ n, (f n).isText = n.isText

theorem shell_withChildren (n : Node) (cs : List Node) : (n.withChildren cs).shell = n.shell := by
  cases n <;> rfl

/-- The children of a node in which a node further down has been changed. -/
theorem children_changeAt_cons (i : Nat) (place : List Nat) (n : Node) :
    (changeAt f (i :: place) n).children = n.children.modify i (changeAt f place) := by
  cases n with
  | text k t => cases i <;> rfl
  | element name as cs => rfl

/-- A change at a place leaves every other node what it was, apart from what is in it. -/
theorem shell_at?_changeAt (hf : KeepsInner f) (place r : List Nat) (n : Node) :
    (at? r (changeAt f place n)).map shell = if r = place then (at? r n).map fun m => (f m).shell else (at? r n).map shell := by
  induction place generalizing r n with
  | nil =>
    cases r with
    | nil => rfl
    | cons i r =>
      rw [if_neg (List.cons_ne_nil i r), changeAt, at?, hf.children]
      rfl
  | cons j place ih =>
    cases r with
    | nil =>
      rw [if_neg (List.cons_ne_nil j place).symm]
      exact congrArg some (shell_withChildren n _)
    | cons i r =>
      rw [at?, children_changeAt_cons, at?, List.getElem?_modify]
      by_cases hij : j = i
      · subst hij
        cases hc : n.children[j]? with
        | none => simp
        | some c => simpa using ih r c
      · have hne : ¬(i :: r = j :: place) := fun heq => hij (List.cons.inj heq).1.symm
        simp only [hij, if_false, if_neg hne]
        cases n.children[i]? <;> rfl

/-- A change at a place among nodes leaves every other node what it was, apart from what is in it. -/
theorem shell_atAmong?_changeAmong (hf : KeepsInner f) (place r : List Nat) (ns : List Node) (hr : place ≠ []) :
    (atAmong? r (changeAmong f place ns)).map shell =
      if r = place then (atAmong? r ns).map fun m => (f m).shell else (atAmong? r ns).map shell := by
  obtain ⟨j, place, rfl⟩ := List.exists_cons_of_ne_nil hr
  cases r with
  | nil => rw [if_neg (List.cons_ne_nil j place).symm]; rfl
  | cons i r =>
    have hroot := shell_at?_changeAt hf (j :: place) (i :: r) (.element [] [] ns)
    rw [at?_cons, at?_cons, children_changeAt_cons] at hroot
    exact hroot

/-! ## The first place where a condition holds -/

/-- A place among nodes when one more node stands before them. -/
def shiftPlace : List Nat → List Nat
  | [] => []
  | i :: place => (i + 1) :: place

mutual

/-- The place of the first node within a node, or of the node itself, for which a condition holds. -/
def firstPlace? (p : Node → Bool) : Node → Option (List Nat)
  | .text k t => if p (.text k t) then some [] else none
  | .element n as cs => if p (.element n as cs) then some [] else firstPlaceAmong? p cs

/-- The place of the first node among nodes and within them for which a condition holds. -/
def firstPlaceAmong? (p : Node → Bool) : List Node → Option (List Nat)
  | [] => none
  | n :: ns =>
    match firstPlace? p n with
    | some place => some (0 :: place)
    | none => (firstPlaceAmong? p ns).map shiftPlace

end

theorem changeAmong_shift (f : Node → Node) {place : List Nat} (h : place ≠ []) (n : Node) (ns : List Node) :
    changeAmong f (shiftPlace place) (n :: ns) = n :: changeAmong f place ns := by
  obtain ⟨i, place, rfl⟩ := List.exists_cons_of_ne_nil h
  rfl

theorem atAmong?_shift {place : List Nat} (h : place ≠ []) (n : Node) (ns : List Node) :
    atAmong? (shiftPlace place) (n :: ns) = atAmong? place ns := by
  obtain ⟨i, place, rfl⟩ := List.exists_cons_of_ne_nil h
  rfl

/-- A place among nodes begins with one of them. -/
theorem firstPlaceAmong?_ne_nil {ns : List Node} {place : List Nat} (h : firstPlaceAmong? p ns = some place) : place ≠ [] := by
  induction ns generalizing place with
  | nil => cases h
  | cons n ns ih =>
    unfold firstPlaceAmong? at h
    split at h
    · obtain rfl := Option.some.inj h
      exact List.cons_ne_nil _ _
    · obtain ⟨place', hplace, rfl⟩ := Option.map_eq_some_iff.1 h
      obtain ⟨i, place', rfl⟩ := List.exists_cons_of_ne_nil (ih hplace)
      exact List.cons_ne_nil _ _

mutual

/-- A change at the first node for which a condition holds is a change at its place. -/
theorem updateFirst?_eq (p : Node → Bool) (f : Node → Node) :
    ∀ n : Node, updateFirst? p f n = (firstPlace? p n).map fun place => changeAt f place n
  | .text k t => by
    unfold updateFirst? firstPlace?
    split <;> rfl
  | .element name as cs => by
    unfold updateFirst? firstPlace?
    split
    · rfl
    · rw [updateFirstAmong?_eq p f cs]
      cases hfirst : firstPlaceAmong? p cs with
      | none => rfl
      | some place =>
        obtain ⟨i, place, rfl⟩ := List.exists_cons_of_ne_nil (firstPlaceAmong?_ne_nil hfirst)
        rfl

/-- A change at the first node among nodes and within them for which a condition holds is a change at its place. -/
theorem updateFirstAmong?_eq (p : Node → Bool) (f : Node → Node) :
    ∀ ns : List Node, updateFirstAmong? p f ns = (firstPlaceAmong? p ns).map fun place => changeAmong f place ns
  | [] => rfl
  | n :: ns => by
    unfold updateFirstAmong? firstPlaceAmong?
    rw [updateFirst?_eq p f n]
    cases firstPlace? p n with
    | some place => rfl
    | none =>
      rw [updateFirstAmong?_eq p f ns]
      cases hfirst : firstPlaceAmong? p ns with
      | none => rfl
      | some place => exact congrArg some (changeAmong_shift f (firstPlaceAmong?_ne_nil hfirst) n ns).symm

end

/-- There is no such place among nodes exactly when the condition holds for none of them and for none within them. -/
theorem firstPlaceAmong?_eq_none_iff {ns : List Node} : firstPlaceAmong? p ns = none ↔ ∀ m ∈ preorderAll ns, p m = false := by
  rw [← updateFirstAmong?_eq_none_iff p id, updateFirstAmong?_eq, Option.map_eq_none_iff]

mutual

/-- The condition holds for the node at the first place for which it holds. -/
theorem at?_firstPlace? : ∀ {n : Node} {place : List Nat}, firstPlace? p n = some place → ∃ m, at? place n = some m ∧ p m = true
  | .text k t, place, h => by
    unfold firstPlace? at h
    split at h
    · rename_i hp
      obtain rfl := Option.some.inj h
      exact ⟨_, rfl, hp⟩
    · cases h
  | .element name as cs, place, h => by
    unfold firstPlace? at h
    split at h
    · rename_i hp
      obtain rfl := Option.some.inj h
      exact ⟨_, rfl, hp⟩
    · obtain ⟨i, place, rfl⟩ := List.exists_cons_of_ne_nil (firstPlaceAmong?_ne_nil h)
      exact atAmong?_firstPlaceAmong? h

/-- The condition holds for the node at the first place among nodes for which it holds. -/
theorem atAmong?_firstPlaceAmong? :
    ∀ {ns : List Node} {place : List Nat}, firstPlaceAmong? p ns = some place → ∃ m, atAmong? place ns = some m ∧ p m = true
  | [], place, h => by cases h
  | n :: ns, place, h => by
    unfold firstPlaceAmong? at h
    split at h
    · rename_i place' hplace
      obtain rfl := Option.some.inj h
      exact at?_firstPlace? hplace
    · obtain ⟨place', hplace, rfl⟩ := Option.map_eq_some_iff.1 h
      rw [atAmong?_shift (firstPlaceAmong?_ne_nil hplace)]
      exact atAmong?_firstPlaceAmong? hplace

end

/-! ## Searching again after a change -/

/-- A change of one of some nodes after which the search in it finds the same place. -/
theorem firstPlaceAmong?_modify {g : Node → Node} (hg : ∀ n, firstPlace? p (g n) = firstPlace? p n) (i : Nat) (ns : List Node) :
    firstPlaceAmong? p (ns.modify i g) = firstPlaceAmong? p ns := by
  induction ns generalizing i with
  | nil => rw [List.modify_nil]
  | cons n ns ih =>
    cases i with
    | zero =>
      rw [List.modify_zero_cons]
      unfold firstPlaceAmong?
      rw [hg n]
    | succ i =>
      rw [List.modify_succ_cons]
      unfold firstPlaceAmong?
      rw [ih i]

theorem findIdx?_modify {g : Node → Node} (hg : ∀ n, p (g n) = p n) (i : Nat) (ns : List Node) :
    (ns.modify i g).findIdx? p = ns.findIdx? p := by
  induction ns generalizing i with
  | nil => rw [List.modify_nil]
  | cons n ns ih =>
    cases i with
    | zero => rw [List.modify_zero_cons, List.findIdx?_cons, List.findIdx?_cons, hg n]
    | succ i => rw [List.modify_succ_cons, List.findIdx?_cons, List.findIdx?_cons, ih i]

/-- A change that a condition does not notice, wherever it is made. -/
theorem changeAt_unnoticed (hp : Shallow p) (hpf : ∀ n, p (f n) = p n) (place : List Nat) (n : Node) : p (changeAt f place n) = p n := by
  cases place with
  | nil => exact hpf n
  | cons i place =>
    cases n with
    | text k t => rfl
    | element name as cs => exact hp name as _ cs

/-- A search finds the same place again after a change that its condition does not notice. -/
theorem firstPlace?_changeAt (hp : Shallow p) (hf : KeepsInner f) (hpf : ∀ n, p (f n) = p n) (place : List Nat) (n : Node) :
    firstPlace? p (changeAt f place n) = firstPlace? p n := by
  induction place generalizing n with
  | nil =>
    have hunnoticed := hpf n
    have htext := hf.isText n
    have hchildren := hf.children n
    show firstPlace? p (f n) = firstPlace? p n
    cases hn : n with
    | text k t =>
      rw [hn] at hunnoticed htext
      cases hfn : f (.text k t) with
      | text k' t' =>
        rw [hfn] at hunnoticed
        unfold firstPlace?
        rw [hunnoticed]
      | element name as cs =>
        rw [hfn] at htext
        cases htext
    | element name as cs =>
      rw [hn] at hunnoticed htext hchildren
      cases hfn : f (.element name as cs) with
      | text k' t' =>
        rw [hfn] at htext
        cases htext
      | element name' as' cs' =>
        rw [hfn] at hunnoticed hchildren
        obtain rfl : cs' = cs := hchildren
        unfold firstPlace?
        rw [hunnoticed]
  | cons i place ih =>
    have hunnoticed := changeAt_unnoticed hp hpf (i :: place) n
    cases n with
    | text k t => rfl
    | element name as cs =>
      show firstPlace? p (.element name as (cs.modify i (changeAt f place))) = firstPlace? p (.element name as cs)
      unfold firstPlace?
      rw [hp name as _ cs, firstPlaceAmong?_modify ih]

theorem firstPlaceAmong?_changeAmong (hp : Shallow p) (hf : KeepsInner f) (hpf : ∀ n, p (f n) = p n) (place : List Nat) (ns : List Node) :
    firstPlaceAmong? p (changeAmong f place ns) = firstPlaceAmong? p ns := by
  cases place with
  | nil => rfl
  | cons i place => exact firstPlaceAmong?_modify (firstPlace?_changeAt hp hf hpf place) i ns

theorem findIdx?_changeAmong (hp : Shallow p) (hpf : ∀ n, p (f n) = p n) (place : List Nat) (ns : List Node) :
    (changeAmong f place ns).findIdx? p = ns.findIdx? p := by
  cases place with
  | nil => rfl
  | cons i place => exact findIdx?_modify (changeAt_unnoticed hp hpf place) i ns

end Flashcards.Markup.Node

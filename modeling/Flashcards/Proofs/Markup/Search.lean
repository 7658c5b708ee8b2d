import Flashcards.Markup.Query

/-!
# Searching and changing trees

Statements about `Node.preorder` and `Node.updateFirst?`. A change at the first place where a condition holds fails exactly where a
search for the condition fails (`updateFirstAmong?_eq_none_iff`).

Some of the changes that a page makes leave the attributes of the changed element alone and do not touch what was in it; a search by
attributes that succeeded before succeeds after them (`any_of_updateFirstAmong?`).
-/

namespace Flashcards.Markup.Node

variable {p : Node → Bool} {f : Node → Node}

/-- Nodes one after the other have the nodes within them one after the other. -/
theorem preorderAll_append (ns ms : List Node) : preorderAll (ns ++ ms) = preorderAll ns ++ preorderAll ms := by
  induction ns with
  | nil => rfl
  | cons n ns ih => rw [List.cons_append, preorderAll, preorderAll, ih, List.append_assoc]

/-! ## Where there is nothing to change -/

mutual

/-- No node within a node is changed exactly when the condition holds for none of them. -/
theorem updateFirst?_eq_none_iff (p : Node → Bool) (f : Node → Node) :
    ∀ n : Node, updateFirst? p f n = none ↔ ∀ m ∈ preorder n, p m = false
  | .text k t => by
    simp only [updateFirst?, preorder, List.mem_singleton, forall_eq]
    cases p (.text k t) <;> simp
  | .element n as cs => by
    simp only [updateFirst?, preorder, List.mem_cons, forall_eq_or_imp]
    cases hp : p (.element n as cs) with
    | true => simp
    | false => simpa using updateFirstAmong?_eq_none_iff p f cs

/-- No node among nodes and within them is changed exactly when the condition holds for none of them. -/
theorem updateFirstAmong?_eq_none_iff (p : Node → Bool) (f : Node → Node) :
    ∀ ns : List Node, updateFirstAmong? p f ns = none ↔ ∀ m ∈ preorderAll ns, p m = false
  | [] => by simp [updateFirstAmong?, preorderAll]
  | n :: ns => by
    simp only [updateFirstAmong?, preorderAll, List.mem_append]
    have hn := updateFirst?_eq_none_iff p f n
    have hns := updateFirstAmong?_eq_none_iff p f ns
    cases h : updateFirst? p f n with
    | some n' =>
      have hex : ¬∀ m ∈ preorder n, p m = false := fun hall => by simp [hn.2 hall] at h
      simp only [reduceCtorEq, false_iff]
      exact fun hall => hex fun m hm => hall m (Or.inl hm)
    | none =>
      simp only [Option.map_eq_none_iff, hns]
      have hall := hn.1 h
      exact ⟨fun hs m hm => hm.elim (hall m) (hs m), fun hs m hm => hs m (Or.inr hm)⟩

end

/-- Where the condition holds nowhere, nothing is changed. -/
theorem updateFirstAmong?_eq_none {ns : List Node} (h : (preorderAll ns).any p = false) :
    updateFirstAmong? p f ns = none := by
  rw [updateFirstAmong?_eq_none_iff]
  simpa using h

/-! ## What a change keeps -/

mutual

/-- What a search finds within a node, a search still finds after a change that the search does not notice. -/
theorem any_of_updateFirst? {q : Node → Bool}
    (hf : ∀ n, (preorder n).any q = true → (preorder (f n)).any q = true)
    (hq : ∀ (name : Text) as cs cs', q (.element name as cs) = q (.element name as cs')) :
    ∀ {n n' : Node}, updateFirst? p f n = some n' → (preorder n).any q = true → (preorder n').any q = true
  | .text k t, n', h, hany => by
    simp only [updateFirst?] at h
    split at h
    · obtain rfl := Option.some.inj h
      exact hf _ hany
    · nomatch h
  | .element name as cs, n', h, hany => by
    simp only [updateFirst?] at h
    split at h
    · obtain rfl := Option.some.inj h
      exact hf _ hany
    · obtain ⟨cs', hcs, rfl⟩ := Option.map_eq_some_iff.1 h
      simp only [preorder, List.any_cons, Bool.or_eq_true] at hany ⊢
      exact hany.imp (fun h => (hq name as cs cs') ▸ h) (any_of_updateFirstAmong? hf hq hcs)

/-- What a search finds among nodes and within them, a search still finds after a change that the search does not notice. -/
theorem any_of_updateFirstAmong? {q : Node → Bool}
    (hf : ∀ n, (preorder n).any q = true → (preorder (f n)).any q = true)
    (hq : ∀ (name : Text) as cs cs', q (.element name as cs) = q (.element name as cs')) :
    ∀ {ns ns' : List Node}, updateFirstAmong? p f ns = some ns' → (preorderAll ns).any q = true →
      (preorderAll ns').any q = true
  | [], _, h, _ => nomatch h
  | n :: ns, ns', h, hany => by
    simp only [updateFirstAmong?] at h
    simp only [preorderAll, List.any_append, Bool.or_eq_true] at hany
    split at h
    · rename_i n' hn
      obtain rfl := Option.some.inj h
      simp only [preorderAll, List.any_append, Bool.or_eq_true]
      exact hany.imp_left (any_of_updateFirst? hf hq hn)
    · obtain ⟨ms, hms, rfl⟩ := Option.map_eq_some_iff.1 h
      simp only [preorderAll, List.any_append, Bool.or_eq_true]
      exact hany.imp_right (any_of_updateFirstAmong? hf hq hms)

end

/-- Whether an element has a name does not depend on what is in it. -/
theorem hasId_element_congr (id name : Text) (as : Attributes) (cs cs' : List Node) :
    hasId id (.element name as cs) = hasId id (.element name as cs') := rfl

end Flashcards.Markup.Node

import Mathlib.Data.List.Nodup
import Flashcards.Manifest

/-!
# Places in a tree of decks

A node of a tree of decks is at a place: the numbers of the children to go to from the root. So that two nodes with one content are told apart,
what is said of every node of a tree is said of every place. The places of a tree, in order of the numbers, are those of the nodes that the
walk goes through (`DeckNode.map_places`, `DeckNode.pairwise_places`); a place comes before all places below it and before those of later
children. Every place at which there is a node is among them (`DeckNode.mem_places`).
-/

namespace Flashcards.DeckNode

open Text

/-- The node that is reached from a node by going to children of some numbers. -/
def below? : List Nat → DeckNode → Option DeckNode
  | [], n => some n
  | i :: p, n => n.children[i]?.bind (below? p)

/-- The names on the way from a node, its own first. -/
def namesTo : List Nat → DeckNode → List Text
  | [], n => [n.name]
  | i :: p, n => n.name :: (n.children[i]?.map (namesTo p)).getD []

mutual

/-- The places of a node and of all nodes below it, as seen from it. -/
def places : DeckNode → List (List Nat)
  | ⟨_, _, _, _, _, _, children⟩ => [] :: placesAmong 0 children

/-- The places of nodes and of all nodes below them, as seen from the node that has them for its children from some number on. -/
def placesAmong (i : Nat) : List DeckNode → List (List Nat)
  | [] => []
  | c :: cs => (places c).map (i :: ·) ++ placesAmong (i + 1) cs

end

theorem places_eq (n : DeckNode) : n.places = [] :: placesAmong 0 n.children := by
  cases n
  rfl

theorem walkAll_eq (ns : List DeckNode) : walkAll ns = ns.flatMap walk := by
  induction ns with
  | nil => rfl
  | cons n ns ih => rw [walkAll, ih, List.flatMap_cons]

theorem walk_eq (n : DeckNode) : n.walk = n :: n.children.flatMap walk := by
  rw [← walkAll_eq]
  cases n
  rfl

/-- What holds of a node if it holds of its children holds of every node. -/
theorem node_induction {P : DeckNode → Prop} (h : ∀ n : DeckNode, (∀ c ∈ n.children, P c) → P n) (n : DeckNode) : P n :=
  h n fun c hc =>
    have : sizeOf c < sizeOf n := by
      have hlt := List.sizeOf_lt_of_mem hc
      cases n
      simp only [DeckNode.mk.sizeOf_spec]
      dsimp only at hlt
      omega
    node_induction h c
termination_by sizeOf n

/-! ## The places of the walk -/

/-- The walk goes through the nodes at the places in their order. -/
theorem map_places (n : DeckNode) : (n.places.map fun p => below? p n) = n.walk.map some := by
  induction n using node_induction with
  | h n ih =>
    have hamong : ∀ cs before, n.children = before ++ cs →
        ((placesAmong before.length cs).map fun p => below? p n) = (cs.flatMap walk).map some := by
      intro cs
      induction cs with
      | nil => exact fun _ _ => rfl
      | cons c cs ihs =>
        intro before hchildren
        have hc : n.children[before.length]? = some c := by
          rw [hchildren, List.getElem?_append_right (Nat.le_refl _), Nat.sub_self]
          rfl
        have hnext := ihs (before ++ [c]) (by rw [hchildren, List.append_assoc, List.singleton_append])
        rw [List.length_append, List.length_singleton] at hnext
        rw [placesAmong, List.map_append, hnext, List.flatMap_cons, List.map_append, ← ih c (List.mem_of_getElem? hc), List.map_map]
        congr 1
        refine List.map_congr_left fun p _ => ?_
        rw [Function.comp_apply, below?, hc, Option.bind_some]
    rw [places_eq, walk_eq, List.map_cons, List.map_cons]
    exact congrArg (some n :: ·) (hamong n.children [] rfl)

theorem mem_placesAmong {i : Nat} {cs : List DeckNode} {p : List Nat} :
    p ∈ placesAmong i cs ↔ ∃ j q c, cs[j]? = some c ∧ q ∈ places c ∧ p = (i + j) :: q := by
  induction cs generalizing i with
  | nil => simp [placesAmong]
  | cons c cs ih =>
    rw [placesAmong, List.mem_append, List.mem_map, ih]
    constructor
    · rintro (⟨q, hq, rfl⟩ | ⟨j, q, c', hc', hq, rfl⟩)
      · exact ⟨0, q, c, rfl, hq, rfl⟩
      · exact ⟨j + 1, q, c', hc', hq, by rw [Nat.add_right_comm, Nat.add_assoc]⟩
    · rintro ⟨j, q, c', hc', hq, rfl⟩
      cases j with
      | zero =>
        obtain rfl := Option.some.inj hc'
        exact Or.inl ⟨q, hq, rfl⟩
      | succ j => exact Or.inr ⟨j, q, c', hc', hq, by rw [Nat.add_right_comm, Nat.add_assoc]⟩

/-- The places are those at which there is a node. -/
theorem mem_places {p : List Nat} {n : DeckNode} : p ∈ n.places ↔ (below? p n).isSome = true := by
  induction p generalizing n with
  | nil => simp [places_eq, below?]
  | cons i p ih =>
    rw [places_eq, List.mem_cons, mem_placesAmong, below?]
    simp only [Nat.zero_add, List.cons.injEq, reduceCtorEq, false_or]
    constructor
    · rintro ⟨j, q, c, hc, hq, rfl, rfl⟩
      rw [hc, Option.bind_some]
      exact ih.1 hq
    · intro h
      obtain ⟨c, hc⟩ := Option.isSome_iff_exists.1 (Option.isSome_of_isSome_bind h)
      rw [hc, Option.bind_some] at h
      exact ⟨i, p, c, hc, ih.2 h, rfl, rfl⟩

/-- The places are in order, and no two are one. -/
theorem pairwise_places (n : DeckNode) : n.places.Pairwise (· < ·) := by
  induction n using node_induction with
  | h n ih =>
    have hamong : ∀ cs : List DeckNode, (∀ c ∈ cs, c.places.Pairwise (· < ·)) → ∀ i, (placesAmong i cs).Pairwise (· < ·) := by
      intro cs
      induction cs with
      | nil => exact fun _ _ => List.Pairwise.nil
      | cons c cs ihs =>
        intro hcs i
        rw [List.forall_mem_cons] at hcs
        rw [placesAmong, List.pairwise_append]
        refine ⟨hcs.1.map _ fun p q hpq => List.cons_lt_cons_iff.2 (Or.inr ⟨rfl, hpq⟩), ihs hcs.2 (i + 1), fun p hp q hq => ?_⟩
        obtain ⟨p, -, rfl⟩ := List.mem_map.1 hp
        obtain ⟨j, q, -, -, -, rfl⟩ := mem_placesAmong.1 hq
        exact List.cons_lt_cons_iff.2 (Or.inl (by omega))
    rw [places_eq, List.pairwise_cons]
    refine ⟨fun p hp => ?_, hamong n.children ih 0⟩
    obtain ⟨j, q, -, -, -, rfl⟩ := mem_placesAmong.1 hp
    exact List.nil_lt_cons _ _

theorem nodup_places (n : DeckNode) : n.places.Nodup :=
  n.pairwise_places.imp fun hpq => by
    rintro rfl
    exact List.lt_irrefl _ hpq

theorem mem_walk_iff {n m : DeckNode} : m ∈ n.walk ↔ ∃ p, below? p n = some m := by
  have hmem : some m ∈ n.walk.map some ↔ m ∈ n.walk := List.mem_map_of_injective fun _ _ => Option.some.inj
  rw [← hmem, ← map_places, List.mem_map]
  constructor
  · rintro ⟨p, -, hp⟩
    exact ⟨p, hp⟩
  · rintro ⟨p, hp⟩
    exact ⟨p, mem_places.2 (by rw [hp]; rfl), hp⟩

/-- What all nodes of a tree have all nodes below one of its nodes have. -/
theorem mem_walk_child {n c m : DeckNode} (hc : c ∈ n.children) (hm : m ∈ c.walk) : m ∈ n.walk := by
  rw [walk_eq]
  exact List.mem_cons_of_mem n (List.mem_flatMap.2 ⟨c, hc, hm⟩)

theorem mem_walk_self (n : DeckNode) : n ∈ n.walk := by
  rw [walk_eq]
  exact List.mem_cons_self

end Flashcards.DeckNode

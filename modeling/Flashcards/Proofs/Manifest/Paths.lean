import Flashcards.Proofs.Manifest.Definitions
import Flashcards.Proofs.Manifest.Places
import Flashcards.Proofs.Text.Replacing
import Flashcards.Proofs.Text.Runs
import Flashcards.Proofs.Text.Words

/-!
# Decks by their paths

The path of a node is made of the names on the way to it from the root, with a slash between each two. Where each name can be a part of a path
and no two children of a node have one name, the names are seen from the path, and the place is seen from the names
(`DeckNode.eq_of_path_eq`); so no two nodes have one path, and a node is found by its path. It is also found by the rest of its path after the
name of the root, unless another node has this rest for its path: this happens where a child has the name of the root
(`DeckNode.found_by_path`).
-/

namespace Flashcards

open Text

/-! ## Joined names -/

namespace Text

/-- A name that can be a part of a path. -/
def IsPart (t : Text) : Prop := t ≠ [] ∧ '/' ∉ t

theorem joinWith_cons {ts : List Text} (hne : ts ≠ []) (sep t : Text) : joinWith sep (t :: ts) = t ++ sep ++ joinWith sep ts := by
  obtain ⟨u, us, rfl⟩ := List.exists_cons_of_ne_nil hne
  rw [joinWith_cons_cons, List.append_assoc]

theorem ne_slash_of_isPart {t : Text} (h : t.IsPart) : ∀ c ∈ t, (c == '/') = false := by
  intro c hc
  refine beq_false_of_ne ?_
  rintro rfl
  exact h.2 hc

/-- Names with slashes between them do not begin with a slash, and do not end in one. -/
theorem ends_joinWith {ts : List Text} (hne : ts ≠ []) (h : ∀ t ∈ ts, t.IsPart) :
    Ends (· == '/') (joinWith ['/'] ts) ∧ (∀ c, (joinWith ['/'] ts).getLast? = some c → (c == '/') = false) ∧ joinWith ['/'] ts ≠ [] := by
  induction ts with
  | nil => exact absurd rfl hne
  | cons t ts ih =>
    rw [List.forall_mem_cons] at h
    have ht : Ends (· == '/') t := fun c hc => ne_slash_of_isPart h.1 c (List.mem_of_head? hc)
    by_cases hts : ts = []
    · subst hts
      exact ⟨ht, fun c hc => ne_slash_of_isPart h.1 c (List.mem_of_getLast? hc), h.1.1⟩
    · obtain ⟨-, hlast, hnil⟩ := ih hts h.2
      rw [joinWith_cons hts, List.append_assoc]
      obtain ⟨c, t, rfl⟩ := List.exists_cons_of_ne_nil h.1.1
      refine ⟨ht, fun d hd => hlast d ?_, List.cons_ne_nil _ _⟩
      rwa [List.getLast?_append_of_ne_nil _ (by simp), List.getLast?_append_of_ne_nil _ hnil] at hd

/-- The slashes around names do not count. -/
theorem stripSlashes_joinWith {ts : List Text} (hne : ts ≠ []) (h : ∀ t ∈ ts, t.IsPart) (i j : Nat) :
    stripSlashes (List.replicate i '/' ++ joinWith ['/'] ts ++ List.replicate j '/') = joinWith ['/'] ts := by
  obtain ⟨hhead, hlast, -⟩ := ends_joinWith hne h
  have hslash : ∀ k, ∀ c ∈ List.replicate k '/', (c == '/') = true := fun k c hc => beq_iff_eq.2 (List.eq_of_mem_replicate hc)
  rw [List.append_assoc]
  exact trim_append (hslash i) (hslash j) hhead hlast

/-- The names are seen from the path. -/
theorem joinWith_injective {ts us : List Text} (hts : ts ≠ []) (hus : us ≠ []) (ht : ∀ t ∈ ts, t.IsPart) (hu : ∀ u ∈ us, u.IsPart)
    (h : joinWith ['/'] ts = joinWith ['/'] us) : ts = us := by
  have hsplit := congrArg (splitWhere (· == '/')) h
  rwa [splitWhere_joinWith rfl hts fun t hmem => ne_slash_of_isPart (ht t hmem),
    splitWhere_joinWith rfl hus fun u hmem => ne_slash_of_isPart (hu u hmem)] at hsplit

end Text

namespace DeckNode

/-- Every name in a tree can be a part of a path, and no two children of a node have one name. -/
def WellNamed (root : DeckNode) : Prop := ∀ n ∈ root.walk, n.name.IsPart ∧ (n.children.map (·.name)).Nodup

/-! ## The names on the way to a node -/

theorem namesTo_ne_nil (p : List Nat) (n : DeckNode) : namesTo p n ≠ [] := by
  cases p <;> exact List.cons_ne_nil _ _

theorem head?_namesTo (p : List Nat) (n : DeckNode) : (namesTo p n).head? = some n.name := by
  cases p <;> rfl

theorem namesTo_cons {i : Nat} {n c : DeckNode} (hc : n.children[i]? = some c) (p : List Nat) : namesTo (i :: p) n = n.name :: namesTo p c := by
  rw [namesTo, hc]
  rfl

theorem wellNamed_child {n c : DeckNode} (h : WellNamed n) (hc : c ∈ n.children) : WellNamed c := fun m hm => h m (mem_walk_child hc hm)

theorem isPart_of_mem_namesTo {p : List Nat} {n : DeckNode} (h : WellNamed n) : ∀ t ∈ namesTo p n, t.IsPart := by
  have hself := (h n (mem_walk_self n)).1
  induction p generalizing n with
  | nil => exact List.forall_mem_singleton.2 hself
  | cons i p ih =>
    cases hc : n.children[i]? with
    | none =>
      rw [namesTo, hc]
      exact List.forall_mem_singleton.2 hself
    | some c =>
      have hchild := wellNamed_child h (List.mem_of_getElem? hc)
      rw [namesTo_cons hc]
      exact List.forall_mem_cons.2 ⟨hself, ih hchild (hchild c (mem_walk_self c)).1⟩

theorem below?_cons {i : Nat} {p : List Nat} {n m : DeckNode} :
    below? (i :: p) n = some m ↔ ∃ c, n.children[i]? = some c ∧ below? p c = some m := Option.bind_eq_some_iff

/-- The place is seen from the names. -/
theorem namesTo_injective {n m m' : DeckNode} {p q : List Nat} (h : WellNamed n) (hp : below? p n = some m) (hq : below? q n = some m')
    (hnames : namesTo p n = namesTo q n) : p = q := by
  induction p generalizing n q with
  | nil =>
    cases q with
    | nil => rfl
    | cons j q =>
      obtain ⟨c, hc, -⟩ := below?_cons.1 hq
      rw [namesTo_cons hc] at hnames
      exact absurd (List.cons.inj hnames).2.symm (namesTo_ne_nil q c)
  | cons i p ih =>
    obtain ⟨c, hc, hp⟩ := below?_cons.1 hp
    cases q with
    | nil =>
      rw [namesTo_cons hc] at hnames
      exact absurd (List.cons.inj hnames).2 (namesTo_ne_nil p c)
    | cons j q =>
      obtain ⟨c', hc', hq⟩ := below?_cons.1 hq
      rw [namesTo_cons hc, namesTo_cons hc'] at hnames
      have hbelow := (List.cons.inj hnames).2
      -- The two children have one name, so they are at one number.
      have hname : some c.name = some c'.name := by rw [← head?_namesTo p c, hbelow, head?_namesTo]
      have hindex : i = j := by
        obtain ⟨hi, -⟩ := List.getElem?_eq_some_iff.1 hc
        refine (List.getElem?_inj (by rwa [List.length_map]) (h n (mem_walk_self n)).2).1 ?_
        rw [List.getElem?_map, List.getElem?_map, hc, hc']
        exact hname
      subst hindex
      obtain rfl := Option.some.inj (hc.symm.trans hc')
      rw [ih (wellNamed_child h (List.mem_of_getElem? hc)) hp hq hbelow]

/-! ## The paths of what is read -/

theorem pathBelow_ne_nil {t : Text} (ht : t ≠ []) (above : Text) : pathBelow above t ≠ [] := by
  unfold pathBelow
  split
  · exact ht
  · exact List.append_ne_nil_of_right_ne_nil _ ht

theorem pathBelow_of_ne_nil {above : Text} (h : above ≠ []) (t : Text) : pathBelow above t = above ++ ['/'] ++ t :=
  if_neg (by rwa [List.isEmpty_iff])

/-- What is below a path that is itself below another. -/
theorem pathBelow_pathBelow {name : Text} (h : name ≠ []) (above t : Text) :
    pathBelow (pathBelow above name) t = pathBelow above (name ++ ['/'] ++ t) := by
  rw [pathBelow_of_ne_nil (pathBelow_ne_nil h above)]
  unfold pathBelow
  split <;> simp

theorem path_of_ofJson {above : Text} {d : List (Text × Json)} {n : DeckNode} (h : ofJson above (.object d) = .ok n) :
    n.path = pathBelow above n.name := by
  have hn := (of_ofJson h).1
  have hpath : n.path = pathBelow above (nameOf d) := congrArg path hn
  have hname : n.name = nameOf d := congrArg name hn
  rw [hpath, hname]

theorem exists_of_mem_children {above : Text} {d : List (Text × Json)} {n c : DeckNode} (h : ofJson above (.object d) = .ok n)
    (hc : c ∈ n.children) : ∃ d', ofJson n.path (.object d') = .ok c := by
  obtain ⟨i, hi, rfl⟩ := List.getElem_of_mem hc
  have hchildren := (of_ofJson h).2
  exact ⟨_, hchildren.get (by rwa [hchildren.length_eq]) hi⟩

/-- The path of a node that is read is made of the names on the way to it. -/
theorem path_below? {above : Text} {d : List (Text × Json)} {n m : DeckNode} {p : List Nat} (h : ofJson above (.object d) = .ok n)
    (hnames : WellNamed n) (hm : below? p n = some m) : m.path = pathBelow above (joinWith ['/'] (namesTo p n)) := by
  induction p generalizing above d n with
  | nil =>
    obtain rfl := Option.some.inj hm
    exact path_of_ofJson h
  | cons i p ih =>
    obtain ⟨c, hc, hm⟩ := below?_cons.1 hm
    have hmem := List.mem_of_getElem? hc
    obtain ⟨d', hd'⟩ := exists_of_mem_children h hmem
    rw [ih hd' (wellNamed_child hnames hmem) hm, path_of_ofJson h, pathBelow_pathBelow (hnames n (mem_walk_self n)).1.1, namesTo_cons hc,
      joinWith_cons (namesTo_ne_nil p c)]

/-- The nodes of the walk are those of the definitions in their order. -/
theorem forall₂_walk {above : Text} {d : List (Text × Json)} {n : DeckNode} (h : ofJson above (.object d) = .ok n) :
    List.Forall₂ (fun d n => n = ofFields d n.path n.children) (definitions (.object d)) n.walk := by
  induction d using definition_induction generalizing above n with
  | h d ih =>
    obtain ⟨hn, hchildren⟩ := of_ofJson h
    have hpath : n.path = pathBelow above (nameOf d) := congrArg path hn
    rw [definitions_object, walk_eq]
    refine List.Forall₂.cons (by rwa [hpath]) ?_
    exact List.rel_flatMap ((List.forall₂_and_left _ _).2 ⟨ih, hchildren⟩) fun _ _ hc => hc.1 hc.2

/-! ## Finding -/

theorem at?_eq_none_iff {path : Text} {root : DeckNode} : root.at? path = none ↔ ∀ n ∈ root.walk, n.path ≠ path := by
  simp only [at?, List.find?_eq_none, beq_iff_eq, ne_eq]

theorem of_at? {path : Text} {root n : DeckNode} (h : root.at? path = some n) : n ∈ root.walk ∧ n.path = path :=
  ⟨List.mem_of_find?_eq_some h, by simpa using List.find?_some h⟩

/-- Where no two nodes have one path, a node is the first at its path. -/
theorem at?_path {root n : DeckNode} (hpaths : (root.walk.map path).Nodup) (hn : n ∈ root.walk) : root.at? n.path = some n := by
  cases h : root.at? n.path with
  | none => exact absurd rfl (at?_eq_none_iff.1 h n hn)
  | some m =>
    obtain ⟨hm, hpath⟩ := of_at? h
    rw [List.inj_on_of_nodup_map hpaths hm hn hpath]

theorem find?_eq_none_iff {p : Text} {root : DeckNode} :
    root.find? p = none ↔ ∀ n ∈ root.walk, n.path ≠ stripSlashes p ∧
      n.path ≠ if (stripSlashes p).isEmpty then root.name else root.name ++ ['/'] ++ stripSlashes p := by
  rw [find?]
  cases h : root.at? (stripSlashes p) with
  | some m =>
    obtain ⟨hm, hpath⟩ := of_at? h
    exact iff_of_false (fun h => by cases h) fun hall => (hall m hm).1 hpath
  | none =>
    dsimp only
    rw [at?_eq_none_iff]
    exact ⟨fun hall n hn => ⟨at?_eq_none_iff.1 h n hn, hall n hn⟩, fun hall n hn => (hall n hn).2⟩

section WellNamed

variable {d : List (Text × Json)} {root : DeckNode}

theorem path_of_place {n : DeckNode} {p : List Nat} (hread : ofJson [] (.object d) = .ok root) (hnames : WellNamed root)
    (hp : root.below? p = some n) : n.path = joinWith ['/'] (root.namesTo p) := path_below? hread hnames hp

/-- The place is seen from the path. -/
theorem eq_of_path_eq {n m : DeckNode} {p q : List Nat} (hread : ofJson [] (.object d) = .ok root) (hnames : WellNamed root)
    (hp : root.below? p = some n) (hq : root.below? q = some m) (hpath : n.path = m.path) : p = q := by
  rw [path_of_place hread hnames hp, path_of_place hread hnames hq] at hpath
  exact namesTo_injective hnames hp hq (joinWith_injective (namesTo_ne_nil p root) (namesTo_ne_nil q root)
    (isPart_of_mem_namesTo hnames) (isPart_of_mem_namesTo hnames) hpath)

theorem nodup_paths (hread : ofJson [] (.object d) = .ok root) (hnames : WellNamed root) : (root.walk.map path).Nodup := by
  have hmap : (root.walk.map path).map some = root.places.map fun p => (root.below? p).map path := by
    have h := congrArg (List.map (Option.map path)) root.map_places
    rw [List.map_map, List.map_map] at h
    rw [List.map_map]
    exact h.symm
  refine List.Nodup.of_map some ?_
  rw [hmap]
  refine List.Nodup.map_on (fun p hp q hq h => ?_) root.nodup_places
  obtain ⟨n, hn⟩ := Option.isSome_iff_exists.1 (mem_places.1 hp)
  obtain ⟨m, hm⟩ := Option.isSome_iff_exists.1 (mem_places.1 hq)
  rw [hn, hm] at h
  exact eq_of_path_eq hread hnames hn hm (Option.some.inj h)

/-- A node is found by its path, with any slashes around it. -/
theorem find?_path {n : DeckNode} (hread : ofJson [] (.object d) = .ok root) (hnames : WellNamed root) (hn : n ∈ root.walk) (i j : Nat) :
    root.find? (List.replicate i '/' ++ n.path ++ List.replicate j '/') = some n := by
  obtain ⟨p, hp⟩ := mem_walk_iff.1 hn
  have hstrip : stripSlashes (List.replicate i '/' ++ n.path ++ List.replicate j '/') = n.path := by
    rw [path_of_place hread hnames hp]
    exact stripSlashes_joinWith (namesTo_ne_nil p root) (isPart_of_mem_namesTo hnames) i j
  rw [find?, hstrip]
  simp only [at?_path (nodup_paths hread hnames) hn]

/-- A node other than the root has a path that goes on after the name of the root. By what it goes on with, a node that has this for its path
is found, or else the node. -/
theorem find?_rest {n : DeckNode} (hread : ofJson [] (.object d) = .ok root) (hnames : WellNamed root) (hn : n ∈ root.walk) (hne : n ≠ root) :
    ∃ rest, n.path = root.name ++ ['/'] ++ rest ∧ (∀ m ∈ root.walk, m.path = rest → root.find? rest = some m) ∧
      ((∀ m ∈ root.walk, m.path ≠ rest) → root.find? rest = some n) := by
  obtain ⟨p, hp⟩ := mem_walk_iff.1 hn
  cases p with
  | nil => exact absurd (Option.some.inj hp).symm hne
  | cons i p =>
    obtain ⟨c, hc, hbelow⟩ := below?_cons.1 hp
    have hparts := isPart_of_mem_namesTo (p := p) (wellNamed_child hnames (List.mem_of_getElem? hc))
    obtain ⟨-, -, hnil⟩ := ends_joinWith (namesTo_ne_nil p c) hparts
    have hstrip : stripSlashes (joinWith ['/'] (namesTo p c)) = joinWith ['/'] (namesTo p c) := by
      simpa using stripSlashes_joinWith (namesTo_ne_nil p c) hparts 0 0
    have hpath : n.path = root.name ++ ['/'] ++ joinWith ['/'] (namesTo p c) := by
      rw [path_of_place hread hnames hp, namesTo_cons hc, joinWith_cons (namesTo_ne_nil p c)]
    have hpaths := nodup_paths hread hnames
    refine ⟨joinWith ['/'] (namesTo p c), hpath, fun m hm hrest => ?_, fun hnone => ?_⟩
    · have hat : root.at? (joinWith ['/'] (namesTo p c)) = some m := by rw [← hrest, at?_path hpaths hm]
      simp only [find?, hstrip, hat]
    · simp only [find?, hstrip, at?_eq_none_iff.2 hnone, List.isEmpty_iff, hnil, if_false, ← hpath, at?_path hpaths hn]

/-- A tree that is read of a definition whose names can be parts of paths, siblings having different ones. The walk goes through the node of
each place once, in the order of the places, and in that order the nodes are those of the definitions. The path of a node is made of the names
on the way to it, and no two nodes have one path. A node is found by its path, with any slashes around it; and if it is not the root, then by
the rest of its path after the name of the root, unless another node has that rest for its path, which is found then. Nothing is found exactly
if no node has the path, without the slashes around it, with or without the name of the root in front. -/
theorem found_by_path (hread : ofJson [] (.object d) = .ok root) (hnames : WellNamed root) :
    ((root.places.map fun p => root.below? p) = root.walk.map some ∧ root.places.Pairwise (· < ·) ∧
        ∀ p, p ∈ root.places ↔ (root.below? p).isSome = true) ∧
      List.Forall₂ (fun d n => n = ofFields d n.path n.children) (definitions (.object d)) root.walk ∧
      (∀ p n, root.below? p = some n → n.path = joinWith ['/'] (root.namesTo p)) ∧
      (root.walk.map path).Nodup ∧
      (∀ n ∈ root.walk, ∀ i j, root.find? (List.replicate i '/' ++ n.path ++ List.replicate j '/') = some n) ∧
      (∀ n ∈ root.walk, n ≠ root → ∃ rest, n.path = root.name ++ ['/'] ++ rest ∧
        (∀ m ∈ root.walk, m.path = rest → root.find? rest = some m) ∧
        ((∀ m ∈ root.walk, m.path ≠ rest) → root.find? rest = some n)) ∧
      ∀ p, root.find? p = none ↔ ∀ n ∈ root.walk, n.path ≠ stripSlashes p ∧
        n.path ≠ if (stripSlashes p).isEmpty then root.name else root.name ++ ['/'] ++ stripSlashes p :=
  ⟨⟨root.map_places, root.pairwise_places, fun _ => mem_places⟩, forall₂_walk hread, fun _ _ hp => path_of_place hread hnames hp,
    nodup_paths hread hnames, fun _ hn i j => find?_path hread hnames hn i j, fun _ hn hne => find?_rest hread hnames hn hne,
    fun _ => find?_eq_none_iff⟩

end WellNamed

/-- A definition that gives a name and children. -/
def named (name : Text) (children : List (List (Text × Json))) : List (Text × Json) :=
  [("name", .text name), ("children", .list (children.map .object))]

/-- A definition of a deck with a child of its own name. -/
def repeating : List (Text × Json) := named "a" [named "a" [named "b" []], named "b" []]

theorem found_repeating :
    ∃ root, ofJson [] (.object repeating) = .ok root ∧ WellNamed root ∧ root.walk.map path = ["a".toList, "a/a", "a/a/b", "a/b"] ∧
      (root.find? "/a/b/").map path = some "a/b".toList ∧
      (root.find? "b").map path = some "a/b".toList ∧
      ∀ n ∈ root.walk, ∀ i j, root.find? (List.replicate i '/' ++ n.path ++ List.replicate j '/') = some n := by
  have hread : ∃ root, ofJson [] (.object repeating) = .ok root ∧ WellNamed root ∧
      root.walk.map path = ["a".toList, "a/a", "a/a/b", "a/b"] ∧ (root.find? "/a/b/").map path = some "a/b".toList ∧
      (root.find? "b").map path = some "a/b".toList := by
    refine ⟨_, rfl, ?_⟩
    unfold WellNamed IsPart
    decide
  obtain ⟨root, hread, hnames, hpaths, hwhole, hrest⟩ := hread
  exact ⟨root, hread, hnames, hpaths, hwhole, hrest, (found_by_path hread hnames).2.2.2.2.1⟩

end DeckNode

end Flashcards

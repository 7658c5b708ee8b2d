import Flashcards.Proofs.Hoist.Searching
import Flashcards.Proofs.Markup.Content
import Flashcards.Proofs.Markup.Search

/-!
# What is left when elements are taken out

An element that is taken out goes with all that is in it. Where that is running text alone, what is left has every other node that there
was, in the same order and in the same element (`placedAll_prune`), and what is looked for there is found as before (`filterMap_prune`).

The scripts of a fragment are looked for when its style sheets have been taken out. Where the links to them have no content, they are all of
the scripts that it has (`scripts_ofNodes`). In what is read from markup a script holds nothing but its text, so that no search for scripts
comes to one that is gone; a search for style sheets does if a link stands in one that is taken out (`isCutShort_iff_tangled`).
-/

namespace Flashcards

open Text Markup Markup.Node

namespace Markup.Node

/-- A condition that looks at an element without what is in it. -/
def Shallow (p : Node → Bool) : Prop := ∀ (name : Text) (as : Attributes) (cs cs' : List Node),
  p (.element name as cs) = p (.element name as cs')

/-- Whether a node is running text, or a comment or a declaration. -/
def isText : Node → Bool
  | .text _ _ => true
  | .element _ _ _ => false

/-- A node without what is in it. -/
def shell : Node → Node
  | .text k t => .text k t
  | .element name as _ => .element name as []

/-- A node at its place: without what is in it, and with the element that it stands in, if it stands in one, without what is in that. -/
structure Placed where
  within : Option Node
  node : Node
  deriving DecidableEq

mutual

/-- A node and all nodes within it at their places, in document order. -/
def placed (within : Option Node) : Node → List Placed
  | .text k t => [⟨within, .text k t⟩]
  | .element n as cs => ⟨within, .element n as []⟩ :: placedAll (some (.element n as [])) cs

/-- Nodes and all nodes within them at their places, in document order. -/
def placedAll (within : Option Node) : List Node → List Placed
  | [] => []
  | n :: ns => placed within n ++ placedAll within ns

end

/-- Whether a node is left at its place when the elements for which a condition holds are taken out: it holds neither for the node nor for
the element that it stands in. -/
def Placed.isLeft (p : Node → Bool) (e : Placed) : Bool := !p e.node && !e.within.any p

theorem placedAll_append (within : Option Node) (ns ms : List Node) :
    placedAll within (ns ++ ms) = placedAll within ns ++ placedAll within ms := by
  induction ns with
  | nil => rfl
  | cons n ns ih => rw [List.cons_append, placedAll, placedAll, ih, List.append_assoc]

mutual

/-- What stands in a node is the node itself, or stands in an element that is in it. -/
theorem mem_placed {within : Option Node} {e : Placed} : ∀ {n : Node}, e ∈ placed within n →
    e = ⟨within, n.shell⟩ ∨ ∃ m ∈ preorder n, e.within = some m.shell ∧ ∃ c ∈ m.children, e.node = c.shell
  | .text k t, he => Or.inl (List.mem_singleton.1 he)
  | .element name as cs, he => by
    rcases List.mem_cons.1 he with rfl | he
    · exact Or.inl rfl
    · right
      rcases mem_placedAll he with ⟨c, hc, rfl⟩ | ⟨m, hm, hplace⟩
      · exact ⟨.element name as cs, List.mem_cons_self, rfl, c, hc, rfl⟩
      · exact ⟨m, List.mem_cons_of_mem _ hm, hplace⟩

/-- What stands among nodes is one of them, or stands in an element that is in one of them. -/
theorem mem_placedAll {within : Option Node} {e : Placed} : ∀ {ns : List Node}, e ∈ placedAll within ns →
    (∃ n ∈ ns, e = ⟨within, n.shell⟩) ∨ ∃ m ∈ preorderAll ns, e.within = some m.shell ∧ ∃ c ∈ m.children, e.node = c.shell
  | [], he => by cases he
  | n :: ns, he => by
    rw [placedAll, List.mem_append] at he
    rcases he with he | he
    · rcases mem_placed he with rfl | ⟨m, hm, hplace⟩
      · exact Or.inl ⟨n, List.mem_cons_self, rfl⟩
      · exact Or.inr ⟨m, List.mem_append_left _ hm, hplace⟩
    · rcases mem_placedAll he with ⟨m, hm, rfl⟩ | ⟨m, hm, hplace⟩
      · exact Or.inl ⟨m, List.mem_cons_of_mem n hm, rfl⟩
      · exact Or.inr ⟨m, List.mem_append_right _ hm, hplace⟩

end

/-- Running text stands where it stands, and has nothing in it. -/
theorem within_of_texts {within : Option Node} {cs : List Node} (h : ∀ c ∈ cs, c.isText = true) {e : Placed}
    (he : e ∈ placedAll within cs) : e.within = within := by
  induction cs with
  | nil => cases he
  | cons c cs ih =>
    rw [placedAll, List.mem_append] at he
    rcases he with he | he
    · cases c with
      | text k t => rw [List.mem_singleton.1 he]
      | element name as cs' => cases h _ List.mem_cons_self
    · exact ih (fun c' hc' => h c' (List.mem_cons_of_mem c hc')) he

/-! ## Taking out -/

theorem prune_append (p : Node → Bool) (ns ms : List Node) : prune p (ns ++ ms) = prune p ns ++ prune p ms := by
  induction ns with
  | nil => rfl
  | cons n ns ih => rw [List.cons_append, prune, prune, ih, List.append_assoc]

section Prune

variable {β : Type} {p q : Node → Bool} {g : Node → Option β}

mutual

theorem prune_pruneNode (hq : Shallow q) : ∀ n : Node, prune q (pruneNode p n) = pruneNode (fun m => p m || q m) n
  | .text k t => rfl
  | .element name as cs => by
    unfold pruneNode
    cases hp : p (.element name as cs) with
    | true => rfl
    | false =>
      simp only [Bool.false_eq_true, if_false, Bool.false_or, prune, pruneNode, List.append_nil, hq name as (prune p cs) cs,
        prune_prune hq cs]

/-- What is taken out one after the other is taken out at once. -/
theorem prune_prune (hq : Shallow q) : ∀ ns : List Node, prune q (prune p ns) = prune (fun m => p m || q m) ns
  | [] => rfl
  | n :: ns => by rw [prune, prune_append, prune_pruneNode hq n, prune_prune hq ns, prune]

end

mutual

/-- What is looked for in a node is still found when elements without content are taken out of which none is looked for. -/
theorem filterMap_pruneNode (hp : ∀ n, p n = true → g n = none) :
    ∀ n : Node, (∀ m ∈ preorder n, p m = true → m.children = []) →
      (∀ name as cs, .element name as cs ∈ preorder n → g (.element name as (prune p cs)) = g (.element name as cs)) →
      (preorderAll (pruneNode p n)).filterMap g = (preorder n).filterMap g
  | .text k t, _, _ => by simp [pruneNode, preorderAll]
  | .element name as cs, h, hg => by
    unfold pruneNode
    split
    · rename_i hpn
      obtain rfl : cs = [] := h (.element name as cs) (by simp [preorder]) hpn
      simp [preorderAll, preorder, hp _ hpn]
    · have hcs := filterMap_prune hp cs (fun m hm => h m (by simp [preorder, hm]))
        fun name' as' cs' hm => hg name' as' cs' (by simp [preorder, hm])
      simp only [preorderAll, preorder, List.append_nil, List.filterMap_cons, hcs, hg name as cs List.mem_cons_self]

/-- What is looked for among nodes is still found when elements without content are taken out of which none is looked for. -/
theorem filterMap_prune (hp : ∀ n, p n = true → g n = none) :
    ∀ ns : List Node, (∀ m ∈ preorderAll ns, p m = true → m.children = []) →
      (∀ name as cs, .element name as cs ∈ preorderAll ns → g (.element name as (prune p cs)) = g (.element name as cs)) →
      (preorderAll (prune p ns)).filterMap g = (preorderAll ns).filterMap g
  | [], _, _ => rfl
  | n :: ns, h, hg => by
    have hn := filterMap_pruneNode hp n (fun m hm => h m (by simp [preorderAll, hm]))
      fun name as cs hm => hg name as cs (by simp [preorderAll, hm])
    have hns := filterMap_prune hp ns (fun m hm => h m (by simp [preorderAll, hm]))
      fun name as cs hm => hg name as cs (by simp [preorderAll, hm])
    unfold prune
    rw [preorderAll_append, preorderAll, List.filterMap_append, List.filterMap_append, hn, hns]

end

mutual

theorem placedAll_pruneNode (hp : Shallow p) (ht : ∀ k t, p (.text k t) = false) {within : Option Node} (hw : within.any p = false) :
    ∀ n : Node, (∀ m ∈ preorder n, p m = true → ∀ c ∈ m.children, c.isText = true) →
      placedAll within (pruneNode p n) = (placed within n).filter (Placed.isLeft p)
  | .text k t, _ => by simp [pruneNode, placedAll, placed, Placed.isLeft, ht, hw]
  | .element name as cs, h => by
    have hshell := hp name as [] cs
    unfold pruneNode
    rw [placed, List.filter_cons]
    cases hpn : p (.element name as cs) with
    | true =>
      -- The element goes, and so does the running text in it.
      have htexts : ∀ c ∈ cs, c.isText = true := h (.element name as cs) List.mem_cons_self hpn
      have hgone : (placedAll (some (.element name as [])) cs).filter (Placed.isLeft p) = [] := by
        refine List.filter_eq_nil_iff.2 fun e he => ?_
        rw [Placed.isLeft, within_of_texts htexts he, Option.any_some, hshell, hpn]
        simp
      rw [hgone, Placed.isLeft, hshell, hpn]
      rfl
    | false =>
      have hwithin : (some (Node.element name as [])).any p = false := by rw [Option.any_some, hshell, hpn]
      have hcs := placedAll_prune hp ht hwithin cs fun m hm => h m (by simp [preorder, hm])
      rw [Placed.isLeft, hshell, hpn, hw, if_neg Bool.false_ne_true, if_pos (by rfl), ← hcs]
      simp only [placedAll, placed, List.append_nil]

/-- When elements that hold running text alone are taken out, every other node is left at its place, in the same order. -/
theorem placedAll_prune (hp : Shallow p) (ht : ∀ k t, p (.text k t) = false) {within : Option Node} (hw : within.any p = false) :
    ∀ ns : List Node, (∀ m ∈ preorderAll ns, p m = true → ∀ c ∈ m.children, c.isText = true) →
      placedAll within (prune p ns) = (placedAll within ns).filter (Placed.isLeft p)
  | [], _ => rfl
  | n :: ns, h => by
    have hn := placedAll_pruneNode hp ht hw n fun m hm => h m (by simp [preorderAll, hm])
    have hns := placedAll_prune hp ht hw ns fun m hm => h m (by simp [preorderAll, hm])
    rw [prune, placedAll_append, hn, hns, placedAll, List.filter_append]

end

mutual

/-- What is in a node when elements are taken out of it has been there, and it is none of those. -/
theorem mem_pruneNode {m : Node} : ∀ {n : Node}, m ∈ preorderAll (pruneNode p n) →
    (∃ kind t, m = .text kind t ∧ m ∈ preorder n) ∨
      ∃ name as cs, m = .element name as (prune p cs) ∧ .element name as cs ∈ preorder n ∧ p (.element name as cs) = false
  | .text kind t, h => by
    obtain rfl : m = .text kind t := by simpa [pruneNode, preorderAll, preorder] using h
    exact .inl ⟨kind, t, rfl, List.mem_cons_self⟩
  | .element name as cs, h => by
    unfold pruneNode at h
    split at h
    · cases h
    · rename_i hp
      rw [preorderAll, preorderAll, List.append_nil, preorder, List.mem_cons] at h
      rcases h with rfl | h
      · exact .inr ⟨name, as, cs, rfl, List.mem_cons_self, eq_false_of_ne_true hp⟩
      · rcases mem_prune h with ⟨kind, t, rfl, hmem⟩ | ⟨name', as', cs', rfl, hmem, hp'⟩
        · exact .inl ⟨kind, t, rfl, List.mem_cons_of_mem _ hmem⟩
        · exact .inr ⟨name', as', cs', rfl, List.mem_cons_of_mem _ hmem, hp'⟩

/-- What is among nodes and in them when elements are taken out has been there, and it is none of those. -/
theorem mem_prune {m : Node} : ∀ {ns : List Node}, m ∈ preorderAll (prune p ns) →
    (∃ kind t, m = .text kind t ∧ m ∈ preorderAll ns) ∨
      ∃ name as cs, m = .element name as (prune p cs) ∧ .element name as cs ∈ preorderAll ns ∧ p (.element name as cs) = false
  | [], h => by cases h
  | n :: ns, h => by
    rw [prune, preorderAll_append, List.mem_append] at h
    rcases h with h | h
    · rcases mem_pruneNode h with ⟨kind, t, rfl, hmem⟩ | ⟨name, as, cs, rfl, hmem, hp⟩
      · exact .inl ⟨kind, t, rfl, List.mem_append_left _ hmem⟩
      · exact .inr ⟨name, as, cs, rfl, List.mem_append_left _ hmem, hp⟩
    · rcases mem_prune h with ⟨kind, t, rfl, hmem⟩ | ⟨name, as, cs, rfl, hmem, hp⟩
      · exact .inl ⟨kind, t, rfl, List.mem_append_right _ hmem⟩
      · exact .inr ⟨name, as, cs, rfl, List.mem_append_right _ hmem, hp⟩

end

end Prune

/-- In what is read from markup, an element of a name has content that fits in it. -/
theorem fitsIn_of_parse {t : Text} {nodes : List Node} (h : parse t = .ok nodes) {name : Text} {as : Attributes} {cs : List Node}
    (hm : .element name as cs ∈ preorderAll nodes) : FitsIn name cs := by
  obtain ⟨n, hn, hmn⟩ := mem_preorderAll.1 hm
  exact (filled_of_parse h n hn _ hmn).2

/-- A script has at most one text, of its own kind. -/
theorem children_of_script {t : Text} {nodes : List Node} (h : parse t = .ok nodes) {n : Node} (hn : n ∈ preorderAll nodes)
    (hs : n.isNamed "script" = true) : n.children = [] ∨ ∃ content, n.children = [.text .script content] := by
  cases n with
  | text k t => exact Or.inl rfl
  | element name as cs =>
    obtain rfl : name = "script" := by simpa [isNamed] using hs
    obtain rfl | ⟨kind, content, hkind, -, rfl⟩ := (fitsIn_of_parse h hn).raw (by decide)
    · exact Or.inl rfl
    · obtain rfl : TextKind.script = kind := Option.some.inj (hkind ▸ by decide)
      exact Or.inr ⟨content, rfl⟩

end Markup.Node

/-! ## What a fragment gives up -/

theorem parse_of_fragment {t : Text} {nodes : List Node} (h : Page.fragment t = .ok nodes) : parse t = .ok nodes := eq_ok_of_mapError h

/-- A style sheet is linked to by a link. -/
theorem isNamed_link_of_stylesheetAddress? {n : Node} (h : (stylesheetAddress? n).isSome = true) : n.isNamed "link" = true := by
  obtain ⟨href, hhref⟩ := Option.isSome_iff_exists.1 h
  exact (Bool.and_eq_true_iff.1 (isStylesheetLink_of_stylesheetAddress? hhref)).1

/-- An element that links to a style sheet is no script. -/
theorem scriptTaken?_of_stylesheetAddress? (librariesOnly : Bool) {n : Node} (h : (stylesheetAddress? n).isSome = true) :
    scriptTaken? librariesOnly n = none := by
  have hlink := isNamed_link_of_stylesheetAddress? h
  cases n with
  | text k t => rfl
  | element name as cs =>
    obtain rfl : name = "link" := by simpa [isNamed] using hlink
    rfl

/-- Only scripts are taken as scripts. -/
theorem scriptTaken?_of_not_script (librariesOnly : Bool) {n : Node} (h : n.isNamed "script" = false) :
    scriptTaken? librariesOnly n = none := by
  unfold scriptTaken? script?
  rw [if_neg (by rw [h]; exact Bool.false_ne_true)]

/-- The links of nodes to style sheets at an address have no content. -/
def BareLinks (nodes : List Node) : Prop := ∀ n ∈ preorderAll nodes, (stylesheetAddress? n).isSome = true → n.children = []

instance : DecidablePred BareLinks := fun nodes =>
  inferInstanceAs (Decidable (∀ n ∈ preorderAll nodes, (stylesheetAddress? n).isSome = true → n.children = []))

/-- The scripts that the nodes of a fragment give up are all that they have: none goes with a style sheet, and none changes. -/
theorem scripts_ofNodes (librariesOnly : Bool) {t : Text} {nodes : List Node} (h : parse t = .ok nodes) (hlinks : BareLinks nodes) :
    (Harvest.ofNodes librariesOnly nodes).scripts = (preorderAll nodes).filterMap (scriptTaken? librariesOnly) := by
  refine filterMap_prune (fun _ => scriptTaken?_of_stylesheetAddress? librariesOnly) nodes hlinks fun name as cs hm => ?_
  cases hname : (Node.element name as cs).isNamed "script" with
  | true =>
    -- The style sheets taken out of a script are none.
    obtain hcs | ⟨content, hcs⟩ := children_of_script h hm hname
    · obtain rfl : cs = [] := hcs
      rfl
    · obtain rfl : cs = [.text .script content] := hcs
      rfl
  | false =>
    rw [scriptTaken?_of_not_script librariesOnly hname]
    exact scriptTaken?_of_not_script librariesOnly hname

/-! ## Searches that are cut short -/

/-- A link to a style sheet stands in one that is taken out. -/
def Tangled (nodes : List Node) : Prop :=
  ∃ n ∈ preorderAll nodes, (stylesheetAddress? n).isSome = true ∧ ∃ m ∈ preorderAll n.children, isStylesheetLink m = true

theorem BareLinks.not_tangled {nodes : List Node} (h : BareLinks nodes) : ¬ Tangled nodes := by
  rintro ⟨n, hn, hlink, m, hm, -⟩
  rw [h n hn hlink] at hm
  cases hm

/-- What is left of a script when style sheets are taken out of its document has no element in it. -/
theorem isNamed_eq_false_of_mem_script {t : Text} {nodes : List Node} (h : parse t = .ok nodes) {p : Node → Bool} {n m : Node}
    (hn : n ∈ preorderAll (prune p nodes)) (hs : n.isNamed "script" = true) (hm : m ∈ preorderAll n.children) (name : Text) :
    m.isNamed name = false := by
  rcases mem_prune hn with ⟨kind, content, rfl, -⟩ | ⟨name', as, cs, rfl, hmem, -⟩
  · cases hs
  · rcases children_of_script h hmem hs with hcs | ⟨content, hcs⟩
    · obtain rfl : cs = [] := hcs
      cases hm
    · obtain rfl : cs = [.text .script content] := hcs
      rw [List.mem_singleton.1 hm]
      rfl

/-- A search of what is read from markup is cut short exactly if a link to a style sheet stands in one that is taken out. -/
theorem isCutShort_iff_tangled (librariesOnly : Bool) {t : Text} {nodes : List Node} (h : parse t = .ok nodes) :
    Harvest.isCutShort librariesOnly nodes = true ↔ Tangled nodes := by
  have hlinks : (Harvest.links nodes).any Finding.isGone = true ↔ Tangled nodes := any_isGone_found_iff (fun _ _ => rfl) nodes
  rw [Harvest.isCutShort, Bool.or_eq_true, hlinks, any_isGone_found_iff fun _ _ => rfl]
  refine or_iff_left ?_
  rintro ⟨n, hn, htaken, m, hm, hscript⟩
  obtain ⟨s, hs⟩ := Option.isSome_iff_exists.1 htaken
  rw [isNamed_eq_false_of_mem_script h hn (isNamed_of_scriptTaken? hs) hm] at hscript
  cases hscript

end Flashcards

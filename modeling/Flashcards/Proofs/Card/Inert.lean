import Flashcards.Proofs.Card.Flipping
import Flashcards.Proofs.Hoist.Residue

/-!
# Nothing in a card is run or loaded

A card made from a template holds no script and no link to a style sheet, on whatever side it is (`Card.clicked_inert`): what its templates
have of them is hoisted, what is left is read without any, and what the card adds to it is none.

The exception is a fragment from which something is taken out and in which a declaration holds a `>`. What is left of it is written out, and
what stands behind the `>` comes to life when it is read (`Card.script_revived`).
-/

namespace Flashcards

open Text Markup Markup.Node

/-- Only links and scripts are taken out. -/
theorem isTakenOut_of_name {name : Text} (hlink : name ≠ "link") (hscript : name ≠ "script") (as : Attributes) (cs : List Node) :
    isTakenOut false (.element name as cs) = false := by
  rw [isTakenOut_eq_false_iff]
  refine ⟨beq_eq_false_iff_ne.2 hscript, ?_⟩
  unfold linksStylesheet isNamed
  dsimp only
  rw [beq_eq_false_iff_ne.2 hlink]
  rfl

namespace Card

/-- No node among some and within them is a script or links to a style sheet. -/
def Inert (ns : List Node) : Prop := ∀ m ∈ preorderAll ns, isTakenOut false m = false

theorem inert_append {ns ms : List Node} : Inert (ns ++ ms) ↔ Inert ns ∧ Inert ms := by
  unfold Inert
  rw [preorderAll_append, List.forall_mem_append]

theorem inert_text (kind : TextKind) (t : Text) : Inert [.text kind t] := by
  intro m hm
  rw [List.mem_singleton.1 hm]
  exact isTakenOut_text false kind t

/-- What stands in an element that is neither a link nor a script. -/
theorem inert_element {name : Text} (hlink : name ≠ "link") (hscript : name ≠ "script") (as : Attributes) {cs : List Node} (h : Inert cs) :
    Inert [.element name as cs] := by
  intro m hm
  rw [preorderAll, preorderAll, List.append_nil, preorder, List.mem_cons] at hm
  rcases hm with rfl | hm
  · exact isTakenOut_of_name hlink hscript as cs
  · exact h m hm

/-- A face is neither taken out nor left because of its appearance. -/
theorem isTakenOut_appearance (shown face : Side) (n : Node) : isTakenOut false (appearance shown face n) = isTakenOut false n := by
  have hrel : ("rel" : Text) ≠ "style" := by decide
  have hhref : ("href" : Text) ≠ "style" := by decide
  have hsrc : ("src" : Text) ≠ "style" := by decide
  cases n with
  | text k t =>
    unfold appearance
    split <;> rfl
  | element name as cs =>
    unfold appearance isTakenOut linksStylesheet isExternalScript isInlineScript attributeText? attribute?
    split
    · simp only [reveal, removeAttribute, attributes, Attributes.find?_remove_of_ne hrel, Attributes.find?_remove_of_ne hhref,
        Attributes.find?_remove_of_ne hsrc, isNamed]
    · simp only [hide, setAttribute, attributes, Attributes.find?_set_of_ne hrel, Attributes.find?_set_of_ne hhref,
        Attributes.find?_set_of_ne hsrc, isNamed]

/-- Turning faces brings nothing to life. -/
theorem inert_turnFaces {ns : List Node} (h : Inert ns) (side : Side) : Inert (turnFaces side ns) := by
  have hface : ∀ (face : Side) (ms : List Node), Inert ms → Inert (updateFace face (appearance side face) ms) := by
    intro face ms hms
    rw [updateFace_eq]
    split
    · rw [Inert, ← firstPlaceAmong?_eq_none_iff, firstPlaceAmong?_changeAmong (isTakenOut_shallow false) (keepsInner_appearance side face)
        (isTakenOut_appearance side face), firstPlaceAmong?_eq_none_iff]
      exact hms
    · exact hms
  exact hface .back _ (hface .front ns h)

/-- A card whose faces are inert, on a side. -/
def ShowsInert (note : Note) (c : Card) : Prop :=
  ∃ side bs ns, c = ⟨containerOf (.element "div" bs (ns ++ [hintOf [Page.plain side.hint]])) note, some side⟩ ∧ Inert ns

variable {note : Note}

theorem showsInert_ofFaces {faces : List Node} (h : Inert faces) : ShowsInert note (ofFaces faces note) := by
  let bs : Attributes := Attributes.set "style" (.text "cursor:pointer") [("class", .words (words "card-render"))]
  refine ⟨.front, bs.set "data-side" (.text Side.front.name), turnFaces .front faces, ?_, inert_turnFaces h .front⟩
  show (⟨containerOf (showSide .front (.element "div" bs (faces ++ [hintOf []]))) note, some .front⟩ : Card) = _
  rw [showSide_concat faceless_hintOf_nil]

theorem ShowsInert.click {c : Card} (h : ShowsInert note c) : ShowsInert note c.click := by
  obtain ⟨side, bs, ns, rfl, hns⟩ := h
  refine ⟨side.toggle, bs.set "data-side" (.text side.toggle.name), turnFaces side.toggle ns, ?_, inert_turnFaces hns side.toggle⟩
  show (⟨containerOf (showSide side.toggle (.element "div" bs (ns ++ [hintOf _]))) note, some side.toggle⟩ : Card) = _
  rw [showSide_concat (faceless_hintOf _)]

theorem ShowsInert.clicked {c : Card} (h : ShowsInert note c) (k : Nat) : ShowsInert note (c.clicked k) := by
  induction k with
  | zero => exact h
  | succ k ih => exact ih.click

theorem inert_tagBar (note : Note) : Inert (tagBar note) := by
  unfold tagBar
  split
  · exact List.forall_mem_nil _
  · refine inert_element (by decide) (by decide) _ ?_
    induction note.tags with
    | nil => exact List.forall_mem_nil _
    | cons t tags ih =>
      exact inert_append.2 ⟨inert_element (by decide) (by decide) _ (inert_text _ _), ih⟩

/-- Nothing that stands around the faces in a card is a script or links to a style sheet. -/
theorem ShowsInert.inert {c : Card} (h : ShowsInert note c) : Inert [c.element] := by
  obtain ⟨side, bs, ns, rfl, hns⟩ := h
  have hhint : Inert [hintOf [Page.plain side.hint]] := inert_element (by decide) (by decide) _ (inert_text _ _)
  have hshown : Inert [.element "div" bs (ns ++ [hintOf [Page.plain side.hint]])] :=
    inert_element (by decide) (by decide) bs (inert_append.2 ⟨hns, hhint⟩)
  exact inert_element (by decide) (by decide) _ (inert_append.2 ⟨hshown, inert_tagBar note⟩)

/-- A card made from a template holds no script and no link to a style sheet, after any number of clicks, unless something has been taken out
of what its templates make and a declaration there holds a `>`. -/
theorem clicked_inert {model : NoteModel} {template : CardTemplate} {w : Workspace} {c : Card}
    (h : (fromTemplate note model template w).2 = .ok c)
    (hends : ∀ nodes, Page.fragment (facesMarkup note model template) = .ok nodes → (preorderAll nodes).any (isTakenOut false) = true →
      ∀ content, .text .declaration content ∈ preorderAll nodes → '>' ∉ content) (k : Nat) :
    ∀ n ∈ preorder (c.clicked k).element, n.isNamed "script" = false ∧ linksStylesheet n = false := by
  obtain ⟨markup, faces, hleft, hfaces, rfl⟩ := exists_of_fromTemplate h
  have hends' : ∀ nodes, Page.fragment (facesMarkup note model template) = .ok nodes → (preorderAll nodes).any (isTakenOut false) = true →
      ∀ m ∈ preorderAll nodes, m.endsAsWritten = true := by
    intro nodes hnodes hany m hm
    cases m with
    | element name as cs => rfl
    | text kind t =>
      cases kind with
      | declaration => simpa [endsAsWritten] using hends nodes hnodes hany t hm
      | _ => rfl
  obtain ⟨ms, hms, hinert⟩ := leftOf_leaves_none hleft hends'
  obtain rfl : ms = faces := Except.ok.inj (hms.symm.trans hfaces)
  have hshows : ShowsInert note (ofFaces ms note) := showsInert_ofFaces hinert
  intro n hn
  exact isTakenOut_eq_false_iff.1 ((hshows.clicked k).inert n (List.mem_append_left _ hn))

/-- A script and a link are taken out of a question, and a declaration without a `>` is left in it. -/
theorem clicked_inert_hoisted :
    ∃ c, (fromTemplate ⟨[], [], [], []⟩ ⟨none, none, [], [], [], []⟩
        ⟨[], "<link rel=stylesheet href=s><script>f()</script><![if a]>Q", "A"⟩ .blank).2 = .ok c ∧
      ∀ k, ∀ n ∈ preorder (c.clicked k).element, n.isNamed "script" = false ∧ linksStylesheet n = false := by
  have hcard : (fromTemplate ⟨[], [], [], []⟩ ⟨none, none, [], [], [], []⟩
      ⟨[], "<link rel=stylesheet href=s><script>f()</script><![if a]>Q", "A"⟩ .blank).2.toOption.isSome = true := by decide +kernel
  have hdeclared : ((Page.fragment (facesMarkup ⟨[], [], [], []⟩ ⟨none, none, [], [], [], []⟩
      ⟨[], "<link rel=stylesheet href=s><script>f()</script><![if a]>Q", "A"⟩)).toOption.map fun nodes =>
        (preorderAll nodes).all endsAsWritten) = some true := by decide +kernel
  obtain ⟨c, hc⟩ := Option.isSome_iff_exists.1 hcard
  have hc := eq_ok_of_toOption hc
  refine ⟨c, hc, clicked_inert hc ?_⟩
  intro nodes hnodes _ content hm
  rw [hnodes] at hdeclared
  have hends := List.all_eq_true.1 (Option.some.inj hdeclared) _ hm
  simpa [endsAsWritten] using hends

/-- A script that stands in a declaration, behind a `>`, is in the card when another one has been taken out. -/
theorem script_revived :
    ∃ c, (fromTemplate ⟨[], [], [], []⟩ ⟨none, none, [], [], [], []⟩
        ⟨[], "<script>x</script><![if a><script>f()</script>]>Q", "A"⟩ .blank).2 = .ok c ∧
      ∃ n ∈ preorder c.element, n.isNamed "script" = true := by
  have hrun : ((fromTemplate ⟨[], [], [], []⟩ ⟨none, none, [], [], [], []⟩
      ⟨[], "<script>x</script><![if a><script>f()</script>]>Q", "A"⟩ .blank).2.toOption.map fun c =>
        (preorder c.element).any (isNamed "script")) = some true := by decide +kernel
  obtain ⟨c, hc, hany⟩ := Option.map_eq_some_iff.1 hrun
  exact ⟨c, eq_ok_of_toOption hc, List.any_eq_true.1 hany⟩

end Card

end Flashcards

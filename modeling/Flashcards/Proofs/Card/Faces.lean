import Flashcards.Card
import Flashcards.Proofs.Markup.Attributes
import Flashcards.Proofs.Markup.Places

/-!
# Faces among nodes

The face of a side is found at a place among what the templates have made: the first one at the top, or else the first one anywhere. It is
shown by taking its own style away, and hidden by a style of its own. That concerns neither where faces are found nor whether anything else is
hidden, so after any number of turns everything is known from the place and the last turn (`Card.Turned`).
-/

namespace Flashcards

open Text Markup Markup.Node

/-- Whether an element is hidden by its own style. -/
def isHidden (n : Node) : Bool := n.attributeText? "style" == some "display:none"

namespace Card

/-! ## Revealing and hiding -/

theorem isHidden_shell (n : Node) : isHidden n.shell = isHidden n := by
  cases n <;> rfl

theorem isFace_shallow (side : Side) : Shallow (isFace side) := by
  intro name as cs cs'
  rfl

theorem keepsInner_reveal : KeepsInner reveal := by
  constructor <;> intro n <;> cases n <;> rfl

theorem keepsInner_hide : KeepsInner hide := by
  constructor <;> intro n <;> cases n <;> rfl

theorem isHidden_reveal (n : Node) : isHidden (reveal n) = false := by
  cases n with
  | text k t => rfl
  | element name as cs =>
    show ((((as.remove "style").find? "style").map AttributeValue.joined) == some "display:none") = false
    rw [Attributes.find?_remove_self]
    rfl

theorem isHidden_hide {n : Node} (h : n.isText = false) : isHidden (hide n) = true := by
  cases n with
  | text k t => cases h
  | element name as cs =>
    show ((((as.set "style" (.text "display:none")).find? "style").map AttributeValue.joined) == some "display:none") = true
    rw [Attributes.find?_set_self]
    exact beq_self_eq_true _

/-- What a face of a side becomes when a card shows a side. -/
def appearance (shown face : Side) : Node → Node := if face = shown then reveal else hide

theorem keepsInner_appearance (shown face : Side) : KeepsInner (appearance shown face) := by
  unfold appearance
  split
  · exact keepsInner_reveal
  · exact keepsInner_hide

theorem isFace_appearance (side shown face : Side) (n : Node) : isFace side (appearance shown face n) = isFace side n := by
  cases n with
  | text k t =>
    unfold appearance
    split <;> rfl
  | element name as cs =>
    have hclass : ("class" : Text) ≠ "style" := by decide
    unfold appearance
    split
    · show (name == "div" && (((as.remove "style").find? "class").map (AttributeValue.holds side.faceClass)).getD false) = _
      rw [Attributes.find?_remove_of_ne hclass]
      rfl
    · show (name == "div" && (((as.set "style" _).find? "class").map (AttributeValue.holds side.faceClass)).getD false) = _
      rw [Attributes.find?_set_of_ne hclass]
      rfl

/-- Where a face of a side has been put into the appearance that belongs to the side shown, it is hidden if it is of the other one. -/
theorem isHidden_appearance (shown face : Side) {n : Node} (h : n.isText = false) :
    isHidden (appearance shown face n) = decide (face ≠ shown) := by
  unfold appearance
  by_cases hf : face = shown
  · rw [if_pos hf, isHidden_reveal]
    simp [hf]
  · rw [if_neg hf, isHidden_hide h]
    simp [hf]

theorem isText_of_isFace {side : Side} {n : Node} (h : isFace side n = true) : n.isText = false := by
  cases n with
  | text k t => cases h
  | element name as cs => rfl

/-! ## Faces among nodes -/

/-- The place of the face of a side among nodes: the first face among them, or else the first one within them. -/
def facePlaceAmong? (side : Side) (ns : List Node) : Option (List Nat) :=
  match ns.findIdx? (isFace side) with
  | some i => some [i]
  | none => firstPlaceAmong? (isFace side) ns

/-- Whether what stands at a place among nodes is hidden by its own style. -/
def hiddenAmong (place : List Nat) (ns : List Node) : Bool := (atAmong? place ns).any isHidden

theorem hiddenAmong_eq (place : List Nat) (ns : List Node) : hiddenAmong place ns = ((atAmong? place ns).map shell).any isHidden := by
  unfold hiddenAmong
  cases atAmong? place ns with
  | none => rfl
  | some n => exact (isHidden_shell n).symm

theorem updateFirstChild?_eq (p : Node → Bool) (f : Node → Node) (ns : List Node) :
    updateFirstChild? p f ns = (ns.findIdx? p).map fun i => ns.modify i f := by
  induction ns with
  | nil => rfl
  | cons n ns ih =>
    rw [updateFirstChild?, List.findIdx?_cons]
    by_cases hp : p n = true
    · rw [if_pos hp, if_pos hp]
      rfl
    · rw [if_neg hp, if_neg hp, ih, Option.map_map, Option.map_map]
      rfl

/-- A face is changed at its place; where there is none, nothing is. -/
theorem updateFace_eq (side : Side) (f : Node → Node) (ns : List Node) :
    updateFace side f ns = match facePlaceAmong? side ns with
      | some place => changeAmong f place ns
      | none => ns := by
  unfold updateFace facePlaceAmong?
  rw [updateFirstChild?_eq, updateFirstAmong?_eq]
  cases ns.findIdx? (isFace side) with
  | some i => rfl
  | none =>
    cases firstPlaceAmong? (isFace side) ns <;> rfl

/-- A face stands at the place where it has been found. -/
theorem isFace_of_facePlaceAmong? {side : Side} {ns : List Node} {place : List Nat} (h : facePlaceAmong? side ns = some place) :
    place ≠ [] ∧ ∃ n, atAmong? place ns = some n ∧ isFace side n = true := by
  unfold facePlaceAmong? at h
  split at h
  · rename_i i hi
    obtain rfl := Option.some.inj h
    obtain ⟨hlt, hp, -⟩ := List.findIdx?_eq_some_iff_getElem.1 hi
    refine ⟨List.cons_ne_nil _ _, ns[i], ?_, hp⟩
    rw [atAmong?, List.getElem?_eq_getElem hlt]
    rfl
  · exact ⟨firstPlaceAmong?_ne_nil h, atAmong?_firstPlaceAmong? h⟩

/-- Faces are found where they were when one of them has changed its appearance. -/
theorem facePlaceAmong?_updateFace (side shown face : Side) (ns : List Node) :
    facePlaceAmong? side (updateFace face (appearance shown face) ns) = facePlaceAmong? side ns := by
  rw [updateFace_eq]
  split
  · unfold facePlaceAmong?
    rw [findIdx?_changeAmong (isFace_shallow side) (isFace_appearance side shown face),
      firstPlaceAmong?_changeAmong (isFace_shallow side) (keepsInner_appearance shown face) (isFace_appearance side shown face)]
  · rfl

/-- A face that has changed its appearance is hidden if it is not of the side shown, and everything else is hidden or not as before. -/
theorem hiddenAmong_updateFace (shown face : Side) (r : List Nat) (ns : List Node) :
    hiddenAmong r (updateFace face (appearance shown face) ns) =
      if some r = facePlaceAmong? face ns then decide (face ≠ shown) else hiddenAmong r ns := by
  rw [updateFace_eq]
  cases hplace : facePlaceAmong? face ns with
  | none => rfl
  | some place =>
    obtain ⟨hne, n, hn, hface⟩ := isFace_of_facePlaceAmong? hplace
    rw [hiddenAmong_eq, shell_atAmong?_changeAmong (keepsInner_appearance shown face) place r ns hne]
    by_cases hr : r = place
    · subst hr
      rw [if_pos rfl, if_pos rfl, hn]
      exact (isHidden_shell _).trans (isHidden_appearance shown face (isText_of_isFace hface))
    · rw [if_neg hr, if_neg (fun h => hr (Option.some.inj h)), hiddenAmong_eq]

/-- Nodes with the faces among them put into the appearances that belong to a side. -/
def turnFaces (shown : Side) (ns : List Node) : List Node :=
  updateFace .back (appearance shown .back) (updateFace .front (appearance shown .front) ns)

/-- Nodes have come from others by turns, of which the last was to a side. The back is dealt with after the front, so where one element is both
faces it is hidden or not as the back. -/
structure Turned (faces : List Node) (shown : Side) (ns : List Node) : Prop where
  place : ∀ side, facePlaceAmong? side ns = facePlaceAmong? side faces
  hidden : ∀ r, hiddenAmong r ns =
    if some r = facePlaceAmong? .back faces then decide (.back ≠ shown)
    else if some r = facePlaceAmong? .front faces then decide (.front ≠ shown) else hiddenAmong r faces

theorem facePlaceAmong?_turnFaces (side shown : Side) (ns : List Node) :
    facePlaceAmong? side (turnFaces shown ns) = facePlaceAmong? side ns := by
  rw [turnFaces, facePlaceAmong?_updateFace, facePlaceAmong?_updateFace]

theorem turned_turnFaces (shown : Side) (faces : List Node) : Turned faces shown (turnFaces shown faces) := by
  refine ⟨fun side => facePlaceAmong?_turnFaces side shown faces, ?_⟩
  intro r
  rw [turnFaces, hiddenAmong_updateFace, hiddenAmong_updateFace, facePlaceAmong?_updateFace]

theorem Turned.again {faces ns : List Node} {shown : Side} (h : Turned faces shown ns) (shown' : Side) :
    Turned faces shown' (turnFaces shown' ns) := by
  refine ⟨fun side => (facePlaceAmong?_turnFaces side shown' ns).trans (h.place side), ?_⟩
  intro r
  rw [(turned_turnFaces shown' ns).hidden r, h.hidden r, h.place, h.place]
  by_cases hb : some r = facePlaceAmong? .back faces
  · rw [if_pos hb, if_pos hb]
  · rw [if_neg hb, if_neg hb, if_neg hb]
    by_cases hf : some r = facePlaceAmong? .front faces
    · rw [if_pos hf, if_pos hf]
    · rw [if_neg hf, if_neg hf, if_neg hf]

end Card

end Flashcards

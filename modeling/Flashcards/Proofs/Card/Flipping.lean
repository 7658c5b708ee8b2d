import Flashcards.Proofs.Card.Faces
import Flashcards.Proofs.Hoist.Searching

/-!
# Flipping cards

A click turns a card to its other side. The card says so itself, in its attribute and in its hint, after any number of clicks, whatever its
templates have made (`Card.Labelled`).

Whether the face of that side can be seen is another matter. A face is found at a place in what the templates have made, the same place at
every click (`Card.Turned.place`), and it is hidden by a style of its own, or of an element around it. Where markup is not balanced, one face
may stand in the other, or not be there at all. A click shows one face for the other exactly where both are found, neither of them stands in
the other, and nothing else around them is hidden (`Card.Apart`): that is `Card.flips_shown`.
-/

namespace Flashcards

open Text Markup Markup.Node

namespace Side

/-- The side of a card after a number of clicks. -/
def afterClicks (n : Nat) : Side := if n % 2 = 0 then .front else .back

theorem afterClicks_succ (n : Nat) : afterClicks (n + 1) = (afterClicks n).toggle := by
  unfold afterClicks
  rcases Nat.mod_two_eq_zero_or_one n with h | h
  · have hnext : ¬(n + 1) % 2 = 0 := by omega
    simp only [h, hnext, if_true, if_false, toggle]
  · have hnext : (n + 1) % 2 = 0 := by omega
    have hnow : ¬n % 2 = 0 := by omega
    simp only [hnow, hnext, if_true, if_false, toggle]

end Side

namespace Card

/-! ## What is asked of a card -/

/-- The place of the face of a side in the element of a card. -/
def facePlace? (side : Side) (c : Card) : Option (List Nat) :=
  match c.element.children with
  | [] => none
  | shown :: _ => (facePlaceAmong? side shown.children).map (0 :: ·)

/-- Whether what stands at a place in a card is hidden by its own style. -/
def hiddenAt (place : List Nat) (c : Card) : Bool := (c.element.at? place).any isHidden

/-- A card shows the face of a side: neither the face nor an element around it is hidden. -/
def Shows (side : Side) (c : Card) : Prop := ∃ place, c.facePlace? side = some place ∧ ∀ r, r <+: place → c.hiddenAt r = false

/-- A card hides the face of a side: the face or an element around it is hidden. -/
def Hides (side : Side) (c : Card) : Prop := ∃ place, c.facePlace? side = some place ∧ ∃ r, r <+: place ∧ c.hiddenAt r = true

/-- A card says which side it shows: in the attribute of its element and in the hint, which is the last thing in it. -/
def Labelled (side : Side) (c : Card) : Prop :=
  c.side = some side ∧ ∃ shown rest, c.element.children = shown :: rest ∧ shown.attributeText? "data-side" = some side.name ∧
    shown.children.getLast? = some (Page.classed "div" "card-flip-hint" [Page.plain side.hint])

/-- The faces of a card stand at places of their own: neither is within the other, and nothing around them is hidden. -/
structure Apart (c : Card) (front back : List Nat) : Prop where
  front_found : c.facePlace? .front = some front
  back_found : c.facePlace? .back = some back
  front_not_around : ¬front <+: back
  back_not_around : ¬back <+: front
  around : ∀ r, r ≠ front → r ≠ back → r <+: front ∨ r <+: back → c.hiddenAt r = false

/-- A card after a number of clicks. -/
def clicked (n : Nat) (c : Card) : Card := Nat.repeat click n c

/-! ## The element of a card -/

/-- The hint of a card, with what it says. -/
def hintOf (label : List Node) : Node := Page.classed "div" "card-flip-hint" label

/-- A node in which, and as which, no face is found. -/
def Faceless (n : Node) : Prop := ∀ side, firstPlace? (isFace side) n = none

theorem faceless_hintOf (t : Text) : Faceless (hintOf [Page.plain t]) := by
  intro side
  cases side <;> rfl

theorem faceless_hintOf_nil : Faceless (hintOf []) := by
  intro side
  cases side <;> rfl

theorem Faceless.not_face {n : Node} (h : Faceless n) (side : Side) : isFace side n = false := by
  have hnone := h side
  cases n with
  | text k t => rfl
  | element name as cs =>
    unfold firstPlace? at hnone
    split at hnone
    · cases hnone
    · rename_i hface
      exact eq_false_of_ne_true hface

/-- Faces are found where they are found without a last node in which there is none. -/
theorem facePlaceAmong?_concat {last : Node} (h : Faceless last) (side : Side) (ns : List Node) :
    facePlaceAmong? side (ns ++ [last]) = facePlaceAmong? side ns := by
  have hlast : [last].findIdx? (isFace side) = none := by
    rw [List.findIdx?_cons, h.not_face side]
    rfl
  have hwithin : firstPlaceAmong? (isFace side) (ns ++ [last]) = firstPlaceAmong? (isFace side) ns := by
    induction ns with
    | nil => simp only [List.nil_append, firstPlaceAmong?, h side, Option.map_none]
    | cons n ns ih => simp only [List.cons_append, firstPlaceAmong?, ih]
  unfold facePlaceAmong?
  rw [List.findIdx?_append, hlast, hwithin]
  cases ns.findIdx? (isFace side) <;> rfl

theorem modify_append_of_lt {f : Node → Node} {ns : List Node} {i : Nat} (h : i < ns.length) (ms : List Node) :
    (ns ++ ms).modify i f = ns.modify i f ++ ms := by
  induction ns generalizing i with
  | nil => cases h
  | cons n ns ih =>
    cases i with
    | zero => rfl
    | succ i => exact congrArg (n :: ·) (ih (Nat.lt_of_succ_lt_succ h))

/-- A change of a face leaves a last node alone that is none and in which there is none. -/
theorem updateFace_concat {last : Node} (h : Faceless last) (side : Side) (f : Node → Node) (ns : List Node) :
    updateFace side f (ns ++ [last]) = updateFace side f ns ++ [last] := by
  rw [updateFace_eq, updateFace_eq, facePlaceAmong?_concat h]
  cases hplace : facePlaceAmong? side ns with
  | none => rfl
  | some place =>
    obtain ⟨hne, n, hn, -⟩ := isFace_of_facePlaceAmong? hplace
    obtain ⟨i, place, rfl⟩ := List.exists_cons_of_ne_nil hne
    have hi : i < ns.length := by
      apply Nat.lt_of_not_le
      intro hge
      rw [atAmong?, List.getElem?_eq_none hge] at hn
      cases hn
    show (ns ++ [last]).modify i (changeAt f place) = ns.modify i (changeAt f place) ++ [last]
    exact modify_append_of_lt hi [last]

theorem updateLast_concat (f : Node → Node) (ns : List Node) (last : Node) : updateLast f (ns ++ [last]) = ns ++ [f last] := by
  induction ns with
  | nil => rfl
  | cons n ns ih =>
    cases ns with
    | nil => rfl
    | cons m ns => exact congrArg (n :: ·) ih

/-- The element with the faces and the hint, showing a side. -/
theorem showSide_concat {label : List Node} (h : Faceless (hintOf label)) (side : Side) (name : Text) (bs : Attributes) (ns : List Node) :
    showSide side (.element name bs (ns ++ [hintOf label])) =
      .element name (bs.set "data-side" (.text side.name)) (turnFaces side ns ++ [hintOf [Page.plain side.hint]]) := by
  show Node.element name (bs.set "data-side" (.text side.name)) (updateLast (Node.withChildren [Page.plain side.hint])
    (turnFaces side (ns ++ [hintOf label]))) = _
  unfold turnFaces
  rw [updateFace_concat h, updateFace_concat h, updateLast_concat]
  rfl

/-- What a card made of faces comes to: it shows a side, its faces have been turned to it, and it says so. -/
def Showing (faces : List Node) (note : Note) (side : Side) (c : Card) : Prop :=
  ∃ bs ns, c = ⟨containerOf (.element "div" bs (ns ++ [hintOf [Page.plain side.hint]])) note, some side⟩ ∧ Turned faces side ns ∧
    bs.find? "data-side" = some (.text side.name) ∧ bs.find? "style" = some (.text "cursor:pointer")

theorem showing_ofFaces (faces : List Node) (note : Note) : Showing faces note .front (ofFaces faces note) := by
  let bs : Attributes := Attributes.set "style" (.text "cursor:pointer") [("class", .words (words "card-render"))]
  refine ⟨bs.set "data-side" (.text Side.front.name), turnFaces .front faces, ?_, turned_turnFaces .front faces,
    Attributes.find?_set_self _ _ bs, ?_⟩
  · show (⟨containerOf (showSide .front (.element "div" bs (faces ++ [hintOf []]))) note, some .front⟩ : Card) = _
    rw [showSide_concat faceless_hintOf_nil]
  · rw [Attributes.find?_set_of_ne (by decide), Attributes.find?_set_self]

/-- A click turns the faces to the other side. -/
theorem Showing.click {faces : List Node} {note : Note} {side : Side} {c : Card} (h : Showing faces note side c) :
    Showing faces note side.toggle c.click := by
  obtain ⟨bs, ns, rfl, hturned, -, hstyle⟩ := h
  refine ⟨bs.set "data-side" (.text side.toggle.name), turnFaces side.toggle ns, ?_, hturned.again side.toggle,
    Attributes.find?_set_self _ _ bs, ?_⟩
  · show (⟨containerOf (showSide side.toggle (.element "div" bs (ns ++ [hintOf _]))) note, some side.toggle⟩ : Card) = _
    rw [showSide_concat (faceless_hintOf _)]
  · rw [Attributes.find?_set_of_ne (by decide), hstyle]

/-- After any number of clicks the faces have been turned to the side that belongs to it. -/
theorem showing_clicked (faces : List Node) (note : Note) (n : Nat) :
    Showing faces note (Side.afterClicks n) (clicked n (ofFaces faces note)) := by
  induction n with
  | zero => exact showing_ofFaces faces note
  | succ n ih =>
    rw [Side.afterClicks_succ]
    exact ih.click

theorem Showing.labelled {faces : List Node} {note : Note} {side : Side} {c : Card} (h : Showing faces note side c) : c.Labelled side := by
  obtain ⟨bs, ns, rfl, -, hside, -⟩ := h
  refine ⟨rfl, _, tagBar note, rfl, ?_, List.getLast?_concat⟩
  show (bs.find? "data-side").map AttributeValue.joined = some side.name
  rw [hside]
  rfl

/-! ## Where the faces are, and what is hidden -/

section

variable {faces : List Node} {note : Note} {side : Side} {c : Card}

/-- The face of a side stands in the card where it stands among the faces that the card was made of. -/
theorem Showing.facePlace?_eq (h : Showing faces note side c) (s : Side) : c.facePlace? s = (facePlaceAmong? s faces).map (0 :: ·) := by
  obtain ⟨bs, ns, rfl, hturned, -, -⟩ := h
  show (facePlaceAmong? s (ns ++ [hintOf _])).map (0 :: ·) = _
  rw [facePlaceAmong?_concat (faceless_hintOf _), hturned.place]

/-- Neither the hint nor its text is hidden. -/
theorem hintOf_not_hidden (t : Text) (r : List Nat) : ((hintOf [Page.plain t]).at? r).any isHidden = false := by
  match r with
  | [] => rfl
  | [0] => rfl
  | 0 :: _ :: _ => rfl
  | (_ + 1) :: _ => rfl

theorem hiddenAmong_concat_hintOf (t : Text) (r : List Nat) (ns : List Node) :
    hiddenAmong r (ns ++ [hintOf [Page.plain t]]) = hiddenAmong r ns := by
  cases r with
  | nil => rfl
  | cons i r =>
    show (((ns ++ [hintOf [Page.plain t]])[i]?).bind (at? r)).any isHidden = ((ns[i]?).bind (at? r)).any isHidden
    by_cases hi : i < ns.length
    · rw [List.getElem?_append_left hi]
    · rw [List.getElem?_append_right (Nat.le_of_not_lt hi), List.getElem?_eq_none (l := ns) (Nat.le_of_not_lt hi)]
      cases hk : i - ns.length with
      | zero => exact hintOf_not_hidden t r
      | succ k => rfl

/-- What stands at a place within the element with the faces is hidden where it is among the faces, turned as they are. -/
theorem hiddenAt_within {bs : Attributes} {ns : List Node} (hturned : Turned faces side ns) (i : Nat) (r : List Nat) :
    hiddenAt (0 :: i :: r) ⟨containerOf (.element "div" bs (ns ++ [hintOf [Page.plain side.hint]])) note, some side⟩ =
      if some (i :: r) = facePlaceAmong? .back faces then decide (.back ≠ side)
      else if some (i :: r) = facePlaceAmong? .front faces then decide (.front ≠ side) else hiddenAmong (i :: r) faces :=
  (hiddenAmong_concat_hintOf side.hint (i :: r) ns).trans (hturned.hidden (i :: r))

/-- A place of a face in a card is that of a face among the faces it was made of. -/
theorem Showing.exists_of_facePlace? (h : Showing faces note side c) {s : Side} {place : List Nat} (hplace : c.facePlace? s = some place) :
    ∃ i r, place = 0 :: i :: r ∧ some (i :: r) = facePlaceAmong? s faces := by
  rw [h.facePlace?_eq s] at hplace
  obtain ⟨place', hplace', rfl⟩ := Option.map_eq_some_iff.1 hplace
  obtain ⟨i, r, rfl⟩ := List.exists_cons_of_ne_nil (isFace_of_facePlaceAmong? hplace').1
  exact ⟨i, r, rfl, hplace'.symm⟩

/-- The back is hidden while the front is shown. -/
theorem Showing.hiddenAt_back (h : Showing faces note side c) {place : List Nat} (hback : c.facePlace? .back = some place) :
    c.hiddenAt place = decide (.back ≠ side) := by
  obtain ⟨i, r, rfl, hir⟩ := h.exists_of_facePlace? hback
  obtain ⟨bs, ns, rfl, hturned, -, -⟩ := h
  rw [hiddenAt_within hturned, if_pos hir]

/-- The front is hidden while the back is shown, unless it is the back. -/
theorem Showing.hiddenAt_front (h : Showing faces note side c) {place : List Nat} (hfront : c.facePlace? .front = some place)
    (hback : c.facePlace? .back ≠ some place) : c.hiddenAt place = decide (.front ≠ side) := by
  obtain ⟨i, r, rfl, hir⟩ := h.exists_of_facePlace? hfront
  have hnot : ¬some (i :: r) = facePlaceAmong? .back faces := by
    intro heq
    apply hback
    rw [h.facePlace?_eq, ← heq]
    rfl
  obtain ⟨bs, ns, rfl, hturned, -, -⟩ := h
  rw [hiddenAt_within hturned, if_neg hnot, if_pos hir]

/-- What is no face is hidden whichever side is shown, or it never is. -/
theorem Showing.hiddenAt_eq (h : Showing faces note side c) {side' : Side} {c' : Card} (h' : Showing faces note side' c') {place : List Nat}
    (hfront : c.facePlace? .front ≠ some place) (hback : c.facePlace? .back ≠ some place) : c.hiddenAt place = c'.hiddenAt place := by
  rw [h.facePlace?_eq] at hfront hback
  obtain ⟨bs, ns, rfl, hturned, -, hstyle⟩ := h
  obtain ⟨bs', ns', rfl, hturned', -, hstyle'⟩ := h'
  match place with
  | [] => rfl
  | [0] =>
    show ((bs.find? "style").map AttributeValue.joined == some "display:none") =
      ((bs'.find? "style").map AttributeValue.joined == some "display:none")
    rw [hstyle, hstyle']
  | 0 :: i :: r =>
    have hnotBack : ¬some (i :: r) = facePlaceAmong? .back faces := by
      intro heq
      exact hback (by rw [← heq]; rfl)
    have hnotFront : ¬some (i :: r) = facePlaceAmong? .front faces := by
      intro heq
      exact hfront (by rw [← heq]; rfl)
    rw [hiddenAt_within hturned, hiddenAt_within hturned', if_neg hnotBack, if_neg hnotBack, if_neg hnotFront, if_neg hnotFront]
  | (i + 1) :: r => rfl

/-! ## When a click shows the other face -/

/-- Faces that are apart are so whichever side is shown. -/
theorem Showing.apart (h : Showing faces note side c) {side' : Side} {c' : Card} (h' : Showing faces note side' c') {front back : List Nat}
    (hapart : c.Apart front back) : c'.Apart front back where
  front_found := (h'.facePlace?_eq .front).trans ((h.facePlace?_eq .front).symm.trans hapart.front_found)
  back_found := (h'.facePlace?_eq .back).trans ((h.facePlace?_eq .back).symm.trans hapart.back_found)
  front_not_around := hapart.front_not_around
  back_not_around := hapart.back_not_around
  around := by
    intro r hfront hback hr
    have hneFront : c.facePlace? .front ≠ some r := fun heq => hfront (Option.some.inj (heq.symm.trans hapart.front_found))
    have hneBack : c.facePlace? .back ≠ some r := fun heq => hback (Option.some.inj (heq.symm.trans hapart.back_found))
    exact (h.hiddenAt_eq h' hneFront hneBack).symm.trans (hapart.around r hfront hback hr)

/-- A card whose faces are apart shows the face of its side and hides the other one. -/
theorem Showing.shows_hides (h : Showing faces note side c) {front back : List Nat} (hapart : c.Apart front back) :
    c.Shows side ∧ c.Hides side.toggle := by
  have hne : front ≠ back := fun heq => hapart.front_not_around (heq ▸ List.prefix_rfl)
  have hbackHidden := h.hiddenAt_back hapart.back_found
  have hfrontHidden := h.hiddenAt_front hapart.front_found (fun heq => hne (Option.some.inj (heq.symm.trans hapart.back_found)))
  cases side with
  | front =>
    refine ⟨⟨front, hapart.front_found, ?_⟩, back, hapart.back_found, back, List.prefix_rfl, hbackHidden⟩
    intro r hr
    by_cases hrf : r = front
    · rw [hrf, hfrontHidden]
      rfl
    · exact hapart.around r hrf (fun hrb => hapart.back_not_around (hrb ▸ hr)) (.inl hr)
  | back =>
    refine ⟨⟨back, hapart.back_found, ?_⟩, front, hapart.front_found, front, List.prefix_rfl, hfrontHidden⟩
    intro r hr
    by_cases hrb : r = back
    · rw [hrb, hbackHidden]
      rfl
    · exact hapart.around r (fun hrf => hapart.front_not_around (hrf ▸ hr)) hrb (.inr hr)

/-- Where the front is shown as such and the back as such, the faces are apart. -/
theorem Showing.exists_apart {front back : Card} (hfront : Showing faces note .front front) (hback : Showing faces note .back back)
    (hfrontShown : front.Shows .front) (hbackShown : back.Shows .back) : ∃ f b, front.Apart f b := by
  obtain ⟨f, hf, hfShown⟩ := hfrontShown
  obtain ⟨b, hb, hbShown⟩ := hbackShown
  have hf' : back.facePlace? .front = some f := (hback.facePlace?_eq .front).trans ((hfront.facePlace?_eq .front).symm.trans hf)
  have hb' : front.facePlace? .back = some b := (hfront.facePlace?_eq .back).trans ((hback.facePlace?_eq .back).symm.trans hb)
  -- The back is hidden while the front is shown, so it is not around the front, and then the front is not around the back either.
  have hbackNot : ¬b <+: f := by
    intro hprefix
    have hshown := hfShown b hprefix
    rw [hfront.hiddenAt_back hb'] at hshown
    cases hshown
  have hne : back.facePlace? .back ≠ some f := by
    intro heq
    obtain rfl : b = f := Option.some.inj (hb.symm.trans heq)
    exact hbackNot List.prefix_rfl
  refine ⟨f, b, hf, hb', ?_, hbackNot, ?_⟩
  · intro hprefix
    have hshown := hbShown f hprefix
    rw [hback.hiddenAt_front hf' hne] at hshown
    cases hshown
  · rintro r hrf hrb (hr | hr)
    · exact hfShown r hr
    · have hneFront : front.facePlace? .front ≠ some r := fun heq => hrf (Option.some.inj (heq.symm.trans hf))
      have hneBack : front.facePlace? .back ≠ some r := fun heq => hrb (Option.some.inj (heq.symm.trans hb'))
      exact (hfront.hiddenAt_eq hback hneFront hneBack).trans (hbShown r hr)

end

/-- The beginnings of a place two steps down. -/
theorem prefix_pair {r : List Nat} {a b : Nat} (h : r <+: [a, b]) : r = [] ∨ r = [a] ∨ r = [a, b] := by
  rcases List.prefix_cons_iff.1 h with rfl | ⟨s, rfl, hs⟩
  · exact .inl rfl
  · rcases List.prefix_cons_iff.1 hs with rfl | ⟨t, rfl, ht⟩
    · exact .inr (.inl rfl)
    · obtain rfl := List.prefix_nil.1 ht
      exact .inr (.inr rfl)

/-- Faces that stand side by side in a card made from a template are apart. -/
theorem apart_of_children {note : Note} {model : NoteModel} {template : CardTemplate} {w : Workspace} {c : Card}
    (h : (fromTemplate note model template w).2 = .ok c) {i j : Nat} (hne : i ≠ j) (hfront : c.facePlace? .front = some [0, i])
    (hback : c.facePlace? .back = some [0, j]) : c.Apart [0, i] [0, j] := by
  obtain ⟨-, faces, -, -, rfl⟩ := exists_of_fromTemplate h
  refine ⟨hfront, hback, by simp [hne], by simp [Ne.symm hne], ?_⟩
  intro r hrf hrb hr
  have hr : r = [] ∨ r = [0] := by
    rcases hr with hr | hr
    · rcases prefix_pair hr with rfl | rfl | rfl
      · exact .inl rfl
      · exact .inr rfl
      · exact absurd rfl hrf
    · rcases prefix_pair hr with rfl | rfl | rfl
      · exact .inl rfl
      · exact .inr rfl
      · exact absurd rfl hrb
  obtain ⟨bs, ns, hc, -, -, hstyle⟩ := showing_ofFaces faces note
  rw [hc]
  rcases hr with rfl | rfl
  · rfl
  · show ((bs.find? "style").map AttributeValue.joined == some "display:none") = false
    rw [hstyle]
    rfl

/-- After any number of clicks a card made from a template is on the side that belongs to the number and says so. It shows the face of that
side, and hides the other, exactly if its templates have put the two faces apart. -/
theorem flips_shown {note : Note} {model : NoteModel} {template : CardTemplate} {w : Workspace} {c : Card}
    (h : (fromTemplate note model template w).2 = .ok c) :
    (∀ n, (c.clicked n).Labelled (Side.afterClicks n)) ∧
      ((∀ n, (c.clicked n).Shows (Side.afterClicks n) ∧ (c.clicked n).Hides (Side.afterClicks n).toggle) ↔
        ∃ front back, c.Apart front back) := by
  obtain ⟨-, faces, -, -, rfl⟩ := exists_of_fromTemplate h
  have hshowing := showing_clicked faces note
  refine ⟨fun n => (hshowing n).labelled, ?_, ?_⟩
  · intro hshown
    exact (hshowing 0).exists_apart (hshowing 1) (hshown 0).1 (hshown 1).1
  · rintro ⟨front, back, hapart⟩ n
    exact (hshowing n).shows_hides ((hshowing 0).apart (hshowing n) hapart)

/-- A template without anything special in it puts the faces side by side. -/
theorem flips_shown_plain :
    ∃ c, (fromTemplate ⟨[], [], [], []⟩ ⟨none, none, [], [], [], []⟩ ⟨[], "Q", "A"⟩ .blank).2 = .ok c ∧
      ∀ n, (c.clicked n).Labelled (Side.afterClicks n) ∧ (c.clicked n).Shows (Side.afterClicks n) ∧
        (c.clicked n).Hides (Side.afterClicks n).toggle := by
  have hrun : ((fromTemplate ⟨[], [], [], []⟩ ⟨none, none, [], [], [], []⟩ ⟨[], "Q", "A"⟩ .blank).2.toOption.map fun c =>
      (c.facePlace? .front, c.facePlace? .back)) = some (some [0, 1], some [0, 2]) := by
    decide +kernel
  obtain ⟨c, hc, hplaces⟩ := Option.map_eq_some_iff.1 hrun
  have hcard := eq_ok_of_toOption hc
  have hshown := flips_shown hcard
  refine ⟨c, hcard, ?_⟩
  intro n
  obtain ⟨hfront, hback⟩ := Prod.mk.inj hplaces
  exact ⟨hshown.1 n, hshown.2.2 ⟨_, _, apart_of_children hcard (by decide) hfront hback⟩ n⟩

/-- An element that a question leaves open takes the back into the front, which hides it when it is to be shown. -/
theorem flips_hidden :
    ∃ c, (fromTemplate ⟨[], [], [], []⟩ ⟨none, none, [], [], [], []⟩ ⟨[], "<div>Q", "A"⟩ .blank).2 = .ok c ∧
      ¬(c.clicked 1).Shows (Side.afterClicks 1) := by
  have hrun : ((fromTemplate ⟨[], [], [], []⟩ ⟨none, none, [], [], [], []⟩ ⟨[], "<div>Q", "A"⟩ .blank).2.toOption.map fun c =>
      ((c.clicked 1).facePlace? .back, (c.clicked 1).hiddenAt [0, 1])) = some (some [0, 1, 1], true) := by
    decide +kernel
  obtain ⟨c, hc, hplaces⟩ := Option.map_eq_some_iff.1 hrun
  obtain ⟨hback, hhidden⟩ := Prod.mk.inj hplaces
  refine ⟨c, eq_ok_of_toOption hc, ?_⟩
  rintro ⟨place, hplace, hshown⟩
  obtain rfl : place = [0, 1, 1] := Option.some.inj (hplace.symm.trans hback)
  have hnot := hshown [0, 1] ⟨[1], rfl⟩
  rw [hhidden] at hnot
  cases hnot

end Card

end Flashcards

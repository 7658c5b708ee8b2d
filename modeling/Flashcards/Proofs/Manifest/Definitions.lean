import Mathlib.Data.List.Forall2
import Flashcards.Manifest
import Flashcards.NoteModel

/-!
# The definitions in a manifest

A definition of a deck holds the definitions of its children, and so on; all of them in document order are `DeckNode.definitions`. A tree of
decks is read of a definition exactly if what each definition in it gives for its children can be gone through; if not, the reading ends with
the failure of the first definition whose children cannot (`DeckNode.failureOf?_ofJson`). Nothing else that a definition says or leaves out
makes the reading fail.
-/

namespace Flashcards

open Text

/-- The failure that something ends with, if it fails. -/
def failureOf? {α : Type} : Except Failure α → Option Failure
  | .ok _ => none
  | .error failure => some failure

theorem eq_error_of_failureOf? {α : Type} {r : Except Failure α} {failure : Failure} (h : failureOf? r = some failure) :
    r = .error failure := by
  cases r with
  | ok x => cases h
  | error failure' => rw [Option.some.inj h]

/-- Whether a value can be gone through. Numbers and truth values cannot, unless they count as nothing. -/
def Json.hasItems : Json → Bool
  | .bool b => !b
  | .int n => n == 0
  | .float x => x.isZero
  | .null | .text _ | .list _ | .object _ => true

namespace DeckNode

/-- What a definition gives for the children. -/
def childrenField (d : List (Text × Json)) : Json := Json.field "children" d

/-- The definitions of the children in a definition. -/
def childDefinitions (d : List (Text × Json)) : List (List (Text × Json)) := NoteModel.objectsOf (childrenField d)

mutual

/-- All definitions in a value that is one, each before those of its children. -/
def definitions : Json → List (List (Text × Json))
  | .object entries => entries :: definitionsIn entries
  | .null | .bool _ | .int _ | .float _ | .text _ | .list _ => []

/-- All definitions in the children of a definition, which are those of its first entry of that name. -/
def definitionsIn : List (Text × Json) → List (List (Text × Json))
  | [] => []
  | (name, v) :: entries => if name = "children" then definitionsOf v else definitionsIn entries

/-- All definitions in what is given for the children. -/
def definitionsOf : Json → List (List (Text × Json))
  | .list items => definitionsAmong items
  | .null | .bool _ | .int _ | .float _ | .text _ | .object _ => []

/-- All definitions in values some of which are definitions. -/
def definitionsAmong : List Json → List (List (Text × Json))
  | [] => []
  | v :: items => definitions v ++ definitionsAmong items

end

/-! ## One definition and those of its children -/

/-- What goes through the entries to the first one for the children and takes its value takes what the definition gives for the children. -/
theorem eq_childrenField {β : Type} {f : Json → β} {g : List (Text × Json) → β} (hnil : g [] = f .null)
    (hcons : ∀ name v d, g ((name, v) :: d) = if name = "children" then f v else g d) (d : List (Text × Json)) : g d = f (childrenField d) := by
  unfold childrenField Json.field
  induction d with
  | nil => exact hnil
  | cons e d ih =>
    obtain ⟨name, v⟩ := e
    rw [hcons, Json.find?]
    by_cases hname : name = "children"
    · rw [if_pos hname, if_pos hname]
      rfl
    · rw [if_neg hname, if_neg hname, ih]

/-- A value under a name is smaller than the entries. -/
theorem sizeOf_find? {name : Text} {d : List (Text × Json)} {v : Json} (h : Json.find? name d = some v) : sizeOf v < sizeOf d := by
  induction d with
  | nil => cases h
  | cons e d ih =>
    obtain ⟨k, v'⟩ := e
    rw [Json.find?] at h
    split at h
    · obtain rfl := Option.some.inj h
      simp only [List.cons.sizeOf_spec, Prod.mk.sizeOf_spec]
      omega
    · have hlt := ih h
      simp only [List.cons.sizeOf_spec]
      omega

/-- A definition of a child is smaller. -/
theorem sizeOf_childDefinitions {c d : List (Text × Json)} (h : c ∈ childDefinitions d) : sizeOf c < sizeOf d := by
  unfold childDefinitions childrenField Json.field at h
  cases hfind : Json.find? "children" d with
  | none =>
    rw [hfind] at h
    cases h
  | some v =>
    rw [hfind, Option.getD_some] at h
    have hlt := sizeOf_find? hfind
    cases v with
    | list items =>
      obtain ⟨item, hitem, hc⟩ := List.mem_filterMap.1 h
      have hsize := List.sizeOf_lt_of_mem hitem
      cases item with
      | object entries =>
        obtain rfl := Option.some.inj hc
        simp only [Json.object.sizeOf_spec] at hsize
        simp only [Json.list.sizeOf_spec] at hlt
        omega
      | _ => cases hc
    | _ => cases h

/-- What holds of a definition if it holds of those of its children holds of every definition. -/
theorem definition_induction {P : List (Text × Json) → Prop} (h : ∀ d, (∀ c ∈ childDefinitions d, P c) → P d) (d : List (Text × Json)) :
    P d :=
  h d fun c _ => definition_induction h c
termination_by sizeOf d
decreasing_by exact sizeOf_childDefinitions ‹_›

/-- Only the items of a list that are objects are definitions. -/
theorem definitionsAmong_eq (items : List Json) :
    definitionsAmong items = (NoteModel.objectsOf (.list items)).flatMap fun c => definitions (.object c) := by
  induction items with
  | nil => rfl
  | cons v items ih =>
    rw [definitionsAmong, ih]
    cases v <;> simp [NoteModel.objectsOf, definitions]

theorem definitions_object (d : List (Text × Json)) :
    definitions (.object d) = d :: (childDefinitions d).flatMap fun c => definitions (.object c) := by
  have hof : ∀ v, definitionsOf v = (NoteModel.objectsOf v).flatMap fun c => definitions (.object c) := by
    intro v
    cases v with
    | list items => exact definitionsAmong_eq items
    | _ => rfl
  have hin : definitionsIn d = definitionsOf (childrenField d) := eq_childrenField rfl (fun _ _ _ => rfl) d
  rw [definitions, hin, hof]
  rfl

/-- The children of a node are those that their definitions come to, where they can be gone through. -/
theorem childrenIn_eq (path : Text) (d : List (Text × Json)) :
    childrenIn path d =
      if (childrenField d).hasItems then (childDefinitions d).mapM fun c => ofJson path (.object c)
      else .error (.notIterable (childrenField d).kind) := by
  have hamong : ∀ items : List Json,
      childrenAmong path items = (NoteModel.objectsOf (.list items)).mapM fun c => ofJson path (.object c) := by
    intro items
    induction items with
    | nil => rfl
    | cons v items ih =>
      rw [childrenAmong, ih]
      cases v <;> simp [NoteModel.objectsOf, Json.kind]
  have hof : ∀ v : Json, childrenOf path v =
      if v.hasItems then (NoteModel.objectsOf v).mapM fun c => ofJson path (.object c) else .error (.notIterable v.kind) := by
    intro v
    cases v with
    | list items => exact hamong items
    | bool b => cases b <;> rfl
    | int n => by_cases hn : n = 0 <;> simp [childrenOf, Json.hasItems, hn, NoteModel.objectsOf, Json.kind, pure, Except.pure]
    | float x => cases hx : x.isZero <;> simp [childrenOf, Json.hasItems, hx, NoteModel.objectsOf, Json.kind, pure, Except.pure]
    | _ => rfl
  have hin : childrenIn path d = childrenOf path (childrenField d) := eq_childrenField rfl (fun _ _ _ => rfl) d
  rw [hin, hof]
  rfl

theorem ofJson_object (above : Text) (d : List (Text × Json)) :
    ofJson above (.object d) =
      (childrenIn (pathBelow above (nameOf d)) d).map (ofFields d (pathBelow above (nameOf d))) := by
  rw [ofJson]
  cases childrenIn (pathBelow above (nameOf d)) d <;> rfl

/-! ## Failures -/

/-- The failure that a definition causes by what it gives for the children, if it causes one. -/
def itemsFailure? (d : List (Text × Json)) : Option Failure :=
  if (childrenField d).hasItems then none else some (.notIterable (childrenField d).kind)

/-- Where the failure of each item is the first of some, that of all in a row is the first of all of these. -/
theorem failureOf?_mapM {δ ε β : Type} {f : δ → Except Failure β} {g : δ → List ε} {failing? : ε → Option Failure} {xs : List δ}
    (h : ∀ x ∈ xs, failureOf? (f x) = (g x).findSome? failing?) : failureOf? (xs.mapM f) = (xs.flatMap g).findSome? failing? := by
  induction xs with
  | nil => rfl
  | cons x xs ih =>
    rw [List.forall_mem_cons] at h
    rw [List.mapM_cons, List.flatMap_cons, List.findSome?_append, ← h.1, ← ih h.2]
    cases f x with
    | error failure => rfl
    | ok y => cases xs.mapM f <;> rfl

/-- The reading of a definition fails with the first failure that a definition in it causes. -/
theorem failureOf?_ofJson (above : Text) (d : List (Text × Json)) :
    failureOf? (ofJson above (.object d)) = (definitions (.object d)).findSome? itemsFailure? := by
  induction d using definition_induction generalizing above with
  | h d ih =>
    have hmap : ∀ r : Except Failure (List DeckNode), failureOf? (r.map (ofFields d (pathBelow above (nameOf d)))) = failureOf? r := by
      intro r
      cases r <;> rfl
    rw [ofJson_object, hmap, childrenIn_eq, definitions_object, List.findSome?_cons, itemsFailure?]
    by_cases hitems : (childrenField d).hasItems = true
    · rw [if_pos hitems, if_pos hitems]
      exact failureOf?_mapM fun c hc => ih c hc _
    · rw [if_neg hitems, if_neg hitems]
      rfl

/-! ## The node of a definition -/

theorem mapM_eq_ok_iff {δ β : Type} {f : δ → Except Failure β} {xs : List δ} {ys : List β} :
    xs.mapM f = .ok ys ↔ List.Forall₂ (fun x y => f x = .ok y) xs ys := by
  induction xs generalizing ys with
  | nil =>
    rw [List.mapM_nil, List.forall₂_nil_left_iff]
    constructor
    · intro h
      exact (Except.ok.inj h).symm
    · rintro rfl
      rfl
  | cons x xs ih =>
    rw [List.mapM_cons, List.forall₂_cons_left_iff]
    constructor
    · intro h
      cases hx : f x with
      | error failure =>
        rw [hx] at h
        cases h
      | ok y =>
        cases hxs : xs.mapM f with
        | error failure =>
          rw [hx, hxs] at h
          cases h
        | ok zs =>
          rw [hx, hxs] at h
          exact ⟨y, zs, rfl, ih.1 hxs, (Except.ok.inj h).symm⟩
    · rintro ⟨y, zs, hx, hxs, rfl⟩
      rw [hx, ih.2 hxs]
      rfl

/-- The node of a definition has its fields, the path below the one above, and the nodes of the definitions of children. -/
theorem of_ofJson {above : Text} {d : List (Text × Json)} {n : DeckNode} (h : ofJson above (.object d) = .ok n) :
    n = ofFields d (pathBelow above (nameOf d)) n.children ∧
      List.Forall₂ (fun c child => ofJson n.path (.object c) = .ok child) (childDefinitions d) n.children := by
  rw [ofJson_object, childrenIn_eq] at h
  split at h
  · cases hchildren : (childDefinitions d).mapM fun c => ofJson (pathBelow above (nameOf d)) (.object c) with
    | error failure =>
      rw [hchildren] at h
      cases h
    | ok children =>
      rw [hchildren] at h
      obtain rfl := Except.ok.inj h
      exact ⟨rfl, mapM_eq_ok_iff.1 hchildren⟩
  · cases h

end DeckNode

end Flashcards

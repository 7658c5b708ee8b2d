import Flashcards.Proofs.Template.Filling
import Flashcards.Proofs.Text.Replacing

/-!
# The front on the back of a card

The back of a card is made in two passes: its template is filled like any other, and then every mark for the front in the result becomes the
front. Where no value goes by the name of the mark, the first pass leaves the marks that stand in the template (`Template.apply_frontMark`). No end of the
mark is a beginning of it (`Template.borderless_frontMark`), so the second pass finds each of these marks where it stands, whatever comes
before it and after it, and does not look at the front that it puts in. So the back of a template with marks in it is what the
pieces between the marks come to, with the front between each two (`Template.fronts_inlined`).
-/

namespace Flashcards

open Text

namespace Template

theorem isSlotName_frontSide : IsSlotName "FrontSide" := by
  refine ⟨by decide, ?_⟩
  have hall : ("FrontSide".toList.all inSlot) = true := by decide +kernel
  intro c hc
  exact inSlot_iff.1 (List.all_eq_true.1 hall c hc)

/-- Two marks never overlap. -/
theorem borderless_frontMark : Borderless frontMark := by decide +kernel

/-- A text under a name stands in the context. -/
theorem find?_eq_none {name : Text} {context : Context} (h : name ∉ context.map Prod.fst) : Context.find? name context = none := by
  unfold Context.find?
  induction context with
  | nil => rfl
  | cons e context ih =>
    rw [List.map_cons, List.mem_cons, not_or] at h
    rw [Note.lookupText?, if_neg (Ne.symm h.1), ih h.2]

/-- A mark for the front that stands in a template is left in it. -/
theorem apply_frontMark {context : Context} (h : ("FrontSide" : Text) ∉ context.map Prod.fst) (before after : Text) :
    apply context (before ++ (frontMark ++ after)) = apply context before ++ (frontMark ++ apply context after) := by
  have hstrip : strip "FrontSide" = "FrontSide" := by decide +kernel
  have hslot := apply_slot context isSlotName_frontSide before after
  rw [hstrip, find?_eq_none h, Option.getD_none] at hslot
  exact hslot

/-- So are all of them. -/
theorem apply_joinWith_frontMark {context : Context} (h : ("FrontSide" : Text) ∉ context.map Prod.fst) (pieces : List Text) :
    apply context (joinWith frontMark pieces) = joinWith frontMark (pieces.map (apply context)) := by
  induction pieces with
  | nil => rfl
  | cons t ts ih =>
    cases ts with
    | nil => rfl
    | cons u us =>
      rw [joinWith_cons_cons, apply_frontMark h, ih]
      exact (joinWith_cons_cons frontMark _ _ _).symm

/-- Every mark for the front in the template of a back becomes the front as it has been made: at a mark the back is cut, and what stands
before it and after it comes to what it would come to by itself. The front is the same, whatever the back is. -/
theorem fronts_inlined {context : Context} (h : ("FrontSide" : Text) ∉ context.map Prod.fst) (question : Text) :
    (∀ before after, (sides question (before ++ frontMark ++ after) context).back =
      (sides question before context).back ++ apply context question ++ (sides question after context).back) ∧
    (∀ pieces, (sides question (joinWith frontMark pieces) context).back =
      joinWith (apply context question) (pieces.map fun t => (sides question t context).back)) ∧
    ∀ answer, (sides question answer context).front = apply context question := by
  refine ⟨?_, ?_, ?_⟩
  · intro before after
    simp only [sides, List.append_assoc]
    rw [apply_frontMark h, replaceAll_append borderless_frontMark]
  · intro pieces
    simp only [sides]
    rw [apply_joinWith_frontMark h, replaceAll_joinWith borderless_frontMark, List.map_map]
    rfl
  · intro answer
    rfl

/-- A value that looks like a mark becomes the front where it stands in the template of the back, and stays where it has come in with the front;
braces around a mark stay. -/
theorem fronts_inlined_between_braces :
    (sides (written "a") ("\x7b" ++ frontMark ++ "\x7d\x7d" ++ written "b") [("a", "\x7bx\x7d"), ("b", frontMark)]).back =
      "\x7b\x7bx\x7d\x7d\x7d\x7bx\x7d" := by
  have hkey : ("FrontSide" : Text) ∉ ([("a", "\x7bx\x7d"), ("b", frontMark)] : Context).map Prod.fst := by decide +kernel
  rw [List.append_assoc, (fronts_inlined hkey _).1]
  decide +kernel

end Template

end Flashcards

import Flashcards.Proofs.Hoist.Gain
import Flashcards.Proofs.Text.Collection

/-!
# Which scripts wait

The scripts of a fragment that are to be run are those with a text of their own that is not blank (`inlineScripts`). When the fragment is
taken in, they are collected, each once, in document order (`Workspace.take_deferred_eq`).
-/

namespace Flashcards

open Text Markup Markup.Node

/-- The text of a script that is to be run, if it is one: it has a text of its own, which is not blank. -/
def Script.runnable? : Script → Option Text
  | .inline content => if allBlank content then none else some content
  | .external _ => none

/-- The texts of the scripts in a fragment that are to be run, in document order, when the style sheets have been taken out. -/
def inlineScripts (nodes : List Node) : List Text :=
  (preorderAll (prune (fun n => (stylesheetAddress? n).isSome) nodes)).filterMap fun n => (script? n).bind Script.runnable?

/-- They are among those that the fragment gives up. -/
theorem filterMap_runnable? (nodes : List Node) :
    (Harvest.ofNodes false nodes).scripts.filterMap Script.runnable? = inlineScripts nodes := by
  rw [Harvest.ofNodes, inlineScripts, List.filterMap_filterMap]
  congr 1
  funext n
  rw [scriptTaken?]
  cases script? n with
  | none => rfl
  | some s => cases s <;> rfl

namespace Workspace

theorem takeScript_deferred (s : Script) (w : Workspace) : (w.takeScript s).deferred = w.deferred.insertAll s.runnable?.toList := by
  cases s with
  | external s => exact claim_deferred s.address _ w
  | inline content =>
    rw [takeScript, Script.runnable?]
    split <;> rfl

/-- The scripts of a fragment that are to be run wait after those that have waited before. -/
theorem take_deferred_eq (h : Harvest) (w : Workspace) :
    (w.take h).deferred = w.deferred.insertAll (h.scripts.filterMap Script.runnable?) := by
  have hscripts : ∀ (ss : List Script) (w : Workspace),
      (ss.foldl takeScript w).deferred = w.deferred.insertAll (ss.filterMap Script.runnable?) := by
    intro ss
    induction ss with
    | nil => exact fun _ => rfl
    | cons s ss ih =>
      intro w
      have hcons : (s :: ss).filterMap Script.runnable? = s.runnable?.toList ++ ss.filterMap Script.runnable? := by
        rw [List.filterMap_cons]
        cases s.runnable? <;> rfl
      rw [List.foldl_cons, ih, takeScript_deferred, hcons, Collection.insertAll_append]
  rw [take, hscripts, stylesheets_deferred]

end Workspace

end Flashcards

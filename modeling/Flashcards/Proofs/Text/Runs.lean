import Mathlib.Data.List.TakeWhile
import Flashcards.Text.Basic

/-!
# Runs of characters

The readers of this library take runs: the characters of a class that a text begins with, or ends in. Where a run ends is seen from what comes
next to it (`Text.Ends`), so a run that is written is taken for what it is.
-/

namespace Flashcards.Text

/-- The text does not go on with a character of a class. -/
def Ends (p : Char → Bool) (t : Text) : Prop := ∀ c, t.head? = some c → p c = false

theorem ends_nil (p : Char → Bool) : Ends p [] := fun c h => (by cases h)

theorem ends_cons {p : Char → Bool} {c : Char} {t : Text} : Ends p (c :: t) ↔ p c = false := by
  constructor
  · exact fun h => h c rfl
  · rintro h d hd
    rwa [← Option.some.inj hd]

theorem ends_dropWhile (p : Char → Bool) (t : Text) : Ends p (t.dropWhile p) := by
  intro c hc
  have h := List.head?_dropWhile_not p t
  rw [hc] at h
  exact h

/-- Where characters of a class stand before a text that does not go on with one, they are taken and the text is left. -/
theorem takeWhile_append {p : Char → Bool} {u t : Text} (hu : ∀ c ∈ u, p c = true) (ht : Ends p t) : (u ++ t).takeWhile p = u := by
  rw [List.takeWhile_append_of_pos hu]
  cases t with
  | nil => exact List.append_nil u
  | cons c t => rw [List.takeWhile_cons_of_neg (by simpa using ends_cons.1 ht), List.append_nil]

theorem dropWhile_append {p : Char → Bool} {u t : Text} (hu : ∀ c ∈ u, p c = true) (ht : Ends p t) : (u ++ t).dropWhile p = t := by
  rw [List.dropWhile_append_of_pos hu]
  cases t with
  | nil => rfl
  | cons c t => exact List.dropWhile_cons_of_neg (by simpa using ends_cons.1 ht)

/-- What comes first decides. -/
theorem ends_append {p : Char → Bool} {u t t' : Text} (h : Ends p (u ++ t)) (ht' : Ends p t') : Ends p (u ++ t') := by
  cases u with
  | nil => exact ht'
  | cons c u => exact h

/-! ## Trimming -/

theorem trimEnd_append {p : Char → Bool} {t u : Text} (ht : ∀ c, t.getLast? = some c → p c = false) (hu : ∀ c ∈ u, p c = true) :
    trimEnd p (t ++ u) = t := by
  rw [trimEnd, List.reverse_append, dropWhile_append (fun c hc => hu c (List.mem_reverse.1 hc)), List.reverse_reverse]
  intro c hc
  exact ht c (by rwa [List.head?_reverse] at hc)

/-- A text is trimmed out of what stands around it. -/
theorem trim_append {p : Char → Bool} {before t after : Text} (hbefore : ∀ c ∈ before, p c = true) (hafter : ∀ c ∈ after, p c = true)
    (hhead : Ends p t) (hlast : ∀ c, t.getLast? = some c → p c = false) : trim p (before ++ (t ++ after)) = t := by
  rw [trim, trimStart]
  cases t with
  | nil =>
    rw [List.nil_append, List.dropWhile_append_of_pos hbefore, List.dropWhile_eq_nil_iff.2 hafter]
    rfl
  | cons c t =>
    have hends : Ends p (c :: t ++ after) := hhead
    rw [dropWhile_append hbefore hends, trimEnd_append hlast hafter]

end Flashcards.Text

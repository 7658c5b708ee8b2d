import Flashcards.Json.Basic
import Flashcards.Proofs.Text.Words

/-!
# Entries of objects

What is put under a name is found under it, and leaves what is under the other names as it is. An entry of a new name is put at the end; so entries
that are put one after the other, and no two of which have one name, are all there in order.
-/

namespace Flashcards.Json

open Text

theorem find?_put_self (name : Text) (value : Json) (entries : List (Text × Json)) : find? name (put name value entries) = some value := by
  induction entries with
  | nil => exact if_pos rfl
  | cons e entries ih =>
    obtain ⟨k, v⟩ := e
    rw [put]
    by_cases hk : k = name
    · rw [if_pos hk]
      exact if_pos hk
    · rw [if_neg hk, find?, if_neg hk]
      exact ih

theorem find?_put_of_ne {name other : Text} (h : other ≠ name) (value : Json) (entries : List (Text × Json)) :
    find? name (put other value entries) = find? name entries := by
  induction entries with
  | nil => exact if_neg h
  | cons e entries ih =>
    obtain ⟨k, v⟩ := e
    rw [put]
    by_cases hk : k = other
    · rw [if_pos hk, find?, find?, if_neg (hk ▸ h), if_neg (hk ▸ h)]
    · rw [if_neg hk, find?, find?, ih]

/-- An entry of a new name is put at the end. -/
theorem put_of_forall_ne {name : Text} {entries : List (Text × Json)} (h : ∀ e ∈ entries, e.1 ≠ name) (value : Json) :
    put name value entries = entries ++ [(name, value)] := by
  induction entries with
  | nil => rfl
  | cons e entries ih =>
    rw [List.forall_mem_cons] at h
    rw [put, if_neg h.1, ih h.2]
    rfl

/-- Entries that are put one after the other, and no two of which have one name, are all there in order. -/
theorem foldl_put_eq_map {α : Type} {name : α → Text} {value : α → Json} {xs : List α} (h : (xs.map name).Nodup) :
    xs.foldl (fun done x => put (name x) (value x) done) [] = xs.map fun x => (name x, value x) :=
  foldl_eq_map_of_nodup (k := fun e : Text × Json => e.1) (fun _ _ hnew => put_of_forall_ne hnew _) h

end Flashcards.Json

import Flashcards.Text.Blank
import Flashcards.Text.Collection

/-!
# Texts put into collections

Texts are put into a collection one after the other (`Collection.insertAll`). What is in it then is what was there and what has been put in
(`Collection.mem_insertAll`), each text at the place of its first occurrence (`Collection.items_insertAll_empty`); texts that are all in it
already change nothing (`Collection.insertAll_of_subset`).
-/

namespace Flashcards

open Text

namespace Collection

/-- Texts put in one after the other. -/
def insertAll (ts : List Text) (s : Collection) : Collection := ts.foldl (fun s t => s.insert t) s

/-- A collection is told by its texts and their order. -/
theorem eq_of_items {s t : Collection} (h : t.items = s.items) : t = s := by
  obtain ⟨items, _⟩ := s
  obtain ⟨items', _⟩ := t
  obtain rfl : items' = items := h
  rfl

theorem insertAll_append (ts us : List Text) (s : Collection) : s.insertAll (ts ++ us) = (s.insertAll ts).insertAll us :=
  List.foldl_append

theorem items_insert (t : Text) (s : Collection) : (s.insert t).items = if t ∈ s.items then s.items else s.items ++ [t] := by
  rw [insert]
  by_cases h : t ∈ s.items
  · rw [dif_pos (by simpa [contains] using h), if_pos h]
  · rw [dif_neg (by simpa [contains] using h), if_neg h]

/-- Texts that are put in one after the other are there once each, in the order in which they first came. -/
theorem items_insertAll_empty (ts : List Text) : (empty.insertAll ts).items = distinct ts := by
  have hfold : ∀ (ts : List Text) (s : Collection),
      (s.insertAll ts).items = ts.foldl (fun seen t => if t ∈ seen then seen else seen ++ [t]) s.items := by
    intro ts
    induction ts with
    | nil => exact fun _ => rfl
    | cons t ts ih =>
      intro s
      rw [List.foldl_cons, ← items_insert]
      exact ih (s.insert t)
  exact hfold ts empty

/-- A text that is put in is in the collection, and nothing is lost. -/
theorem mem_insert {t u : Text} {s : Collection} : u ∈ (s.insert t).items ↔ u = t ∨ u ∈ s.items := by
  rw [items_insert]
  by_cases ht : t ∈ s.items
  · rw [if_pos ht]
    constructor
    · exact Or.inr
    · rintro (rfl | hu)
      · exact ht
      · exact hu
  · rw [if_neg ht, List.mem_append, List.mem_singleton, or_comm]

theorem mem_insertAll {u : Text} {ts : List Text} {s : Collection} : u ∈ (s.insertAll ts).items ↔ u ∈ ts ∨ u ∈ s.items := by
  induction ts generalizing s with
  | nil => simp [insertAll]
  | cons t ts ih =>
    have hcons : s.insertAll (t :: ts) = (s.insert t).insertAll ts := rfl
    rw [hcons, ih, mem_insert, List.mem_cons]
    constructor
    · rintro (h | h | h)
      · exact Or.inl (Or.inr h)
      · exact Or.inl (Or.inl h)
      · exact Or.inr h
    · rintro ((h | h) | h)
      · exact Or.inr (Or.inl h)
      · exact Or.inl h
      · exact Or.inr (Or.inr h)

/-- Texts that are all in a collection change nothing when they are put in. -/
theorem insertAll_of_subset {ts : List Text} {s : Collection} (h : ts ⊆ s.items) : s.insertAll ts = s := by
  induction ts with
  | nil => rfl
  | cons t ts ih =>
    have ht : s.insert t = s := by
      rw [insert, dif_pos (by simpa [contains] using h List.mem_cons_self)]
    have hcons : s.insertAll (t :: ts) = (s.insert t).insertAll ts := rfl
    rw [hcons, ht]
    exact ih fun u hu => h (List.mem_cons_of_mem t hu)

end Collection

end Flashcards

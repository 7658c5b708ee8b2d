import Flashcards.Text.Basic

/-!
# Collections of texts

A collection holds texts, each once, in the order in which they were first put in. That no text is in it twice is part of the type,
so it need not be shown again for any operation that is made of these.
-/

namespace Flashcards

/-- Texts, each once, in the order in which they were first put in. -/
structure Collection where
  items : List Text
  nodup : items.Nodup
  deriving DecidableEq

namespace Collection

/-- The collection without texts. -/
def empty : Collection := ⟨[], List.nodup_nil⟩

/-- Whether a text is in the collection. -/
def contains (t : Text) (s : Collection) : Bool := s.items.contains t

/-- A text that the collection does not contain is none of its items. -/
theorem not_mem_of_contains_eq_false {t : Text} {s : Collection} (h : ¬ s.contains t) : t ∉ s.items := by
  simpa [contains] using h

/-- A list stays free of repeats when something is put at its end that is not in it. -/
theorem nodup_concat {t : Text} {ts : List Text} (hs : ts.Nodup) (h : t ∉ ts) : (ts ++ [t]).Nodup := by
  rw [List.nodup_append]
  refine ⟨hs, by simp, ?_⟩
  intro u hu v hv huv
  rw [List.mem_singleton] at hv
  exact h (hv ▸ huv ▸ hu)

/-- The collection with a text put in: at the end, unless it is in it already. -/
def insert (t : Text) (s : Collection) : Collection :=
  if h : s.contains t then s else ⟨s.items ++ [t], nodup_concat s.nodup (not_mem_of_contains_eq_false h)⟩

/-- How many texts there are. -/
def size (s : Collection) : Nat := s.items.length

end Collection

end Flashcards

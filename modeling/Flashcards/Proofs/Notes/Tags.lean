import Flashcards.Proofs.Models.Standing
import Flashcards.Proofs.Template.Fields
import Flashcards.Proofs.Text.Words

/-!
# Tags

The tags of a note are an ordered set: the words of a text, each where it first occurs. They are written with a space between each two, which is
how templates see them, and reading that text gives the same tags (`Note.tags_kept`).
-/

namespace Flashcards

open Text

namespace Note

/-- The note with the tags that a text gives. -/
def tagged (note : Note) (t : Text) : Note := { note with tags := splitTags t }

theorem splitTags_eq (t : Text) : splitTags t = firsts (words t) := distinct_eq_firsts (words t)

/-- Each tag is a word. -/
theorem isWord_of_mem_splitTags {t tag : Text} (h : tag ∈ splitTags t) : IsWord tag := by
  rw [splitTags_eq, mem_firsts] at h
  exact isWord_of_mem_words h

theorem nodup_splitTags (t : Text) : (splitTags t).Nodup := splitTags_eq t ▸ nodup_firsts (words t)

/-- Tags that are written with a space between each two are read as they are. -/
theorem splitTags_joinWith {tags : List Text} (hwords : ∀ tag ∈ tags, IsWord tag) (hnodup : tags.Nodup) :
    splitTags (joinWith [' '] tags) = tags := by
  rw [splitTags, words_joinWith hwords, distinct_eq hnodup]

/-- The tags of a text are its words, each once and in the order of their first occurrences. A note that has them shows templates a text that gives
the same tags. -/
theorem tags_kept (t : Text) :
    (splitTags t).Nodup ∧ (∀ tag ∈ splitTags t, IsWord tag) ∧
      (∃ tokens, Tokens t tokens ∧ (∀ tag, tag ∈ splitTags t ↔ tag ∈ tokens) ∧
        (splitTags t).Pairwise fun tag later => tokens.idxOf tag < tokens.idxOf later) ∧
      splitTags (joinWith [' '] (splitTags t)) = splitTags t ∧
      ∀ (note : Note) (model : NoteModel),
        Template.Context.find? Template.tagsName (Template.contextOf (note.tagged t) model) = some (note.tagged t).tagsText ∧
          splitTags (note.tagged t).tagsText = (note.tagged t).tags := by
  have hwords : ∀ tag ∈ splitTags t, IsWord tag := fun tag => isWord_of_mem_splitTags
  have hagain : splitTags (joinWith [' '] (splitTags t)) = splitTags t := splitTags_joinWith hwords (nodup_splitTags t)
  refine ⟨nodup_splitTags t, hwords, ⟨words t, tokens_words t, fun tag => ?_, ?_⟩, hagain, fun note model => ⟨?_, hagain⟩⟩
  · rw [splitTags_eq, mem_firsts]
  · rw [splitTags_eq]
    exact pairwise_firsts (words t)
  · rw [Template.contextOf_eq, Template.find?_put, if_pos rfl]

/-- A text of two words, one of them twice, between blanks of different kinds. -/
theorem tags_kept_repeated :
    splitTags "\u2003b a\tb\n" = ["b", "a"] ∧ IsWord "a" ∧ splitTags (joinWith [' '] ["b", "a"]) = ["b", "a"] := by
  have hread : splitTags "\u2003b a\tb\n" = ["b", "a"] := by decide +kernel
  obtain ⟨-, hwords, -, hagain, -⟩ := tags_kept "\u2003b a\tb\n"
  rw [hread] at hwords hagain
  exact ⟨hread, hwords "a" (List.mem_cons_of_mem _ List.mem_cons_self), hagain⟩

end Note

end Flashcards

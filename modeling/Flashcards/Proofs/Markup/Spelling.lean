import Flashcards.Markup.Writer
import Flashcards.Proofs.Markup.Reading

/-!
# Running text as it is written

A text can be put into markup so that nothing in it is markup: the characters that would begin a tag or a reference are written as
references. `Spells t m` says that `t` is such a spelling of `m`. The lexer reads a spelling as the text that it spells (`reads_of_spells`).
-/

namespace Flashcards.Markup

open Text Lexer

/-- A reference, without its ampersand, stands for a character: so the first pass reads it, whatever follows. -/
def Reference (r : Text) (c : Char) : Prop :=
  ∀ rest : Text, stepReference false ('&' :: (r ++ rest)) = .ok (.goOn [.data [c]] none rest)

/-- The first text is a spelling of the second: plain characters stand for themselves, references for theirs. -/
inductive Spells : Text → Text → Prop where
  | nil : Spells [] []
  | plain {c : Char} {t m : Text} (h : isPlain c = true) : Spells t m → Spells (c :: t) (c :: m)
  | reference {r : Text} {c : Char} {t m : Text} (h : Reference r c) : Spells t m → Spells ('&' :: (r ++ t)) (c :: m)

/-- A text of plain characters in front of a spelling. -/
theorem Spells.plain_append {p t m : Text} (hp : ∀ c ∈ p, isPlain c = true) (h : Spells t m) : Spells (p ++ t) (p ++ m) := by
  induction p with
  | nil => exact h
  | cons c p ih => exact Spells.plain (hp c (by simp)) (ih fun d hd => hp d (by simp [hd]))

/-- A reference is read as the character that it stands for. -/
theorem reads_reference {r : Text} {c : Char} (h : Reference r c) : Reads ('&' :: r) (singles [c]) :=
  reads_token (.data [c]) rfl (List.cons_ne_nil '&' r) h

/-- A spelling is read as the text that it spells. -/
theorem reads_of_spells {t m : Text} (h : Spells t m) : Reads t (singles m) := by
  induction h with
  | nil => exact Reads.nil
  | plain hc _ ih => exact (reads_plain hc).append ih
  | reference hr _ ih => exact (reads_reference hr).append ih

/-! ## The references in use -/

theorem reference_amp : Reference "amp;" '&' := fun _ => rfl

theorem reference_lt : Reference "lt;" '<' := fun _ => rfl

theorem reference_gt : Reference "gt;" '>' := fun _ => rfl

theorem reference_quot : Reference "quot;" '\x22' := fun _ => rfl

theorem reference_apostrophe : Reference "#x27;" '\x27' := fun _ => rfl

/-- A character is written as itself, where it is plain, or as a reference. -/
def Spelled (t : Text) (c : Char) : Prop := t = [c] ∧ isPlain c = true ∨ ∃ r, t = '&' :: r ∧ Reference r c

/-- A text whose characters are each written as themselves or as references is a spelling of it. -/
theorem spells_flatMap {f : Char → Text} (hf : ∀ c, Spelled (f c) c) (m : Text) : Spells (m.flatMap f) m := by
  induction m with
  | nil => exact Spells.nil
  | cons c m ih =>
    rw [List.flatMap_cons]
    rcases hf c with ⟨hself, hplain⟩ | ⟨r, hreference, hr⟩
    · rw [hself]
      exact Spells.plain hplain ih
    · rw [hreference]
      exact Spells.reference hr ih

/-- A character as it is written between tags. -/
theorem spelled_escapeChar (c : Char) : Spelled (escapeChar c) c := by
  rw [escapeChar]
  by_cases hamp : c = '&'
  · subst hamp
    exact Or.inr ⟨_, rfl, reference_amp⟩
  by_cases hlt : c = '<'
  · subst hlt
    exact Or.inr ⟨_, rfl, reference_lt⟩
  by_cases hgt : c = '>'
  · subst hgt
    exact Or.inr ⟨_, rfl, reference_gt⟩
  exact Or.inl ⟨by rw [if_neg hamp, if_neg hlt, if_neg hgt], by simp [isPlain, hamp, hlt]⟩

/-- A text as it is written between tags is a spelling of it. -/
theorem spells_escape (m : Text) : Spells (escape m) m := spells_flatMap spelled_escapeChar m

/-- A text as it is written between tags is read as it was. -/
theorem reads_escape (m : Text) : Reads (escape m) (singles m) := reads_of_spells (spells_escape m)

end Flashcards.Markup

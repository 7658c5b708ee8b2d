import Flashcards.Text.Basic

/-!
# Replacing one text by another

Occurrences are replaced from left to right. Where no end of a text is also a beginning of it (`Borderless`), two of its occurrences never
overlap; so a text that holds one can be cut there, and what stands before it and what stands after it are dealt with on their own
(`replaceAll_append`).
-/

namespace Flashcards.Text

theorem dropPrefix?_eq_some_iff {p t rest : Text} : dropPrefix? p t = some rest ↔ t = p ++ rest := by
  induction p generalizing t with
  | nil =>
    rw [dropPrefix?, Option.some_inj]
    rfl
  | cons a p ih =>
    cases t with
    | nil => simp [dropPrefix?]
    | cons c t =>
      rw [dropPrefix?, List.cons_append, List.cons.injEq]
      by_cases hc : a = c
      · rw [if_pos hc, ih]
        simp [hc]
      · rw [if_neg hc]
        simp [Ne.symm hc]

theorem startsWith_iff {p t : Text} : startsWith p t = true ↔ p <+: t := by
  rw [startsWith, Option.isSome_iff_exists]
  constructor
  · rintro ⟨rest, hrest⟩
    exact ⟨rest, (dropPrefix?_eq_some_iff.1 hrest).symm⟩
  · rintro ⟨rest, hrest⟩
    exact ⟨rest, dropPrefix?_eq_some_iff.2 hrest.symm⟩

/-- A text that is not empty, and no end of which is a beginning of it, the whole of it and nothing apart. -/
def Borderless (old : Text) : Prop := old ≠ [] ∧ ∀ k < old.length, 0 < k → ¬old.drop k <+: old

instance (old : Text) : Decidable (Borderless old) := inferInstanceAs (Decidable (_ ∧ _))

section Replacing

variable {old new : Text}

/-- The characters of an occurrence that has been replaced are passed over. -/
theorem replaceFrom_eq (old new : Text) (skip : Nat) (t : Text) : replaceFrom old new skip t = replaceAll old new (t.drop skip) := by
  induction t generalizing skip with
  | nil => cases skip <;> rfl
  | cons c t ih =>
    cases skip with
    | zero => rfl
    | succ skip => exact ih skip

theorem replaceAll_cons (old new : Text) (c : Char) (t : Text) :
    replaceAll old new (c :: t) =
      if startsWith old (c :: t) then new ++ replaceAll old new (t.drop (old.length - 1)) else c :: replaceAll old new t := by
  rw [replaceAll, replaceFrom, replaceFrom_eq]
  rfl

/-- A text that begins with an occurrence. -/
theorem replaceAll_occurrence (h : old ≠ []) (t : Text) : replaceAll old new (old ++ t) = new ++ replaceAll old new t := by
  obtain ⟨c, cs, rfl⟩ := List.exists_cons_of_ne_nil h
  have hstarts : startsWith (c :: cs) (c :: (cs ++ t)) = true := startsWith_iff.2 ⟨t, rfl⟩
  rw [List.cons_append, replaceAll_cons, if_pos hstarts, List.length_cons, Nat.add_sub_cancel, List.drop_left]

/-- Whether an occurrence begins at a place does not depend on what comes from another occurrence on that stands behind that place. -/
theorem startsWith_append (h : Borderless old) (c : Char) (t after : Text) :
    startsWith old (c :: t ++ (old ++ after)) = startsWith old (c :: t) := by
  rw [Bool.eq_iff_iff, startsWith_iff, startsWith_iff]
  constructor
  · rintro ⟨rest, heq⟩
    rcases List.append_eq_append_iff.1 heq with ⟨reached, hold, -⟩ | ⟨reached, hold, hrest⟩
    · exact ⟨reached, hold.symm⟩
    · by_cases hr : reached = []
      · simp only [hold, hr, List.append_nil, List.prefix_refl]
      · -- What reaches into the occurrence behind would be both an end and a beginning of it.
        exfalso
        have hlength : old.length = t.length + 1 + reached.length := by
          rw [hold, List.length_append, List.length_cons]
        have hpos := List.length_pos_iff.2 hr
        have hdrop : old.drop (t.length + 1) = reached := by
          rw [hold]
          exact List.drop_left' rfl
        have hbegins : reached <+: old := by
          have hreached : reached <+: old ++ after := ⟨rest, hrest.symm⟩
          exact List.prefix_of_prefix_length_le hreached (List.prefix_append old after) (by omega)
        exact h.2 (t.length + 1) (by omega) (Nat.succ_pos _) (hdrop.symm ▸ hbegins)
  · intro hp
    exact hp.trans (List.prefix_append _ _)

/-- A text is cut at an occurrence: what stands before it and what stands after it are dealt with on their own. -/
theorem replaceAll_append (h : Borderless old) (before after : Text) :
    replaceAll old new (before ++ (old ++ after)) = replaceAll old new before ++ (new ++ replaceAll old new after) := by
  induction hn : before.length using Nat.strongRecOn generalizing before with
  | _ n ih =>
    cases before with
    | nil => exact replaceAll_occurrence h.1 after
    | cons c t =>
      have hsame := startsWith_append h c t after
      rw [List.cons_append] at hsame ⊢
      rw [replaceAll_cons, replaceAll_cons old new c t, hsame]
      by_cases hs : startsWith old (c :: t) = true
      · have hlength : old.length ≤ t.length + 1 := (startsWith_iff.1 hs).length_le
        have hdrop : (t.drop (old.length - 1)).length < n := by
          rw [← hn, List.length_drop, List.length_cons]
          omega
        rw [if_pos hs, if_pos hs, List.drop_append_of_le_length (by omega), ih _ hdrop _ rfl, List.append_assoc]
      · have hlt : t.length < n := by
          rw [← hn]
          exact Nat.lt_succ_self _
        rw [if_neg hs, if_neg hs, ih _ hlt _ rfl, List.cons_append]

theorem joinWith_cons_cons (sep t u : Text) (us : List Text) : joinWith sep (t :: u :: us) = t ++ (sep ++ joinWith sep (u :: us)) :=
  List.append_assoc t sep _

/-- In texts that are joined by what is replaced, the replacement joins them. -/
theorem replaceAll_joinWith (h : Borderless old) (ts : List Text) :
    replaceAll old new (joinWith old ts) = joinWith new (ts.map (replaceAll old new)) := by
  induction ts with
  | nil => rfl
  | cons t ts ih =>
    cases ts with
    | nil => rfl
    | cons u us =>
      rw [joinWith_cons_cons, replaceAll_append h, ih]
      exact (joinWith_cons_cons new _ _ _).symm

end Replacing

end Flashcards.Text

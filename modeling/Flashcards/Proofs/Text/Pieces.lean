import Flashcards.Proofs.Text.Replacing
import Flashcards.Proofs.Text.Words

/-!
# Pieces of a text

A text is split at the occurrences of one character. The pieces joined by that character are the text again (`joinWith_splitOn`), so what is seen
of a text is seen of its pieces: a text that ends with the character begins another text exactly if the pieces that it completes begin the
pieces that the other completes (`isPrefix_iff_dropLast_splitOn`).
-/

namespace Flashcards.Text

theorem splitOn_ne_nil (x : Char) (t : Text) : splitOn x t ≠ [] := splitWhere_ne_nil _ t

theorem splitOn_append_cons (x : Char) (t u : Text) : splitOn x (t ++ x :: u) = splitOn x t ++ splitOn x u :=
  splitWhere_append_cons (p := (· == x)) (beq_self_eq_true x) t u

/-- Before and after a place between two pieces. -/
theorem joinWith_append {ts us : List Text} (hts : ts ≠ []) (hus : us ≠ []) (sep : Text) :
    joinWith sep (ts ++ us) = joinWith sep ts ++ (sep ++ joinWith sep us) := by
  induction ts with
  | nil => exact absurd rfl hts
  | cons t ts ih =>
    cases ts with
    | nil =>
      obtain ⟨u, us, rfl⟩ := List.exists_cons_of_ne_nil hus
      exact joinWith_cons_cons sep t u us
    | cons t' ts =>
      have hrest := ih (List.cons_ne_nil t' ts)
      rw [List.cons_append] at hrest
      rw [List.cons_append, List.cons_append, joinWith_cons_cons, hrest, joinWith_cons_cons]
      simp only [List.append_assoc]

/-- A text is its pieces joined again. -/
theorem joinWith_splitOn (x : Char) (t : Text) : joinWith [x] (splitOn x t) = t := by
  induction t with
  | nil => rfl
  | cons c t ih =>
    obtain ⟨w, ws, hpieces⟩ := List.exists_cons_of_ne_nil (splitWhere_ne_nil (· == x) t)
    rw [splitOn, hpieces] at ih
    rw [splitOn, splitWhere, hpieces]
    by_cases hc : (c == x) = true
    · rw [if_pos hc, joinWith_cons_cons, ih, beq_iff_eq.1 hc]
      rfl
    · rw [if_neg hc]
      cases ws with
      | nil => exact congrArg (c :: ·) ih
      | cons u us =>
        rw [joinWith_cons_cons] at ih
        exact (joinWith_cons_cons [x] (c :: w) u us).trans (congrArg (c :: ·) ih)

/-- The pieces are made of the characters of the text. -/
theorem mem_of_mem_splitOn {x : Char} {t w : Text} (h : w ∈ splitOn x t) : ∀ c ∈ w, c ∈ t := by
  intro c hc
  obtain ⟨before, after, hsplit⟩ := List.append_of_mem h
  rw [← joinWith_splitOn x t, hsplit]
  have hcons : c ∈ joinWith [x] (w :: after) := by
    cases after with
    | nil => exact hc
    | cons u us =>
      rw [joinWith_cons_cons]
      exact List.mem_append_left _ hc
  cases before with
  | nil => exact hcons
  | cons t ts =>
    rw [joinWith_append (List.cons_ne_nil t ts) (List.cons_ne_nil w after)]
    exact List.mem_append_right _ (List.mem_append_right _ hcons)

/-- No piece holds the separator. -/
theorem not_mem_of_mem_splitOn {x : Char} {t w : Text} (h : w ∈ splitOn x t) : x ∉ w := by
  intro hx
  have hfalse := of_mem_splitWhere h x hx
  rw [beq_self_eq_true] at hfalse
  cases hfalse

/-- Pieces without a separator in them are found again. -/
theorem splitOn_joinWith {x : Char} {ts : List Text} (hne : ts ≠ []) (h : ∀ t ∈ ts, x ∉ t) : splitOn x (joinWith [x] ts) = ts := by
  refine splitWhere_joinWith (p := (· == x)) (beq_self_eq_true x) hne fun t ht c hc => beq_false_of_ne ?_
  rintro rfl
  exact h t ht hc

/-- A text that ends with the separator begins another one exactly if all its pieces but the last, which is empty, are pieces with which the other
begins, and are not all of it. -/
theorem isPrefix_iff_dropLast_splitOn {x : Char} {t u : Text} (ht : t.getLast? = some x) :
    t <+: u ↔ (splitOn x t).dropLast <+: (splitOn x u).dropLast := by
  obtain ⟨t, rfl⟩ := List.getLast?_eq_some_iff.1 ht
  have hpieces : (splitOn x (t ++ [x])).dropLast = splitOn x t := by
    rw [splitOn_append_cons]
    exact List.dropLast_concat
  rw [hpieces]
  constructor
  · rintro ⟨rest, rfl⟩
    rw [List.append_assoc, List.singleton_append, splitOn_append_cons, List.dropLast_append_of_ne_nil (splitOn_ne_nil x rest)]
    exact List.prefix_append _ _
  · intro h
    obtain ⟨rest, hrest⟩ := h.trans (List.dropLast_prefix _)
    have hne : rest ≠ [] := by
      rintro rfl
      have hlength := h.length_le
      rw [List.length_dropLast, ← hrest, List.append_nil] at hlength
      have hpos := List.length_pos_iff.2 (splitOn_ne_nil x t)
      omega
    rw [← joinWith_splitOn x u, ← hrest, joinWith_append (splitOn_ne_nil x t) hne, joinWith_splitOn, ← List.append_assoc]
    exact List.prefix_append _ _

/-! ## The first occurrence -/

/-- What stands after a mark, or nothing where the mark is missing. -/
inductive After (mark : Char) : Text → Text → Prop where
  | nothing : After mark [] []
  | mark (t : Text) : After mark (mark :: t) t

theorem After.mem {mark c : Char} {u t : Text} (h : After mark u t) (hc : c ∈ u) : c = mark ∨ c ∈ t := by
  cases h with
  | nothing => cases hc
  | mark => exact List.mem_cons.1 hc

theorem After.subset {mark : Char} {u t : Text} (h : After mark u t) : t ⊆ u := by
  cases h with
  | nothing => exact List.Subset.refl _
  | mark => exact List.subset_cons_self _ _

theorem After.eq_nil {mark : Char} {u t : Text} (h : After mark u t) (hmark : mark ∉ u) : u = [] ∧ t = [] := by
  cases h with
  | nothing => exact ⟨rfl, rfl⟩
  | mark => exact absurd List.mem_cons_self hmark

/-- A text is found again from what stands before a mark and what stands after it. -/
theorem of_breakOn {x : Char} {t : Text} : ∀ {before after}, breakOn x t = some (before, after) → t = before ++ x :: after := by
  induction t with
  | nil =>
    intro before after h
    cases h
  | cons c t ih =>
    intro before after h
    rw [breakOn] at h
    by_cases hc : c = x
    · rw [if_pos hc] at h
      cases h
      rw [hc]
      rfl
    · rw [if_neg hc, Option.map_eq_some_iff] at h
      obtain ⟨r, hr, heq⟩ := h
      cases heq
      rw [ih hr]
      rfl

theorem of_cut (x : Char) (t : Text) : ∃ u, t = (cut x t).1 ++ u ∧ After x u (cut x t).2 := by
  rw [cut]
  cases h : breakOn x t with
  | none => exact ⟨[], (List.append_nil t).symm, .nothing⟩
  | some r => exact ⟨x :: r.2, of_breakOn h, .mark r.2⟩

theorem not_mem_cut (x : Char) (t : Text) : x ∉ (cut x t).1 := by
  induction t with
  | nil => exact List.not_mem_nil
  | cons c t ih =>
    rw [cut, breakOn]
    by_cases hc : c = x
    · rw [if_pos hc]
      exact List.not_mem_nil
    · rw [cut] at ih
      rw [if_neg hc]
      cases h : breakOn x t with
      | none =>
        rw [h] at ih
        exact List.not_mem_cons_of_ne_of_not_mem (Ne.symm hc) ih
      | some r =>
        rw [h] at ih
        exact List.not_mem_cons_of_ne_of_not_mem (Ne.symm hc) ih

theorem cut_of_not_mem {x : Char} {t : Text} (h : x ∉ t) : cut x t = (t, []) := by
  obtain ⟨u, ht, hu⟩ := of_cut x t
  cases hcut : cut x t with
  | mk before after =>
    rw [hcut] at ht hu
    cases hu with
    | nothing => rw [ht, List.append_nil]
    | mark => exact absurd (ht ▸ List.mem_append_right before List.mem_cons_self) h

end Flashcards.Text

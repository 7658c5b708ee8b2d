import Flashcards.Template

/-!
# Filling templates

What a template is cut into is decided from left to right, and yet it is decided locally: no slot reaches into the two braces that begin
another one (`Template.pieces_append`). So a slot is filled on its own, and so is what stands before it and after it
(`Template.apply_local`), whatever braces there are around it. What is put into a slot is never a part of what is cut.
-/

namespace Flashcards

open Text

namespace Template

/-- What may be written in a slot: some characters, none of them a brace. -/
def IsSlotName (name : Text) : Prop := name ≠ [] ∧ ∀ c ∈ name, c ≠ '\x7b' ∧ c ≠ '\x7d'

theorem inSlot_iff {c : Char} : inSlot c = true ↔ c ≠ '\x7b' ∧ c ≠ '\x7d' := by
  simp [inSlot]

theorem length_written (name : Text) : (written name).length = name.length + 4 := by
  simp [written]

/-! ## Where a slot begins -/

/-- A slot that is written is read as what is between its braces. -/
theorem slotAt?_written {name : Text} (h : IsSlotName name) (t : Text) : slotAt? (written name ++ t) = some name := by
  have hin : ∀ c ∈ name, inSlot c = true := fun c hc => inSlot_iff.2 (h.2 c hc)
  have htake : (name ++ '\x7d' :: '\x7d' :: t).takeWhile inSlot = name := by
    rw [List.takeWhile_append_of_pos hin, List.takeWhile_cons_of_neg (by decide), List.append_nil]
  have hdrop : (name ++ '\x7d' :: '\x7d' :: t).dropWhile inSlot = '\x7d' :: '\x7d' :: t := by
    rw [List.dropWhile_append_of_pos hin, List.dropWhile_cons_of_neg (by decide)]
  have hw : written name ++ t = '\x7b' :: '\x7b' :: (name ++ '\x7d' :: '\x7d' :: t) := by simp [written]
  rw [hw, slotAt?, htake, hdrop]
  cases name with
  | nil => exact absurd rfl h.1
  | cons c name => rfl

/-- What is read as a slot is one that is written. -/
theorem exists_of_slotAt? {t name : Text} (h : slotAt? t = some name) : IsSlotName name ∧ ∃ rest, t = written name ++ rest := by
  unfold slotAt? at h
  split at h
  · rename_i t
    have hin : ∀ c ∈ t.takeWhile inSlot, c ≠ '\x7b' ∧ c ≠ '\x7d' := fun c hc =>
      inSlot_iff.1 (List.all_eq_true.1 List.all_takeWhile c hc)
    have ht : t.takeWhile inSlot ++ t.dropWhile inSlot = t := List.takeWhile_append_dropWhile
    split at h
    · cases h
    · rename_i rest hdrop hne
      obtain rfl := Option.some.inj h
      refine ⟨⟨fun hnil => hne hnil, hin⟩, rest, ?_⟩
      rw [hdrop] at ht
      simp only [written, List.cons_append, List.nil_append, List.append_assoc]
      rw [ht]
    · cases h
  · cases h

theorem slotAt?_eq_some_iff {t name : Text} : slotAt? t = some name ↔ IsSlotName name ∧ ∃ rest, t = written name ++ rest := by
  constructor
  · exact exists_of_slotAt?
  · rintro ⟨h, rest, rfl⟩
    exact slotAt?_written h rest

/-- What begins with a slot and goes on with two opening braces has them behind the slot. -/
theorem written_append_eq {name rest t after : Text} {c : Char} (h : IsSlotName name)
    (heq : written name ++ rest = c :: t ++ '\x7b' :: '\x7b' :: after) : ∃ between, c :: t = written name ++ between := by
  rcases List.append_eq_append_iff.1 heq with ⟨between, hbetween, -⟩ | ⟨reached, hreached, hrest⟩
  · exact ⟨between, hbetween⟩
  · cases reached with
    | nil => exact ⟨[], by rw [hreached, List.append_nil, List.append_nil]⟩
    | cons d reached =>
      -- The slot would have an opening brace behind its first two.
      obtain ⟨rfl, hafter⟩ := List.cons.inj hrest
      have hopen : '\x7b' ∈ name := by
        cases t with
        | nil =>
          have hbehind : name ++ ['\x7d', '\x7d'] = reached := by
            simp only [written, List.cons_append, List.nil_append, List.cons.injEq] at hreached
            exact hreached.2.2
          cases name with
          | nil => exact absurd rfl h.1
          | cons x name =>
            rw [← hbehind] at hafter
            have hx : '\x7b' = x := (List.cons.inj hafter).1
            exact List.mem_cons.2 (Or.inl hx)
        | cons x t =>
          have hbehind : name ++ ['\x7d', '\x7d'] = t ++ '\x7b' :: reached := by
            simp only [written, List.cons_append, List.nil_append, List.cons.injEq] at hreached
            exact hreached.2.2
          have hmem : '\x7b' ∈ name ++ ['\x7d', '\x7d'] := hbehind ▸ List.mem_append_right t List.mem_cons_self
          simpa using hmem
      exact absurd rfl (h.2 _ hopen).1

/-- Whether a slot begins at a place does not depend on what comes from two opening braces on, if they stand behind that place. -/
theorem slotAt?_append (c : Char) (t after : Text) : slotAt? (c :: t ++ '\x7b' :: '\x7b' :: after) = slotAt? (c :: t) := by
  refine Option.ext fun name => ?_
  rw [slotAt?_eq_some_iff, slotAt?_eq_some_iff]
  refine and_congr_right fun h => ?_
  constructor
  · rintro ⟨rest, heq⟩
    exact written_append_eq h heq.symm
  · rintro ⟨rest, heq⟩
    exact ⟨rest ++ '\x7b' :: '\x7b' :: after, by rw [heq, List.append_assoc]⟩

/-! ## Pieces -/

/-- The characters that belong to a slot are passed over. -/
theorem piecesFrom_eq (skip : Nat) (t : Text) : piecesFrom skip t = pieces (t.drop skip) := by
  induction t generalizing skip with
  | nil => cases skip <;> rfl
  | cons c t ih =>
    cases skip with
    | zero => rfl
    | succ skip => exact ih skip

theorem pieces_cons (c : Char) (t : Text) :
    pieces (c :: t) =
      match slotAt? (c :: t) with
      | some name => .slot name :: pieces (t.drop (name.length + 3))
      | none => .char c :: pieces t := by
  rw [pieces, piecesFrom]
  cases slotAt? (c :: t) with
  | none => rfl
  | some name =>
    dsimp only
    rw [piecesFrom_eq]

/-- A slot that is written is one piece. -/
theorem pieces_written {name : Text} (h : IsSlotName name) (t : Text) : pieces (written name ++ t) = .slot name :: pieces t := by
  have hslot := slotAt?_written h t
  have hw : written name ++ t = '\x7b' :: ('\x7b' :: name ++ ['\x7d', '\x7d'] ++ t) := by simp [written]
  rw [hw] at hslot ⊢
  have hdrop : ('\x7b' :: name ++ ['\x7d', '\x7d'] ++ t).drop (name.length + 3) = t := List.drop_left' (by simp)
  rw [pieces_cons, hslot]
  dsimp only
  rw [hdrop]

/-- A text is cut where two opening braces stand. -/
theorem pieces_append (t after : Text) :
    pieces (t ++ '\x7b' :: '\x7b' :: after) = pieces t ++ pieces ('\x7b' :: '\x7b' :: after) := by
  induction h : t.length using Nat.strongRecOn generalizing t with
  | _ n ih =>
    cases t with
    | nil => rfl
    | cons c t =>
      have hslot := slotAt?_append c t after
      rw [List.cons_append] at hslot ⊢
      rw [pieces_cons, pieces_cons c t, hslot]
      cases hs : slotAt? (c :: t) with
      | none =>
        have hi := ih t.length (by rw [← h]; exact Nat.lt_succ_self _) t rfl
        exact congrArg (Piece.char c :: ·) hi
      | some name =>
        -- All of the slot stands before the two braces.
        obtain ⟨-, rest, hrest⟩ := exists_of_slotAt? hs
        have hlength : name.length + 3 ≤ t.length := by
          have hl := congrArg List.length hrest
          rw [List.length_append, length_written, List.length_cons] at hl
          omega
        have hdrop : (t.drop (name.length + 3)).length < n := by
          rw [← h, List.length_drop, List.length_cons]
          omega
        have hi := ih _ hdrop _ rfl
        dsimp only
        rw [List.drop_append_of_le_length hlength, hi]
        rfl

/-- A text in which no slot is written is its characters. -/
theorem pieces_of_no_slot {t : Text} (h : ∀ before name after, IsSlotName name → t ≠ before ++ written name ++ after) :
    pieces t = t.map .char := by
  induction t with
  | nil => rfl
  | cons c t ih =>
    have hnone : slotAt? (c :: t) = none := by
      refine Option.eq_none_iff_forall_not_mem.2 fun name hname => ?_
      obtain ⟨hn, after, heq⟩ := exists_of_slotAt? hname
      exact h [] name after hn heq
    rw [pieces_cons, hnone, List.map_cons]
    have hrest := ih fun before name after hn heq => h (c :: before) name after hn (by rw [heq]; rfl)
    exact congrArg (Piece.char c :: ·) hrest

/-! ## Filling -/

/-- What stands before a slot, the slot, and what stands after it are filled one after the other. -/
theorem apply_slot (context : Context) {name : Text} (hn : IsSlotName name) (before after : Text) :
    apply context (before ++ (written name ++ after)) =
      apply context before ++ ((Context.find? (strip name) context).getD (written name) ++ apply context after) := by
  have hs : '\x7b' :: '\x7b' :: (name ++ ['\x7d', '\x7d'] ++ after) = written name ++ after := by simp [written]
  rw [apply, ← hs, pieces_append, hs, pieces_written hn, List.flatMap_append, List.flatMap_cons]
  rfl

/-- A slot in a template is filled on its own, and so are what stands before it and what stands after it: the text under its name, blanks
at the ends of the name aside, is put in as it is, and if there is none the slot stays. A text without a slot stays as it is. -/
theorem apply_local (context : Context) :
    (∀ before name after, IsSlotName name →
      apply context (before ++ written name ++ after) =
        apply context before ++ (Context.find? (strip name) context).getD (written name) ++ apply context after) ∧
    (∀ t, (∀ before name after, IsSlotName name → t ≠ before ++ written name ++ after) → apply context t = t) := by
  constructor
  · intro before name after hn
    rw [List.append_assoc, List.append_assoc, apply_slot context hn]
  · intro t ht
    rw [apply, pieces_of_no_slot ht, List.flatMap_map]
    exact List.flatMap_singleton' t

/-- A value with a slot in it is put in between stray braces, and stays there as it is; braces with nothing in between are no slot. -/
theorem apply_local_between_braces :
    apply [("a", "\x7b\x7ba\x7d\x7d")] ("\x7b" ++ written " a " ++ "\x7d\x7d\x7b\x7bb") = "\x7b\x7b\x7ba\x7d\x7d\x7d\x7d\x7b\x7bb" ∧
      apply [("", "a")] "\x7b\x7b\x7d\x7d" = "\x7b\x7b\x7d\x7d" := by
  constructor
  · have hname : IsSlotName " a " := by
      refine ⟨by decide, fun c hc => ?_⟩
      obtain rfl | rfl : c = ' ' ∨ c = 'a' := by simpa [or_comm] using hc
      all_goals decide
    rw [(apply_local _).1 "\x7b" " a " _ hname]
    rfl
  · refine (apply_local _).2 _ fun before name after hname heq => ?_
    have hlength := congrArg List.length heq
    have hpos := List.length_pos_iff.2 hname.1
    rw [List.length_append, List.length_append, length_written] at hlength
    change 4 = _ at hlength
    omega

end Template

end Flashcards

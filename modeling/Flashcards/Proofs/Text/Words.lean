import Flashcards.Text.Blank

/-!
# Words

A text is split at its blanks, into the words that stand in it (`Tokens`, `tokens_words`). Words that are put together with a space between each
two are found again (`words_joinWith`), and the distinct ones among words that are all different are these words (`distinct_eq`).

Words, attributes and entries are collected in the same way: each is put at the end of those that there are, unless one of its key is
there (`foldl_eq_map_of_nodup`).
-/

namespace Flashcards.Text

/-- Items that are put at the end where their keys are new are all there in order, if no two have one key. -/
theorem foldl_eq_map_of_nodup {α β κ : Type} {f : List β → α → List β} {g : α → β} {k : β → κ}
    (hf : ∀ done x, (∀ y ∈ done, k y ≠ k (g x)) → f done x = done ++ [g x]) {xs : List α}
    (hn : (xs.map fun x => k (g x)).Nodup) : xs.foldl f [] = xs.map g := by
  have hall : ∀ (xs : List α) (done : List β), (done.map k ++ xs.map fun x => k (g x)).Nodup →
      xs.foldl f done = done ++ xs.map g := by
    intro xs
    induction xs with
    | nil => exact fun done _ => (List.append_nil done).symm
    | cons x xs ih =>
      intro done hn
      have hnew : ∀ y ∈ done, k y ≠ k (g x) := fun y hy =>
        (List.nodup_append.1 hn).2.2 (k y) (List.mem_map_of_mem hy) (k (g x)) List.mem_cons_self
      rw [List.foldl_cons, hf done x hnew, ih (done ++ [g x]), List.append_assoc]
      · rfl
      · rw [List.map_append, List.append_assoc]
        exact hn
  exact hall xs [] hn

/-- A word: some characters, none of them a blank. -/
def IsWord (t : Text) : Prop := t ≠ [] ∧ ∀ c ∈ t, isBlank c = false

theorem splitWhere_ne_nil (p : Char → Bool) (t : Text) : splitWhere p t ≠ [] := by
  cases t with
  | nil => exact List.cons_ne_nil _ _
  | cons c t =>
    unfold splitWhere
    split
    · exact List.cons_ne_nil _ _
    · split <;> exact List.cons_ne_nil _ _

/-- The pieces on both sides of a separator. -/
theorem splitWhere_append_cons {p : Char → Bool} {x : Char} (hx : p x = true) (t u : Text) :
    splitWhere p (t ++ x :: u) = splitWhere p t ++ splitWhere p u := by
  induction t with
  | nil => exact if_pos hx
  | cons c t ih =>
    rw [List.cons_append, splitWhere, splitWhere, ih]
    split
    · rfl
    · cases h : splitWhere p t with
      | nil => exact absurd h (splitWhere_ne_nil p t)
      | cons w ws => rfl

/-- A piece without a separator. -/
theorem splitWhere_eq {p : Char → Bool} {w : Text} (hw : ∀ c ∈ w, p c = false) : splitWhere p w = [w] := by
  induction w with
  | nil => rfl
  | cons c w ih =>
    rw [List.forall_mem_cons] at hw
    rw [splitWhere, if_neg (by rw [hw.1]; exact Bool.false_ne_true), ih hw.2]

/-- No piece holds a separator. -/
theorem of_mem_splitWhere {p : Char → Bool} {t w : Text} (h : w ∈ splitWhere p t) : ∀ c ∈ w, p c = false := by
  induction t generalizing w with
  | nil =>
    rw [List.mem_singleton.1 h]
    exact List.forall_mem_nil _
  | cons d t ih =>
    unfold splitWhere at h
    split at h
    · rcases List.mem_cons.1 h with rfl | h
      · exact List.forall_mem_nil _
      · exact ih h
    · rename_i hd
      split at h
      · rw [List.mem_singleton.1 h]
        exact List.forall_mem_singleton.2 (eq_false_of_ne_true hd)
      · rename_i u us hpieces
        rcases List.mem_cons.1 h with rfl | h
        · exact List.forall_mem_cons.2 ⟨eq_false_of_ne_true hd, ih (hpieces ▸ List.mem_cons_self)⟩
        · exact ih (hpieces ▸ List.mem_cons_of_mem u h)

/-- The words of a text are words. -/
theorem isWord_of_mem_words {t w : Text} (h : w ∈ words t) : IsWord w := by
  obtain ⟨hmem, hne⟩ := List.mem_filter.1 h
  refine ⟨?_, of_mem_splitWhere hmem⟩
  rintro rfl
  cases hne

/-- Pieces with a separator between each two are found again. -/
theorem splitWhere_joinWith {p : Char → Bool} {x : Char} (hx : p x = true) {ts : List Text} (hne : ts ≠ [])
    (h : ∀ t ∈ ts, ∀ c ∈ t, p c = false) : splitWhere p (joinWith [x] ts) = ts := by
  induction ts with
  | nil => exact absurd rfl hne
  | cons t ts ih =>
    rw [List.forall_mem_cons] at h
    cases ts with
    | nil => exact splitWhere_eq h.1
    | cons u us =>
      rw [joinWith, List.append_assoc, List.singleton_append, splitWhere_append_cons hx, splitWhere_eq h.1, ih (List.cons_ne_nil u us) h.2]
      · rfl
      · exact fun h => (by cases h)

/-- Words with a space between each two are found again. -/
theorem words_joinWith {ts : List Text} (h : ∀ t ∈ ts, IsWord t) : words (joinWith [' '] ts) = ts := by
  have hall : ∀ t ∈ ts, nonEmpty t = true := by
    intro t ht
    have hne := (h t ht).1
    cases t with
    | nil => exact absurd rfl hne
    | cons => rfl
  cases ts with
  | nil => rfl
  | cons t ts => rw [words, splitWhere_joinWith rfl (List.cons_ne_nil t ts) fun t ht => (h t ht).2, List.filter_eq_self.2 hall]

theorem words_append_cons {x : Char} (hx : isBlank x = true) (t u : Text) : words (t ++ x :: u) = words t ++ words u := by
  rw [words, splitWhere_append_cons hx, List.filter_append]
  rfl

theorem words_eq_singleton {w : Text} (h : IsWord w) : words w = [w] := words_joinWith (List.forall_mem_singleton.2 h)

/-- The words of a text where they stand in it: each ends at a blank or with the text, and begins where no word has gone on. -/
inductive Tokens : Text → List Text → Prop where
  | nothing : Tokens [] []
  | blank {x : Char} {t : Text} {ws : List Text} (hx : isBlank x = true) (h : Tokens t ws) : Tokens (x :: t) ws
  | last {w : Text} (hw : IsWord w) : Tokens w [w]
  | word {w : Text} {x : Char} {t : Text} {ws : List Text} (hw : IsWord w) (hx : isBlank x = true) (h : Tokens t ws) :
      Tokens (w ++ x :: t) (w :: ws)

/-- A text has only one list of words. -/
theorem Tokens.words_eq {t : Text} {ws : List Text} (h : Tokens t ws) : words t = ws := by
  induction h with
  | nothing => rfl
  | @blank x t ws hx h ih => exact (words_append_cons hx [] t).trans ih
  | last hw => exact words_eq_singleton hw
  | word hw hx h ih => rw [words_append_cons hx, words_eq_singleton hw, ih, List.singleton_append]

theorem IsWord.cons {c : Char} {w : Text} (hc : isBlank c = false) (hw : ∀ d ∈ w, isBlank d = false) : IsWord (c :: w) :=
  ⟨List.cons_ne_nil c w, List.forall_mem_cons.2 ⟨hc, hw⟩⟩

/-- A character that is no blank goes on with the word that a text begins with, or is a word where the text begins with a blank. -/
theorem Tokens.exists_cons {c : Char} {t : Text} {ws : List Text} (hc : isBlank c = false) (h : Tokens t ws) : ∃ ws', Tokens (c :: t) ws' := by
  have hone : IsWord [c] := .cons hc (List.forall_mem_nil _)
  cases h with
  | nothing => exact ⟨[[c]], .last hone⟩
  | blank hx h => exact ⟨_, .word hone hx h⟩
  | last hw => exact ⟨_, .last (.cons hc hw.2)⟩
  | word hw hx h => exact ⟨_, .word (.cons hc hw.2) hx h⟩

theorem exists_tokens (t : Text) : ∃ ws, Tokens t ws := by
  induction t with
  | nil => exact ⟨[], .nothing⟩
  | cons c t ih =>
    obtain ⟨ws, h⟩ := ih
    by_cases hc : isBlank c = true
    · exact ⟨ws, .blank hc h⟩
    · exact h.exists_cons (eq_false_of_ne_true hc)

theorem tokens_words (t : Text) : Tokens t (words t) := by
  obtain ⟨ws, h⟩ := exists_tokens t
  rwa [h.words_eq]

/-- Texts that are all different stay as they are. -/
theorem distinct_eq {ts : List Text} (h : ts.Nodup) : distinct ts = ts := by
  have hfold := foldl_eq_map_of_nodup (f := fun seen w => if w ∈ seen then seen else seen ++ [w]) (g := fun t : Text => t)
    (fun seen w hnew => if_neg fun hmem => hnew w hmem rfl) (by rwa [List.map_id'])
  rwa [List.map_id'] at hfold

/-- A blank of markup is a blank. -/
theorem isBlank_of_isMarkupBlank {c : Char} (h : isMarkupBlank c = true) : isBlank c = true := by
  simp only [isMarkupBlank, Bool.or_eq_true, beq_iff_eq] at h
  rcases h with (((rfl | rfl) | rfl) | rfl) | rfl <;> rfl

end Flashcards.Text

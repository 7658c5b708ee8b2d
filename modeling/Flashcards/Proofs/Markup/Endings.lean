import Flashcards.Markup.Lexer
import Flashcards.Proofs.Text.Replacing

/-!
# Where a construct ends

A comment, a marked section and the content of a raw element end at the first place where some characters up to a `>` make an ending
(`EndsAt`). So what has been read of one of them holds no such ending (`exists_of_breakAt`), and where it is written again, with any ending
behind it that does not begin earlier (`Tight`), it ends in the same place (`breakAt_of_unbroken`).
-/

namespace Flashcards.Markup

open Text

/-! ## The first occurrence of a character -/

/-- What stands before the first occurrence of a character. -/
theorem breakOn_append {x : Char} {t : Text} (h : x ∉ t) (rest : Text) : breakOn x (t ++ x :: rest) = some (t, rest) := by
  induction t with
  | nil => exact if_pos rfl
  | cons c t ih =>
    rw [List.mem_cons, not_or] at h
    rw [List.cons_append, breakOn, if_neg (Ne.symm h.1), ih h.2]
    rfl

/-- What stands before the first occurrence of a character does not hold it. -/
theorem not_mem_of_breakOn {x : Char} {t content rest : Text} (h : breakOn x t = some (content, rest)) : x ∉ content := by
  induction t generalizing content rest with
  | nil => cases h
  | cons c t ih =>
    rw [breakOn] at h
    split at h
    · obtain ⟨rfl, -⟩ := Prod.mk.inj (Option.some.inj h)
      exact List.not_mem_nil
    · rename_i hc
      obtain ⟨⟨content', rest'⟩, hbreak, hpair⟩ := Option.map_eq_some_iff.1 h
      obtain ⟨rfl, -⟩ := Prod.mk.inj hpair
      rw [List.mem_cons, not_or]
      exact ⟨Ne.symm hc, ih hbreak⟩

/-! ## Endings in general -/

/-- A matcher accepts a text if what stands before its first `>` is an ending, and leaves what stands after it. -/
structure EndsAt (matcher : Text → Option Text) (ends : Text → Bool) : Prop where
  append : ∀ {u : Text}, '>' ∉ u → ∀ v, matcher (u ++ '>' :: v) = if ends u then some v else none
  none : ∀ {t : Text}, '>' ∉ t → matcher t = none

/-- No ending begins within a text when another follows it. -/
def Clear (ends : Text → Bool) (t w : Text) : Prop := ∀ a u v, t ++ w = a ++ (u ++ '>' :: v) → '>' ∉ u → a.length < t.length → ends u = false

/-- No ending stands in a text. -/
def Unbroken (ends : Text → Bool) (t : Text) : Prop := ∀ a u v, t = a ++ (u ++ '>' :: v) → '>' ∉ u → ends u = false

/-- An ending that does not begin earlier, whatever stands before it. -/
structure Tight (ends : Text → Bool) (u : Text) : Prop where
  isEnding : ends u = true
  closed : '>' ∉ u
  first : ∀ s, s ≠ [] → ends (s ++ u) = false

variable {matcher : Text → Option Text} {ends : Text → Bool} {t u w : Text}

theorem Clear.unbroken (h : Clear ends t w) : Unbroken ends t := by
  rintro a u v rfl hu
  refine h a u (v ++ w) (by simp) hu ?_
  simp only [List.length_append, List.length_cons]
  omega

theorem unbroken_of_not_mem (h : '>' ∉ t) : Unbroken ends t := by
  rintro a u v rfl -
  exact absurd (by simp) h

/-- Text that has been read as far as a `>`, or not at all. -/
def Even (t : Text) : Prop := t = [] ∨ ∃ u, t = u ++ ['>']

/-- No ending comes to stand where text goes on behind a `>`. -/
theorem Unbroken.append (ht : Unbroken ends t) (heven : Even t) (hu : Unbroken ends u) : Unbroken ends (t ++ u) := by
  intro a x v heq hx
  rcases List.append_eq_append_iff.1 heq with ⟨b, rfl, hb⟩ | ⟨b, rfl, hb⟩
  · exact hu b x v hb hx
  · cases b with
    | nil => exact hu [] x v hb.symm hx
    | cons c b =>
      -- What is left of the first text ends with a `>`, so the ending would end in it.
      have hmem : '>' ∈ c :: b := by
        rcases heven with hnil | ⟨w, hw⟩
        · rw [List.append_eq_nil_iff] at hnil
          cases hnil.2
        · have hlast : (a ++ c :: b).getLast? = some '>' := by rw [hw]; simp
          rw [List.getLast?_append, List.getLast?_eq_some_getLast (List.cons_ne_nil c b), Option.some_or] at hlast
          exact Option.some.inj hlast ▸ List.getLast_mem (List.cons_ne_nil c b)
      obtain ⟨y, w, hsplit, hy⟩ := List.eq_append_cons_of_mem hmem
      rw [hsplit] at hb ht
      obtain rfl : x = y := by
        have hfirst := congrArg (breakOn '>') hb
        rw [List.append_assoc, List.cons_append, breakOn_append hy, breakOn_append hx] at hfirst
        exact (Prod.mk.inj (Option.some.inj hfirst)).1
      exact ht a x w rfl hx

/-- An ending is found where none begins earlier. -/
theorem exists_of_breakAt (hm : EndsAt matcher ends) {c rest : Text} (h : breakAt matcher t = some (c, rest)) :
    ∃ u, t = c ++ (u ++ '>' :: rest) ∧ '>' ∉ u ∧ ends u = true ∧ Clear ends c (u ++ ['>']) := by
  induction t generalizing c with
  | nil =>
    rw [breakAt, hm.none List.not_mem_nil] at h
    cases h
  | cons d t ih =>
    unfold breakAt at h
    split at h
    · rename_i rest' hmatch
      obtain ⟨rfl, rfl⟩ := Prod.mk.inj (Option.some.inj h)
      have hmem : '>' ∈ d :: t := by
        apply Decidable.byContradiction
        intro hnot
        rw [hm.none hnot] at hmatch
        cases hmatch
      obtain ⟨u, v, ht, hu⟩ := List.eq_append_cons_of_mem hmem
      rw [ht, hm.append hu] at hmatch
      split at hmatch
      · rename_i hends
        obtain rfl := Option.some.inj hmatch
        refine ⟨u, ht, hu, hends, ?_⟩
        intro a x v' _ _ hlt
        cases hlt
      · cases hmatch
    · rename_i hmatch
      obtain ⟨⟨c', rest'⟩, hbreak, hpair⟩ := Option.map_eq_some_iff.1 h
      obtain ⟨rfl, rfl⟩ := Prod.mk.inj hpair
      obtain ⟨u, rfl, hu, hends, hclear⟩ := ih hbreak
      refine ⟨u, rfl, hu, hends, ?_⟩
      intro a x v heq hx hlt
      cases a with
      | nil =>
        -- The ending would begin where the matcher has not accepted.
        have hwhole : d :: (c' ++ (u ++ '>' :: rest')) = x ++ '>' :: (v ++ rest') := by
          have happend := congrArg (· ++ rest') heq
          simpa using happend
        rw [hwhole, hm.append hx] at hmatch
        split at hmatch
        · cases hmatch
        · rename_i hnot
          exact eq_false_of_ne_true hnot
      | cons b a =>
        have heq : c' ++ (u ++ ['>']) = a ++ (x ++ '>' :: v) := (List.cons.inj heq).2
        exact hclear a x v heq hx (Nat.lt_of_succ_lt_succ hlt)

/-- A text in which no ending stands ends before an ending that does not begin earlier. -/
theorem breakAt_of_unbroken (hm : EndsAt matcher ends) (ht : Unbroken ends t) (hu : Tight ends u) (rest : Text) :
    breakAt matcher (t ++ (u ++ '>' :: rest)) = some (t, rest) := by
  induction t with
  | nil =>
    have hmatch : matcher (u ++ '>' :: rest) = some rest := by rw [hm.append hu.closed, if_pos hu.isEnding]
    rw [List.nil_append]
    obtain ⟨d, v, hv⟩ := List.exists_cons_of_ne_nil (List.append_ne_nil_of_right_ne_nil u (List.cons_ne_nil '>' rest))
    rw [hv] at hmatch ⊢
    rw [breakAt, hmatch]
  | cons d t ih =>
    have hmatch : matcher (d :: t ++ (u ++ '>' :: rest)) = none := by
      by_cases hmem : '>' ∈ d :: t
      · obtain ⟨x, v, hsplit, hx⟩ := List.eq_append_cons_of_mem hmem
        have hnot := ht [] x v hsplit hx
        rw [hsplit, List.append_assoc, List.cons_append, hm.append hx, hnot]
        rfl
      · have hclosed : '>' ∉ d :: t ++ u := by
          rw [List.mem_append, not_or]
          exact ⟨hmem, hu.closed⟩
        rw [← List.append_assoc, hm.append hclosed, hu.first _ (List.cons_ne_nil d t)]
        rfl
    have hrest : Unbroken ends t := by
      rintro a x v rfl hx
      exact ht (d :: a) x v rfl hx
    rw [List.cons_append] at hmatch ⊢
    rw [breakAt, hmatch, ih hrest]
    rfl

theorem Unbroken.right (h : Unbroken ends (t ++ u)) : Unbroken ends u := by
  rintro a x v rfl hx
  exact h (t ++ a) x v (List.append_assoc t a _).symm hx

/-- An ending that is found is found whatever is put behind the text. -/
theorem breakAt_append (hm : EndsAt matcher ends) {c rest : Text} (h : breakAt matcher t = some (c, rest)) (w : Text) :
    breakAt matcher (t ++ w) = some (c, rest ++ w) := by
  induction t generalizing c with
  | nil =>
    rw [breakAt, hm.none List.not_mem_nil] at h
    cases h
  | cons d t ih =>
    obtain ⟨x, v, hx, hsplit⟩ : ∃ x v, '>' ∉ x ∧ d :: t = x ++ '>' :: v := by
      obtain ⟨u, ht, -⟩ := exists_of_breakAt hm h
      obtain ⟨x, v, hsplit, hx⟩ := List.eq_append_cons_of_mem (show '>' ∈ d :: t by rw [ht]; simp)
      exact ⟨x, v, hx, hsplit⟩
    have hmatch : matcher (d :: (t ++ w)) = (matcher (d :: t)).map (· ++ w) := by
      rw [← List.cons_append, hsplit, List.append_assoc, List.cons_append, hm.append hx, hm.append hx]
      cases ends x <;> rfl
    rw [List.cons_append]
    rw [breakAt] at h ⊢
    rw [hmatch]
    cases hd : matcher (d :: t) with
    | some rest' =>
      rw [hd] at h
      obtain ⟨rfl, rfl⟩ := Prod.mk.inj (Option.some.inj h)
      rfl
    | none =>
      rw [hd] at h
      obtain ⟨⟨c', rest'⟩, hbreak, hpair⟩ := Option.map_eq_some_iff.1 h
      obtain ⟨rfl, rfl⟩ := Prod.mk.inj hpair
      rw [Option.map_none, ih hbreak]
      rfl

/-- Where no ending is found, none stands. -/
theorem unbroken_of_breakAt (hm : EndsAt matcher ends) (h : breakAt matcher t = none) : Unbroken ends t := by
  rintro a u v rfl hu
  induction a with
  | nil =>
    obtain ⟨d, w, hw⟩ := List.exists_cons_of_ne_nil (List.append_ne_nil_of_right_ne_nil u (List.cons_ne_nil '>' v))
    rw [List.nil_append, hw, breakAt, ← hw, hm.append hu] at h
    split at h
    · cases h
    · rename_i hmatch
      split at hmatch
      · cases hmatch
      · rename_i hends
        exact eq_false_of_ne_true hends
  | cons d a ih =>
    rw [List.cons_append, breakAt] at h
    split at h
    · cases h
    · exact ih (Option.map_eq_none_iff.1 h)

/-! ## Scanning up to the end -/

theorem dropPrefix?_append_end {p u : Text} (hp : '>' ∉ p) (v : Text) :
    dropPrefix? p (u ++ '>' :: v) = (dropPrefix? p u).map (· ++ '>' :: v) := by
  induction p generalizing u with
  | nil => rfl
  | cons c p ih =>
    rw [List.mem_cons, not_or] at hp
    cases u with
    | nil =>
      show (if c = '>' then dropPrefix? p v else none) = none
      exact if_neg (Ne.symm hp.1)
    | cons d u =>
      rw [List.cons_append, dropPrefix?, dropPrefix?]
      split
      · exact ih hp.2
      · rfl

theorem dropWhile_append_end {p : Char → Bool} (hp : p '>' = false) (u v : Text) :
    (u ++ '>' :: v).dropWhile p = u.dropWhile p ++ '>' :: v := by
  induction u with
  | nil => rw [List.nil_append, List.dropWhile_cons_of_neg (by rw [hp]; exact Bool.false_ne_true)]; rfl
  | cons c u ih =>
    rw [List.cons_append]
    by_cases hc : p c = true
    · rw [List.dropWhile_cons_of_pos hc, List.dropWhile_cons_of_pos hc, ih]
    · rw [List.dropWhile_cons_of_neg hc, List.dropWhile_cons_of_neg hc]
      rfl

theorem takeWhile_append_end {p : Char → Bool} (hp : p '>' = false) (u v : Text) : (u ++ '>' :: v).takeWhile p = u.takeWhile p := by
  induction u with
  | nil => rw [List.nil_append, List.takeWhile_cons_of_neg (by rw [hp]; exact Bool.false_ne_true)]; rfl
  | cons c u ih =>
    rw [List.cons_append]
    by_cases hc : p c = true
    · rw [List.takeWhile_cons_of_pos hc, List.takeWhile_cons_of_pos hc, ih]
    · rw [List.takeWhile_cons_of_neg hc, List.takeWhile_cons_of_neg hc]

theorem not_mem_dropWhile {p : Char → Bool} {u : Text} (hu : '>' ∉ u) : '>' ∉ u.dropWhile p :=
  fun h => hu ((List.dropWhile_sublist p).mem h)

theorem not_mem_of_dropPrefix? {p u r : Text} (hu : '>' ∉ u) (h : dropPrefix? p u = some r) : '>' ∉ r := by
  obtain rfl := dropPrefix?_eq_some_iff.1 h
  exact fun hmem => hu (List.mem_append_right p hmem)

/-- The rest after blanks and a `>` that a text begins with. -/
def afterBlanks? (t : Text) : Option Text :=
  match t.dropWhile isBlank with
  | '>' :: rest => some rest
  | _ => none

theorem all_iff_dropWhile_eq_nil {p : Char → Bool} (t : Text) : t.all p = true ↔ t.dropWhile p = [] := by
  induction t with
  | nil => simp
  | cons c t ih =>
    by_cases hc : p c = true
    · rw [List.dropWhile_cons_of_pos hc, List.all_cons, hc, Bool.true_and, ih]
    · rw [List.dropWhile_cons_of_neg hc, List.all_cons, eq_false_of_ne_true hc]
      simp

/-- Blanks make an ending. -/
theorem endsAt_blanks : EndsAt afterBlanks? (·.all isBlank) where
  append := by
    intro u hu v
    unfold afterBlanks?
    rw [dropWhile_append_end rfl]
    cases hr : u.dropWhile isBlank with
    | nil =>
      rw [if_pos ((all_iff_dropWhile_eq_nil u).2 hr)]
      rfl
    | cons c r =>
      have hnot : ¬u.all isBlank = true := by
        rw [all_iff_dropWhile_eq_nil, hr]
        exact List.cons_ne_nil c r
      have hc : c ≠ '>' := by
        rintro rfl
        exact not_mem_dropWhile hu (hr ▸ List.mem_cons_self)
      rw [if_neg hnot, List.cons_append]
      split
      · rename_i h
        exact absurd (List.cons.inj h).1 hc
      · rfl
  none := by
    intro t ht
    unfold afterBlanks?
    split
    · rename_i h
      exact absurd (h ▸ List.mem_cons_self) (not_mem_dropWhile ht)
    · rfl

/-! ## Comments -/

/-- Whether some characters before a `>` end a comment. -/
def endsComment (u : Text) : Bool :=
  match dropPrefix? "--" u with
  | some r => r.all isBlank
  | none => false

theorem endsAt_comment : EndsAt dropCommentEnd? endsComment where
  append := by
    intro u hu v
    have hform : dropCommentEnd? (u ++ '>' :: v) = (dropPrefix? "--" (u ++ '>' :: v)).bind afterBlanks? := by
      unfold dropCommentEnd?
      cases dropPrefix? "--" (u ++ '>' :: v) <;> rfl
    rw [hform, dropPrefix?_append_end (by decide)]
    unfold endsComment
    cases hr : dropPrefix? "--" u with
    | none => rfl
    | some r => exact endsAt_blanks.append (not_mem_of_dropPrefix? hu hr) v
  none := by
    intro t ht
    unfold dropCommentEnd?
    cases hr : dropPrefix? "--" t with
    | none => rfl
    | some r => exact endsAt_blanks.none (not_mem_of_dropPrefix? ht hr)

/-- The end of a comment as it is written. -/
theorem tight_comment : Tight endsComment "--" where
  isEnding := rfl
  closed := by decide
  first := by
    intro s hs
    apply eq_false_of_ne_true
    intro h
    unfold endsComment at h
    split at h
    · rename_i r hr
      -- Behind the first two dashes there would be another one among the blanks.
      have hdash : '-' ∈ r := by
        have heq : s ++ ['-', '-'] = ['-', '-'] ++ r := dropPrefix?_eq_some_iff.1 hr
        cases r with
        | nil =>
          exact absurd (List.append_left_eq_self.1 heq) hs
        | cons c r =>
          have hlast : (s ++ ['-', '-']).getLast? = some '-' := by simp
          rw [heq, List.getLast?_append, List.getLast?_eq_some_getLast (List.cons_ne_nil c r), Option.some_or] at hlast
          exact Option.some.inj hlast ▸ List.getLast_mem (List.cons_ne_nil c r)
      exact absurd (List.all_eq_true.1 h _ hdash) (by decide)
    · cases h

/-! ## Marked sections -/

/-- Whether some characters before a `>` end a marked section that ends in a number of brackets. -/
def endsSection : Nat → Text → Bool
  | 0, u => u.isEmpty
  | n + 1, ']' :: u => endsSection n (u.dropWhile isBlank)
  | _ + 1, _ => false

theorem dropSectionEnd?_zero {c : Char} (h : c ≠ '>') (t : Text) : dropSectionEnd? 0 (c :: t) = none := by
  simp [dropSectionEnd?, h]

theorem dropSectionEnd?_succ {c : Char} (h : c ≠ ']') (n : Nat) (t : Text) : dropSectionEnd? (n + 1) (c :: t) = none := by
  simp [dropSectionEnd?, h]

theorem endsSection_succ {c : Char} (h : c ≠ ']') (n : Nat) (u : Text) : endsSection (n + 1) (c :: u) = false := by
  simp [endsSection, h]

theorem endsAt_section (brackets : Nat) : EndsAt (dropSectionEnd? brackets) (endsSection brackets) where
  append := by
    intro u hu v
    induction brackets generalizing u with
    | zero =>
      cases u with
      | nil => rfl
      | cons c u => exact dropSectionEnd?_zero (fun h => hu (h ▸ List.mem_cons_self)) _
    | succ n ih =>
      cases u with
      | nil => rfl
      | cons c u =>
        by_cases hc : c = ']'
        · subst hc
          show dropSectionEnd? n ((u ++ '>' :: v).dropWhile isBlank) = if endsSection n (u.dropWhile isBlank) then some v else none
          rw [dropWhile_append_end rfl]
          exact ih (not_mem_dropWhile (List.not_mem_of_not_mem_cons hu))
        · rw [List.cons_append, dropSectionEnd?_succ hc, endsSection_succ hc]
          rfl
  none := by
    intro t ht
    induction brackets generalizing t with
    | zero =>
      cases t with
      | nil => rfl
      | cons c t => exact dropSectionEnd?_zero (fun h => ht (h ▸ List.mem_cons_self)) _
    | succ n ih =>
      cases t with
      | nil => rfl
      | cons c t =>
        by_cases hc : c = ']'
        · subst hc
          exact ih (not_mem_dropWhile (List.not_mem_of_not_mem_cons ht))
        · exact dropSectionEnd?_succ hc n t

/-- The brackets that a marked section needs at its end are all that stand there, apart from blanks. -/
theorem count_of_endsSection {n : Nat} {u : Text} (h : endsSection n u = true) : u.count ']' = n := by
  induction n generalizing u with
  | zero =>
    rw [List.isEmpty_iff.1 h]
    rfl
  | succ n ih =>
    cases u with
    | nil => cases h
    | cons c u =>
      by_cases hc : c = ']'
      · subst hc
        have hblank : (u.takeWhile isBlank).count ']' = 0 := by
          rw [List.count_eq_zero]
          intro hmem
          exact absurd (List.all_eq_true.1 List.all_takeWhile _ hmem) (by decide)
        rw [List.count_cons_self, ← List.takeWhile_append_dropWhile (p := isBlank) (l := u), List.count_append, hblank, ih h]
        omega
      · rw [endsSection_succ hc] at h
        cases h

/-- The end of character data as it is written. -/
theorem tight_section : Tight (endsSection 2) "]]" where
  isEnding := rfl
  closed := by decide
  first := by
    intro s hs
    apply eq_false_of_ne_true
    intro h
    obtain ⟨c, s, rfl⟩ := List.exists_cons_of_ne_nil hs
    by_cases hc : c = ']'
    · subst hc
      have hcount := count_of_endsSection h
      have hend : (("]]" : Text).count ']') = 2 := by decide
      rw [List.count_append, List.count_cons_self, hend] at hcount
      omega
    · rw [List.cons_append, endsSection_succ hc] at h
      cases h

/-- What ends in two brackets ends in one, so a text in which the end of no condition stands has the end of no section in it either. -/
theorem unbroken_section {t : Text} (h : Unbroken (endsSection 1) t) : Unbroken (endsSection 2) t := by
  rintro a u v rfl hu
  apply eq_false_of_ne_true
  intro hends
  cases u with
  | nil => cases hends
  | cons c u =>
    by_cases hc : c = ']'
    · subst hc
      have hone : endsSection 1 (u.dropWhile isBlank) = true := hends
      rw [h (a ++ ']' :: u.takeWhile isBlank) (u.dropWhile isBlank) v ?_ (not_mem_dropWhile (List.not_mem_of_not_mem_cons hu))] at hone
      · cases hone
      · have hsplit : u.takeWhile isBlank ++ (u.dropWhile isBlank ++ '>' :: v) = u ++ '>' :: v := by
          rw [← List.append_assoc, List.takeWhile_append_dropWhile]
        simp only [List.append_assoc, List.cons_append, hsplit]
    · rw [endsSection_succ hc] at hends
      cases hends

/-! ## Raw elements -/

/-- Whether some characters before a `>` look like the end tag of a raw element. -/
def looksClosing (name u : Text) : Bool :=
  match dropPrefix? "</" u with
  | none => false
  | some r =>
    match dropFolded? name (r.dropWhile isBlank) with
    | none => false
    | some r => r.all isBlank

/-- The name that some characters are, apart from blanks around it. -/
def plainName? (r : Text) : Option Text :=
  match r.dropWhile isBlank with
  | [] => none
  | c :: body => if isLetter c && (body.dropWhile inPlainName).all isBlank then some (lower (c :: body.takeWhile inPlainName)) else none

/-- The name of the plain end tag that some characters before a `>` are. -/
def plainEndName? (u : Text) : Option Text := (dropPrefix? "</" u).bind plainName?

/-- Whether some characters before a `>` end a raw element: they look like its end tag and are one. -/
def closes (name u : Text) : Bool := looksClosing name u && plainEndName? u == some name

theorem dropFolded?_append_end {name u : Text} (hname : ∀ c ∈ name, sameLetter c '>' = false) (v : Text) :
    dropFolded? name (u ++ '>' :: v) = (dropFolded? name u).map (· ++ '>' :: v) := by
  induction name generalizing u with
  | nil => rfl
  | cons c name ih =>
    rw [List.forall_mem_cons] at hname
    cases u with
    | nil =>
      show (if sameLetter c '>' then dropFolded? name v else none) = none
      rw [hname.1]
      rfl
    | cons d u =>
      rw [List.cons_append, dropFolded?, dropFolded?]
      split
      · exact ih hname.2
      · rfl

/-- What is left after a name is part of the text, and the characters before it are letters of the name. -/
theorem exists_of_dropFolded? {name u r : Text} (h : dropFolded? name u = some r) :
    ∃ w, u = w ++ r ∧ ∀ d ∈ w, ∃ c ∈ name, sameLetter c d = true := by
  induction name generalizing u with
  | nil => exact ⟨[], (Option.some.inj h), fun d hd => by cases hd⟩
  | cons c name ih =>
    cases u with
    | nil => cases h
    | cons d u =>
      rw [dropFolded?] at h
      split at h
      · rename_i hsame
        obtain ⟨w, rfl, hw⟩ := ih h
        refine ⟨d :: w, rfl, ?_⟩
        intro e he
        rcases List.mem_cons.1 he with rfl | he
        · exact ⟨c, List.mem_cons_self, hsame⟩
        · obtain ⟨c', hc', hsame'⟩ := hw e he
          exact ⟨c', List.mem_cons_of_mem c hc', hsame'⟩
      · cases h

/-- No letter of the name of a raw element is a mark of markup, case aside. -/
theorem sameLetter_of_isRawElement {name : Text} (h : isRawElement name = true) {c : Char} (hc : c ∈ name) :
    sameLetter c '>' = false ∧ sameLetter c '<' = false := by
  unfold isRawElement at h
  rw [Bool.or_eq_true, beq_iff_eq, beq_iff_eq] at h
  have hall : (("script" : Text) ++ "style").all (fun c => !sameLetter c '>' && !sameLetter c '<') = true := by decide +kernel
  have hmem : c ∈ ("script" : Text) ++ "style" := by
    rw [List.mem_append]
    rcases h with rfl | rfl
    · exact .inl hc
    · exact .inr hc
  simpa using List.all_eq_true.1 hall c hmem

theorem dropClosing?_eq (name t : Text) : dropClosing? name t =
    (dropPrefix? "</" t).bind fun r => (dropFolded? name (r.dropWhile isBlank)).bind afterBlanks? := by
  unfold dropClosing?
  split
  · rename_i h
    rw [h]
    rfl
  · rename_i r h
    rw [h, Option.bind_some]
    split
    · rename_i h'
      rw [h']
      rfl
    · rename_i s h'
      rw [h', Option.bind_some]
      rfl

theorem looksClosing_eq (name u : Text) : looksClosing name u =
    ((dropPrefix? "</" u).bind fun r => dropFolded? name (r.dropWhile isBlank)).any (·.all isBlank) := by
  unfold looksClosing
  split
  · rename_i h
    rw [h]
    rfl
  · rename_i r h
    rw [h, Option.bind_some]
    split
    · rename_i h'
      rw [h']
      rfl
    · rename_i s h'
      rw [h']
      rfl

theorem not_mem_of_dropFolded? {name u r : Text} (hu : '>' ∉ u) (h : dropFolded? name u = some r) : '>' ∉ r := by
  obtain ⟨w, rfl, -⟩ := exists_of_dropFolded? h
  exact fun hmem => hu (List.mem_append_right w hmem)

theorem endsAt_closing {name : Text} (h : isRawElement name = true) : EndsAt (dropClosing? name) (looksClosing name) where
  append := by
    intro u hu v
    have hname : ∀ c ∈ name, sameLetter c '>' = false := fun c hc => (sameLetter_of_isRawElement h hc).1
    rw [dropClosing?_eq, looksClosing_eq, dropPrefix?_append_end (by decide)]
    cases hr : dropPrefix? "</" u with
    | none => rfl
    | some r =>
      rw [Option.map_some, Option.bind_some, Option.bind_some, dropWhile_append_end rfl, dropFolded?_append_end hname]
      cases hs : dropFolded? name (r.dropWhile isBlank) with
      | none => rfl
      | some s => exact endsAt_blanks.append (not_mem_of_dropFolded? (not_mem_dropWhile (not_mem_of_dropPrefix? hu hr)) hs) v
  none := by
    intro t ht
    rw [dropClosing?_eq]
    cases hr : dropPrefix? "</" t with
    | none => rfl
    | some r =>
      rw [Option.bind_some]
      cases hs : dropFolded? name (r.dropWhile isBlank) with
      | none => rfl
      | some s => exact endsAt_blanks.none (not_mem_of_dropFolded? (not_mem_dropWhile (not_mem_of_dropPrefix? ht hr)) hs)

/-- The plain end tag that a text behind its mark begins with. -/
def plainEndTagAfter? (t : Text) : Option (Text × Text) :=
  match t.dropWhile isBlank with
  | [] => none
  | c :: body =>
    if isLetter c then (afterBlanks? (body.dropWhile inPlainName)).map fun rest => (lower (c :: body.takeWhile inPlainName), rest)
    else none

theorem takePlainEndTag?_eq (t : Text) : takePlainEndTag? t = (dropPrefix? "</" t).bind plainEndTagAfter? := by
  unfold takePlainEndTag?
  split
  · rename_i h
    rw [h]
    rfl
  · rename_i r h
    rw [h, Option.bind_some, plainEndTagAfter?]
    generalize r.dropWhile isBlank = s
    cases s with
    | nil => rfl
    | cons c body =>
      dsimp only
      cases isLetter c with
      | false => rfl
      | true =>
        rw [if_pos rfl, if_pos rfl]
        split
        · rename_i rest hrest
          have hsome : afterBlanks? (body.dropWhile inPlainName) = some rest := by
            simp only [afterBlanks?, hrest]
          rw [hsome, Option.map_some]
        · rename_i hnot
          have hnone : afterBlanks? (body.dropWhile inPlainName) = none := by
            unfold afterBlanks?
            split
            · rename_i rest hrest
              exact absurd hrest (hnot rest)
            · rfl
          rw [hnone, Option.map_none]

theorem plainEndTagAfter?_append {r : Text} (hr : '>' ∉ r) (v : Text) :
    plainEndTagAfter? (r ++ '>' :: v) = (plainName? r).map fun name => (name, v) := by
  unfold plainEndTagAfter? plainName?
  rw [dropWhile_append_end rfl]
  have hclosed := not_mem_dropWhile (p := isBlank) hr
  cases hs : r.dropWhile isBlank with
  | nil => rfl
  | cons c body =>
    have hbody : '>' ∉ body.dropWhile inPlainName := not_mem_dropWhile (List.not_mem_of_not_mem_cons (hs ▸ hclosed))
    simp only [List.cons_append, dropWhile_append_end (p := inPlainName) rfl, takeWhile_append_end (p := inPlainName) rfl,
      endsAt_blanks.append hbody]
    cases isLetter c with
    | false => rfl
    | true => cases (body.dropWhile inPlainName).all isBlank <;> rfl

/-- Whether a text begins with a plain end tag is told from what stands before its first `>`. -/
theorem takePlainEndTag?_append {u : Text} (hu : '>' ∉ u) (v : Text) :
    takePlainEndTag? (u ++ '>' :: v) = (plainEndName? u).map fun name => (name, v) := by
  rw [takePlainEndTag?_eq, dropPrefix?_append_end (by decide), plainEndName?]
  cases hr : dropPrefix? "</" u with
  | none => rfl
  | some r => exact plainEndTagAfter?_append (not_mem_of_dropPrefix? hu hr) v

/-! ## The content of a raw element -/

/-- What stands behind the first mark of what looks like an end tag holds no other. -/
theorem exists_of_looksClosing {name u : Text} (hname : isRawElement name = true) (h : looksClosing name u = true) :
    ∃ w, u = '<' :: '/' :: w ∧ '<' ∉ w := by
  rw [looksClosing_eq] at h
  obtain ⟨s, hs, hblank⟩ := (Option.any_eq_true _ _).1 h
  obtain ⟨r, hr, hfolded⟩ := Option.bind_eq_some_iff.1 hs
  obtain ⟨w, hw, hletters⟩ := exists_of_dropFolded? hfolded
  refine ⟨r, dropPrefix?_eq_some_iff.1 hr, ?_⟩
  rw [← List.takeWhile_append_dropWhile (p := isBlank) (l := r), hw, List.mem_append, List.mem_append]
  rintro (hmem | hmem | hmem)
  · exact absurd (List.all_eq_true.1 List.all_takeWhile _ hmem) (by decide)
  · obtain ⟨c, hc, hsame⟩ := hletters _ hmem
    rw [(sameLetter_of_isRawElement hname hc).2] at hsame
    cases hsame
  · exact absurd (List.all_eq_true.1 hblank _ hmem) (by decide)

/-- No end tag begins within what looks like one. -/
theorem looksClosing_suffix {name a u : Text} (hname : isRawElement name = true) (ha : a ≠ []) (h : looksClosing name (a ++ u) = true) :
    looksClosing name u = false := by
  apply eq_false_of_ne_true
  intro hu
  obtain ⟨w, hw, hnot⟩ := exists_of_looksClosing hname h
  obtain ⟨w', rfl, -⟩ := exists_of_looksClosing hname hu
  obtain ⟨c, a, rfl⟩ := List.exists_cons_of_ne_nil ha
  have hmem : '<' ∈ '/' :: w := by
    rw [← (List.cons.inj hw).2]
    exact List.mem_append_right a List.mem_cons_self
  rcases List.mem_cons.1 hmem with h | h
  · exact absurd h (by decide)
  · exact hnot h

/-- The end tag of a raw element as it is written. -/
theorem tight_looksClosing {name : Text} (hname : isRawElement name = true) : Tight (looksClosing name) ("</" ++ name) := by
  have hclosed : looksClosing name ("</" ++ name) = true ∧ '>' ∉ ("</" : Text) ++ name := by
    have hraw := hname
    unfold isRawElement at hraw
    rw [Bool.or_eq_true, beq_iff_eq, beq_iff_eq] at hraw
    rcases hraw with rfl | rfl <;> decide +kernel
  refine ⟨hclosed.1, hclosed.2, ?_⟩
  intro s hs
  apply eq_false_of_ne_true
  intro h
  rw [looksClosing_suffix hname hs h] at hclosed
  cases hclosed.1

theorem closes_self {name : Text} (hname : isRawElement name = true) : closes name ("</" ++ name) = true := by
  unfold isRawElement at hname
  rw [Bool.or_eq_true, beq_iff_eq, beq_iff_eq] at hname
  rcases hname with rfl | rfl <;> decide +kernel

theorem Unbroken.closes {name t : Text} (h : Unbroken (looksClosing name) t) : Unbroken (Markup.closes name) t := by
  intro a u v ht hu
  unfold Markup.closes
  rw [h a u v ht hu]
  rfl

/-- A text up to its only `>` falls apart in one way. -/
theorem eq_of_append_end {u y v : Text} (hu : '>' ∉ u) (h : u ++ ['>'] = y ++ '>' :: v) : u = y ∧ v = [] := by
  rcases List.append_eq_append_iff.1 h with ⟨a, rfl, ha⟩ | ⟨a, rfl, ha⟩
  · cases a with
    | nil => exact ⟨(List.append_nil u).symm, (List.cons.inj ha).2.symm⟩
    | cons c a =>
      have hlength := congrArg List.length ha
      simp at hlength
  · cases a with
    | nil => exact ⟨List.append_nil y, (List.cons.inj ha).2⟩
    | cons c a =>
      obtain ⟨rfl, -⟩ := List.cons.inj ha
      exact absurd (List.mem_append_right y List.mem_cons_self) hu

/-- Content up to what looks like the end tag and is none holds no end tag, and the next one does not begin in it. -/
theorem unbroken_of_fake {name c u : Text} (hname : isRawElement name = true) (hc : Clear (looksClosing name) c (u ++ ['>'])) (hu : '>' ∉ u)
    (hlooks : looksClosing name u = true) (hfake : closes name u = false) : Unbroken (closes name) (c ++ (u ++ ['>'])) := by
  intro a x v heq hx
  by_cases hlt : a.length < c.length
  · unfold closes
    rw [hc a x v heq hx hlt]
    rfl
  · -- The ending would begin in the fake itself: it is the fake, or there is none.
    obtain ⟨b, rfl⟩ : ∃ b, a = c ++ b := by
      rcases List.append_eq_append_iff.1 heq with ⟨b, hb, -⟩ | ⟨b, hb, -⟩
      · exact ⟨b, hb⟩
      · have hlength := congrArg List.length hb
        rw [List.length_append] at hlength
        obtain rfl : b = [] := List.eq_nil_of_length_eq_zero (by omega)
        exact ⟨[], by rw [hb]; simp⟩
    have hrest : u ++ ['>'] = b ++ (x ++ '>' :: v) := by
      rw [List.append_assoc] at heq
      exact List.append_cancel_left heq
    obtain ⟨rfl, rfl⟩ := eq_of_append_end hu (hrest.trans (List.append_assoc b x _).symm)
    cases b with
    | nil => exact hfake
    | cons d b =>
      unfold closes
      rw [looksClosing_suffix hname (List.cons_ne_nil d b) hlooks]
      rfl

end Flashcards.Markup

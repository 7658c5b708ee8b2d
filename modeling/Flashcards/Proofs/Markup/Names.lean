import Flashcards.Markup.Lexer
import Flashcards.Proofs.Text.Lowering

/-!
# Names in tags

The names in a start tag are put into lower case when it is read. Then they are names that are read again as they are written, those of
elements (`TagName`) and those of attributes (`AttributeName`).
-/

namespace Flashcards.Markup

open Text

/-- A name of an element that is read as it is written. -/
structure TagName (name : Text) : Prop where
  begins : ∃ c cs, name = c :: cs ∧ isLetter c = true
  inside : ∀ c ∈ name, endsTagName c = false
  lower : Text.lower name = name

/-- A name of an attribute that is read as it is written. -/
structure AttributeName (name : Text) : Prop where
  begins : ∃ c cs, name = c :: cs ∧ beginsAttribute c = true ∧ ∀ d ∈ cs, inAttributeName d = true
  lower : Text.lower name = name

/-! ## Letters in lower case -/

theorem endsTagName_of_lowered {c : Char} (h : Lowered c) : endsTagName c = false := by
  have habove := h.above
  simp only [endsTagName, Bool.or_eq_false_iff, beq_eq_false_iff_ne]
  refine ⟨⟨⟨⟨⟨⟨⟨?_, ?_⟩, ?_⟩, ?_⟩, ?_⟩, ?_⟩, ?_⟩, ?_⟩ <;> (rintro rfl; exact absurd habove (by decide))

theorem inAttributeName_of_lowered {c : Char} (h : Lowered c) : inAttributeName c = true := by
  have habove := h.above
  simp only [inAttributeName, Bool.not_eq_true', Bool.or_eq_false_iff, beq_eq_false_iff_ne]
  refine ⟨⟨⟨h.not_blank, ?_⟩, ?_⟩, ?_⟩ <;> (rintro rfl; exact absurd habove (by decide))

theorem beginsAttribute_of_inAttributeName {c : Char} (h : inAttributeName c = true) : beginsAttribute c = true := by
  simp only [inAttributeName, beginsAttribute, Bool.not_eq_true', Bool.or_eq_false_iff] at h ⊢
  exact ⟨h.1.1, h.2⟩

/-- What a name in lower case begins with, and what follows. -/
theorem exists_lower_of_cons (c : Char) (t : Text) : ∃ d u, lower (c :: t) = d :: u ∧ (d = c ∨ Lowered d) ∧ ∀ e ∈ u, e ∈ t ∨ Lowered e := by
  have hrest : ∀ e ∈ lowerAfter [c] t, e ∈ t ∨ Lowered e := by
    intro e he
    rcases mem_lowerAfter he with ⟨hmem, -⟩ | hlowered
    · exact .inl hmem
    · exact .inr hlowered
  unfold lower lowerAfter
  split
  · refine ⟨_, _, rfl, .inr ?_, hrest⟩
    split
    · exact lowered_finalSigma
    · exact lowered_sigma
  · split
    · refine ⟨_, _, rfl, .inr lowered_i, ?_⟩
      intro e he
      rcases List.mem_cons.1 he with rfl | he
      · exact .inr lowered_dot
      · exact hrest e he
    · exact ⟨_, _, rfl, lowerChar_eq_or c, hrest⟩

/-! ## Names that are read -/

theorem tagName_lower {c : Char} (hc : isLetter c = true) {t : Text} (ht : ∀ d ∈ c :: t, endsTagName d = false) :
    TagName (lower (c :: t)) where
  begins := by
    obtain ⟨d, u, hlower, hd⟩ := exists_lower_cons hc t
    exact ⟨d, u, hlower, hd⟩
  inside := by
    intro d hd
    rcases mem_lowerAfter hd with ⟨hmem, -⟩ | hlowered
    · exact ht d hmem
    · exact endsTagName_of_lowered hlowered
  lower := lower_lower _

theorem attributeName_lower {c : Char} (hc : beginsAttribute c = true) {t : Text} (ht : ∀ d ∈ t, inAttributeName d = true) :
    AttributeName (lower (c :: t)) where
  begins := by
    obtain ⟨d, u, hlower, hd, hu⟩ := exists_lower_of_cons c t
    refine ⟨d, u, hlower, ?_, ?_⟩
    · rcases hd with rfl | hlowered
      · exact hc
      · exact beginsAttribute_of_inAttributeName (inAttributeName_of_lowered hlowered)
    · intro e he
      rcases hu e he with hmem | hlowered
      · exact ht e hmem
      · exact inAttributeName_of_lowered hlowered
  lower := lower_lower _

theorem attributeName_of_takeAttribute? {t rest : Text} {found : Text × Text} {mayFollow : Bool}
    (h : takeAttribute? t = some (found, mayFollow, rest)) : AttributeName found.1 := by
  unfold takeAttribute? at h
  split at h
  · cases h
  · rename_i c body
    split at h
    · cases h
    · rename_i hc
      have hname : AttributeName (lower (c :: body.takeWhile inAttributeName)) :=
        attributeName_lower (by simpa using hc) (List.all_eq_true.1 List.all_takeWhile)
      dsimp only at h
      split at h
      · obtain ⟨rfl, -⟩ := Prod.mk.inj (Option.some.inj h)
        exact hname
      · obtain ⟨rfl, -⟩ := Prod.mk.inj (Option.some.inj h)
        exact hname

theorem attributeName_of_mem_takeAttributes {mayBegin : Bool} {t : Text} {a : Text × Text} (h : a ∈ (takeAttributes mayBegin t).1) :
    AttributeName a.1 := by
  fun_induction takeAttributes mayBegin t with
  | case1 t found mayFollow rest hfound hlt others rest' hothers ih =>
    rcases List.mem_cons.1 h with rfl | h
    · exact attributeName_of_takeAttribute? hfound
    · exact ih (by rw [hothers]; exact h)
  | case2 t found mayFollow rest hfound hlt =>
    rw [List.mem_singleton.1 h]
    exact attributeName_of_takeAttribute? hfound
  | case3 => cases h

/-- Resolving values leaves the names. -/
theorem exists_of_mem_resolveValues {found attributes : RawAttributes} (h : resolveValues found = .ok attributes) {a : Text × Text}
    (ha : a ∈ attributes) : ∃ b ∈ found, b.1 = a.1 := by
  unfold resolveValues at h
  induction found generalizing attributes with
  | nil =>
    obtain rfl := Except.ok.inj h
    cases ha
  | cons b found ih =>
    rw [List.mapM_cons] at h
    cases hb : Entity.resolve b.2 with
    | error excess => rw [hb] at h; cases h
    | ok value =>
      rw [hb] at h
      cases hrest : found.mapM (fun a => (Entity.resolve a.2).map fun value => (a.1, value)) with
      | error excess => rw [hrest] at h; cases h
      | ok others =>
        rw [hrest] at h
        obtain rfl : (b.1, value) :: others = attributes := Except.ok.inj h
        rcases List.mem_cons.1 ha with rfl | ha
        · exact ⟨b, List.mem_cons_self, rfl⟩
        · obtain ⟨b', hb', heq⟩ := ih hrest ha
          exact ⟨b', List.mem_cons_of_mem b hb', heq⟩

theorem endsTagName_of_isLetter {c : Char} (h : isLetter c = true) : endsTagName c = false := by
  have hletter := isLetter_iff.1 h
  simp only [endsTagName, Bool.or_eq_false_iff, beq_eq_false_iff_ne]
  refine ⟨⟨⟨⟨⟨⟨⟨?_, ?_⟩, ?_⟩, ?_⟩, ?_⟩, ?_⟩, ?_⟩, ?_⟩ <;> (rintro rfl; exact absurd hletter (by decide))

theorem tagName_of_takeTagName {c : Char} (hc : isLetter c = true) (body : Text) : TagName (lower (takeTagName (c :: body)).1) := by
  have hends := endsTagName_of_isLetter hc
  have htake : (takeTagName (c :: body)).1 = c :: body.takeWhile (!endsTagName ·) := by
    exact List.takeWhile_cons_of_pos (p := fun d => !endsTagName d) (by rw [hends]; rfl)
  rw [htake]
  refine tagName_lower hc ?_
  intro d hd
  rcases List.mem_cons.1 hd with rfl | hd
  · exact hends
  · simpa using List.all_eq_true.1 List.all_takeWhile d hd

theorem exists_of_map_eq_ok {ε α β : Type} {x : Except ε α} {f : α → β} {b : β} (h : x.map f = .ok b) : ∃ a, x = .ok a ∧ f a = b := by
  cases x with
  | error e => cases h
  | ok a => exact ⟨a, rfl, Except.ok.inj h⟩

theorem eq_ok_of_mapError {ε δ α : Type} {x : Except ε α} {f : ε → δ} {a : α} (h : x.mapError f = .ok a) : x = .ok a := by
  cases x with
  | error e => cases h
  | ok b => rw [Except.ok.inj h]

theorem eq_ok_of_toOption {ε α : Type} {x : Except ε α} {a : α} (h : x.toOption = some a) : x = .ok a := by
  cases x with
  | error e => cases h
  | ok b => rw [Option.some.inj h]

/-- The names in a tag are read as they are written. -/
def NamesLegible (name : Text) (attributes : RawAttributes) : Prop := TagName name ∧ ∀ a ∈ attributes, AttributeName a.1

/-- What is read as a start tag is a token with such names. -/
theorem names_of_takeStartTag {c : Char} (hc : isLetter c = true) {body rest : Text} {token : Token}
    (h : takeStartTag ('<' :: c :: body) = .ok (.closed token rest)) :
    ∃ name attributes, (token = .startTag name attributes ∨ token = .emptyTag name attributes) ∧ NamesLegible name attributes := by
  have hclosed : ∀ {make : Text → RawAttributes → Token} {mayBegin : Bool} {start rest' : Text},
      (∀ name as, make name as = .startTag name as ∨ make name as = .emptyTag name as) →
      (resolveValues (takeAttributes mayBegin start).1).map
        (fun attributes => TagEnd.closed (make (lower (takeTagName (c :: body)).1) attributes) rest') = .ok (.closed token rest) →
      ∃ name attributes, (token = .startTag name attributes ∨ token = .emptyTag name attributes) ∧ NamesLegible name attributes := by
    intro make mayBegin start rest' hmake h
    obtain ⟨attributes, hresolve, hclosed⟩ := exists_of_map_eq_ok h
    obtain ⟨rfl, -⟩ := TagEnd.closed.inj hclosed
    refine ⟨_, attributes, hmake _ _, tagName_of_takeTagName hc body, ?_⟩
    intro a ha
    obtain ⟨b, hb, hname⟩ := exists_of_mem_resolveValues hresolve ha
    exact hname ▸ attributeName_of_mem_takeAttributes hb
  unfold takeStartTag at h
  dsimp only at h
  split at h
  · cases h
  · exact hclosed (fun _ _ => .inl rfl) h
  · exact hclosed (fun _ _ => .inr rfl) h
  · split at h
    · cases h
    · obtain ⟨attributes, -, hbroken⟩ := exists_of_map_eq_ok h
      cases hbroken

end Flashcards.Markup

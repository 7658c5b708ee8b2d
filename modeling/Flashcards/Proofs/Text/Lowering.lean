import Flashcards.Text.Blank
import Flashcards.Text.Case
import Flashcards.Text.Numeral

/-!
# Lower case forms

The lower case form of a capital is a letter that has no other lower case form, and lies above the ASCII capitals and all blanks
(`lowerChar_eq_or`). So a text in lower case is its own lower case form (`lower_lower`).

That no capital comes to a capital is found out run by run: the lower case forms of a run lie between two code points, and no run of
capitals meets them, or only in the gaps between its letters (`CaseRun.misses`).
-/

namespace Flashcards.Text

/-! ## The runs of capitals -/

namespace CaseRun

/-- The code point of the first lower case form of a run. -/
def low (r : CaseRun) : Nat := Int.toNat (r.first + r.offset)

/-- The code point of the last lower case form of a run. -/
def high (r : CaseRun) : Nat := Int.toNat (r.last + r.offset)

/-- Whether runs of capitals hold no code point between two bounds that is at an even distance from the lower one, or none at all. -/
def misses (low high : Nat) (sparse : Bool) : List CaseRun → Bool
  | [] => true
  | r :: rs =>
    if high < r.first then true
    else if r.last < low then misses low high sparse rs
    else r.step == 2 && sparse && (low + r.first) % 2 == 1 && misses low high sparse rs

/-- Whether the lower case forms of a run are characters above the ASCII capitals, none of them a capital or a blank. -/
def lands (r : CaseRun) : Bool :=
  decide (0 ≤ r.first + r.offset) && decide (0x60 < r.low) && (decide (r.high < 0xD800) || decide (0xDFFF < r.low)) &&
    decide (r.high < 0x110000) && misses r.low r.high (r.step == 2 || r.low == r.high) capitals &&
    ([0x85, 0xA0, 0x130, 0x3A3, 0x1680, 0x2028, 0x2029, 0x202F, 0x205F, 0x3000] : List Nat).all
      (fun n => decide (n < r.low) || decide (r.high < n)) &&
    (decide (r.high < 0x2000) || decide (0x200A < r.low))

end CaseRun

open CaseRun

theorem capitals_land : capitals.all lands = true := by decide +kernel

/-- A letter is its own lower case form, or stands in a run of capitals and comes to the letter at the offset of the run. -/
theorem lowerIn_cases (rs : List CaseRun) (c : Char) : lowerIn rs c = c ∨ ∃ r ∈ rs, r.first ≤ c.toNat ∧ c.toNat ≤ r.last ∧
    (c.toNat - r.first) % r.step = 0 ∧ lowerIn rs c = Char.ofNat (Int.toNat (c.toNat + r.offset)) := by
  induction rs with
  | nil => exact .inl rfl
  | cons r rs ih =>
    have hrest : lowerIn rs c = c ∨ ∃ r' ∈ r :: rs, r'.first ≤ c.toNat ∧ c.toNat ≤ r'.last ∧
        (c.toNat - r'.first) % r'.step = 0 ∧ lowerIn rs c = Char.ofNat (Int.toNat (c.toNat + r'.offset)) := by
      rcases ih with hself | ⟨r', hr', hin⟩
      · exact .inl hself
      · exact .inr ⟨r', List.mem_cons_of_mem r hr', hin⟩
    unfold lowerIn
    split
    · exact .inl rfl
    · rename_i hfirst
      split
      · rename_i hlast
        split
        · rename_i hstep
          exact .inr ⟨r, List.mem_cons_self, Nat.le_of_not_lt hfirst, hlast, hstep, rfl⟩
        · exact hrest
      · exact hrest

/-- A letter whose code point the runs miss is its own lower case form. -/
theorem lowerIn_of_misses {rs : List CaseRun} {low high : Nat} {sparse : Bool} (h : misses low high sparse rs = true) {c : Char}
    (hlow : low ≤ c.toNat) (hhigh : c.toNat ≤ high) (hsparse : sparse = true → (c.toNat - low) % 2 = 0) : lowerIn rs c = c := by
  induction rs with
  | nil => rfl
  | cons r rs ih =>
    unfold misses at h
    unfold lowerIn
    split
    · rfl
    · rename_i hfirst
      rw [if_neg (by omega)] at h
      split at h
      · rename_i hlast
        rw [if_neg (by omega)]
        exact ih h
      · simp only [Bool.and_eq_true, beq_iff_eq] at h
        obtain ⟨⟨⟨hstep, hs⟩, hodd⟩, hrest⟩ := h
        have heven := hsparse hs
        split
        · rw [if_neg (by rw [hstep]; omega)]
          exact ih hrest
        · exact ih hrest

/-! ## Lower case letters -/

/-- A letter that a capital may come to: it is its own lower case form, and lies above the ASCII capitals and all blanks. -/
structure Lowered (c : Char) : Prop where
  lowerChar_eq : lowerChar c = c
  ne_sigma : c ≠ 'Σ'
  ne_dotted : c ≠ 'İ'
  not_blank : isBlank c = false
  above : 0x60 < c.toNat

theorem toNat_ofNat {n : Nat} (h : n < 0xD800 ∨ 0xDFFF < n ∧ n < 0x110000) : (Char.ofNat n).toNat = n := by
  rw [Char.ofNat, dif_pos h]
  rfl

/-- The lower case form of a letter is the letter itself, or has no other lower case form. -/
theorem lowerChar_eq_or (c : Char) : lowerChar c = c ∨ Lowered (lowerChar c) := by
  unfold lowerChar
  rcases lowerIn_cases capitals c with hself | ⟨r, hr, hfirst, hlast, hstep, hoffset⟩
  · exact .inl hself
  · right
    have hlands := List.all_eq_true.1 capitals_land r hr
    simp only [lands, Bool.and_eq_true, Bool.or_eq_true, decide_eq_true_eq, List.all_cons, List.all_nil, and_true] at hlands
    obtain ⟨⟨⟨⟨⟨⟨hnonneg, habove⟩, hvalid⟩, hbound⟩, hmisses⟩, hlist⟩, hblanks⟩ := hlands
    have hlow : r.low ≤ Int.toNat (c.toNat + r.offset) := by unfold low; omega
    have hhigh : Int.toNat (c.toNat + r.offset) ≤ r.high := by unfold high; omega
    have hn : (lowerIn capitals c).toNat = Int.toNat (c.toNat + r.offset) := by
      rw [hoffset, toNat_ofNat (by omega)]
    rw [← hn] at hlow hhigh
    have hne : ∀ {d : Char}, d.toNat < r.low ∨ r.high < d.toNat → lowerIn capitals c ≠ d := by
      rintro d hd rfl
      omega
    have hsparse : (r.step == 2 || r.low == r.high) = true → ((lowerIn capitals c).toNat - r.low) % 2 = 0 := by
      intro h
      rw [Bool.or_eq_true, beq_iff_eq, beq_iff_eq] at h
      rcases h with h | h
      · rw [h] at hstep
        unfold low
        omega
      · omega
    refine ⟨lowerIn_of_misses hmisses hlow hhigh hsparse, hne hlist.2.2.2.1, hne hlist.2.2.1, ?_, by omega⟩
    simp only [isBlank, Bool.or_eq_false_iff, Bool.and_eq_false_iff, decide_eq_false_iff_not, beq_eq_false_iff_ne]
    omega

/-- A character that stays as it is when a text is put into lower case. -/
structure Still (c : Char) : Prop where
  lowerChar_eq : lowerChar c = c
  ne_sigma : c ≠ 'Σ'
  ne_dotted : c ≠ 'İ'

theorem Lowered.still {c : Char} (h : Lowered c) : Still c := ⟨h.lowerChar_eq, h.ne_sigma, h.ne_dotted⟩

theorem lowered_sigma : Lowered 'σ' := ⟨by decide +kernel, by decide, by decide, by decide, by decide⟩

theorem lowered_finalSigma : Lowered 'ς' := ⟨by decide +kernel, by decide, by decide, by decide, by decide⟩

theorem lowered_i : Lowered 'i' := ⟨by decide +kernel, by decide, by decide, by decide, by decide⟩

theorem lowered_dot : Lowered '\u0307' := ⟨by decide +kernel, by decide, by decide, by decide, by decide⟩

/-- What is in a text in lower case was in the text, or is a letter that a capital has come to. -/
theorem mem_lowerAfter {seen t : Text} {d : Char} (h : d ∈ lowerAfter seen t) : d ∈ t ∧ Still d ∨ Lowered d := by
  induction t generalizing seen with
  | nil => cases h
  | cons c t ih =>
    rw [lowerAfter, List.mem_append] at h
    rcases h with h | h
    · split at h
      · rw [List.mem_singleton.1 h]
        split
        · exact .inr lowered_finalSigma
        · exact .inr lowered_sigma
      · rename_i hsigma
        split at h
        · rcases List.mem_cons.1 h with rfl | h
          · exact .inr lowered_i
          · rw [List.mem_singleton.1 h]
            exact .inr lowered_dot
        · rename_i hdotted
          rw [List.mem_singleton.1 h]
          rcases lowerChar_eq_or c with hself | hlowered
          · rw [hself]
            exact .inl ⟨List.mem_cons_self, hself, hsigma, hdotted⟩
          · exact .inr hlowered
    · rcases ih h with ⟨hmem, hstill⟩ | hlowered
      · exact .inl ⟨List.mem_cons_of_mem c hmem, hstill⟩
      · exact .inr hlowered

/-- A text of characters that stay is its own lower case form. -/
theorem lowerAfter_of_still {t : Text} (h : ∀ c ∈ t, Still c) (seen : Text) : lowerAfter seen t = t := by
  induction t generalizing seen with
  | nil => rfl
  | cons c t ih =>
    rw [List.forall_mem_cons] at h
    rw [lowerAfter, if_neg h.1.ne_sigma, if_neg h.1.ne_dotted, h.1.lowerChar_eq, ih h.2]
    rfl

/-- A text in lower case is its own lower case form. -/
theorem lower_lower (t : Text) : lower (lower t) = lower t := by
  apply lowerAfter_of_still
  intro c hc
  rcases mem_lowerAfter hc with ⟨-, hstill⟩ | hlowered
  · exact hstill
  · exact hlowered.still

/-! ## ASCII letters -/

theorem isLetter_iff {c : Char} : isLetter c = true ↔ 97 ≤ c.toNat ∧ c.toNat ≤ 122 ∨ 65 ≤ c.toNat ∧ c.toNat ≤ 90 := by
  unfold isLetter
  simp only [Bool.or_eq_true, Bool.and_eq_true, decide_eq_true_eq, Char.le_def, UInt32.le_iff_toNat_le]
  exact Iff.rfl

/-- An ASCII letter comes to an ASCII letter. -/
theorem isLetter_lowerChar {c : Char} (h : isLetter c = true) : isLetter (lowerChar c) = true := by
  rw [isLetter_iff] at h ⊢
  unfold lowerChar capitals lowerIn
  rw [if_neg (by show ¬c.toNat < 65; omega)]
  split
  · rename_i hlast
    have hlast : c.toNat ≤ 90 := hlast
    rw [if_pos (Nat.mod_one _), toNat_ofNat (by show Int.toNat (c.toNat + 32) < 0xD800 ∨ _; omega)]
    show 97 ≤ Int.toNat (c.toNat + 32) ∧ Int.toNat (c.toNat + 32) ≤ 122 ∨ _
    omega
  · unfold lowerIn
    rw [if_pos (by show c.toNat < 192; omega)]
    exact h

/-- A name that begins with an ASCII letter still does in lower case. -/
theorem exists_lower_cons {c : Char} (h : isLetter c = true) (t : Text) : ∃ d u, lower (c :: t) = d :: u ∧ isLetter d = true := by
  have hsigma : c ≠ 'Σ' := by
    rintro rfl
    cases h
  have hdotted : c ≠ 'İ' := by
    rintro rfl
    cases h
  refine ⟨lowerChar c, lowerAfter [c] t, ?_, isLetter_lowerChar h⟩
  rw [lower, lowerAfter, if_neg hsigma, if_neg hdotted]
  rfl

end Flashcards.Text

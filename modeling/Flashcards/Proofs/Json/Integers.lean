import Flashcards.Json.Plain
import Flashcards.Proofs.Json.Values

/-!
# Integers in JSON

An integer may be given as one, in decimal, or as a string of its decimal (`Json.Writes`). Both are read as what they write, wherever they stand and
whatever blanks are around them, as long as the digits are not too many (`Json.Writes.readWhole`); and both have the same plain text.
-/

namespace Flashcards

open Text

namespace Text

/-! ## Decimals -/

theorem isDigit_of_mem_ofNat {n : Nat} {c : Char} (h : c ∈ ofNat n) : isDigit c = true := by
  have hdigit := Nat.isDigit_of_mem_toDigits (by decide) (by decide) h
  rw [Char.isDigit, Bool.and_eq_true, decide_eq_true_iff, decide_eq_true_iff] at hdigit
  rw [isDigit, Bool.and_eq_true, decide_eq_true_iff, decide_eq_true_iff]
  exact hdigit

/-- A decimal has the value that it was written for. -/
theorem decimalValue_ofNat (n : Nat) : decimalValue (ofNat n) = n := Nat.ofDigitChars_toDigits (by decide) (by decide)

/-- A number other than zero does not begin with a zero. -/
theorem head?_ofNat {n : Nat} (h : 0 < n) : (ofNat n).head? ≠ some '0' := by
  induction n using Nat.strongRecOn with
  | ind n ih =>
    rw [ofNat, Nat.toDigits_eq_if (by decide)]
    split
    · rename_i hlt
      have hdigit : ∀ d < 10, 0 < d → Nat.digitChar d ≠ '0' := by decide
      simpa using hdigit n hlt h
    · rename_i hge
      have hne : Nat.toDigits 10 (n / 10) ≠ [] := Nat.toDigits_ne_nil
      obtain ⟨c, ds, hds⟩ := List.exists_cons_of_ne_nil hne
      have hrest := ih (n / 10) (by omega) (by omega)
      rw [ofNat, hds] at hrest
      rw [hds]
      exact hrest

/-- An integer is written with a digit, or with a minus sign before one. -/
theorem exists_ofInt_eq (n : Int) : ∃ d ds, isDigit d = true ∧ (∀ c ∈ ds, isDigit c = true) ∧ (ofInt n = d :: ds ∨ ofInt n = '-' :: d :: ds) := by
  have hdigits : ∀ m : Nat, ∃ d ds, ofNat m = d :: ds ∧ isDigit d = true ∧ ∀ c ∈ ds, isDigit c = true := by
    intro m
    have hne : ofNat m ≠ [] := Nat.toDigits_ne_nil
    obtain ⟨d, ds, hds⟩ := List.exists_cons_of_ne_nil hne
    exact ⟨d, ds, hds, isDigit_of_mem_ofNat (hds ▸ List.mem_cons_self), fun c hc => isDigit_of_mem_ofNat (hds ▸ List.mem_cons_of_mem _ hc)⟩
  cases n with
  | ofNat m =>
    obtain ⟨d, ds, hds, hd, hall⟩ := hdigits m
    exact ⟨d, ds, hd, hall, .inl hds⟩
  | negSucc m =>
    obtain ⟨d, ds, hds, hd, hall⟩ := hdigits (m + 1)
    exact ⟨d, ds, hd, hall, .inr (congrArg _ hds)⟩

theorem ofInt_ne_nil (n : Int) : ofInt n ≠ [] := by
  obtain ⟨d, ds, -, -, h | h⟩ := exists_ofInt_eq n
  · exact h ▸ List.cons_ne_nil _ _
  · exact h ▸ List.cons_ne_nil _ _

end Text

namespace Json

/-! ## Integers -/

theorem isWhole_ofNat (n : Nat) : IsWhole (ofNat n) := by
  refine ⟨Nat.toDigits_ne_nil, fun c hc => isDigit_of_mem_ofNat hc, fun hzero => ?_⟩
  cases Nat.eq_zero_or_pos n with
  | inl hn =>
    subst hn
    rfl
  | inr hn => exact absurd hzero (head?_ofNat hn)

/-- A decimal says its number, after a sign or without one. -/
theorem magnitude_ofNat {n : Nat} (h : (ofNat n).length ≤ maxDigits) (negative : Bool) :
    Magnitude negative (ofNat n) (.int (if negative then -(n : Int) else n)) [] := by
  have hmagnitude : Magnitude negative _ _ _ := .integer (isWhole_ofNat n)
  rwa [decimalValue_ofNat, if_neg (Nat.not_lt.2 h)] at hmagnitude

/-- An integer says what it is. -/
theorem scalar_ofInt {n : Int} (h : (ofNat n.natAbs).length ≤ maxDigits) : Scalar (ofInt n) (.int n) [] := by
  cases n with
  | ofNat m => exact .number (magnitude_ofNat h false)
  | negSucc m => exact .minus (magnitude_ofNat (n := m + 1) h true)

/-! ## Integers that are given -/

/-- A text gives an integer, as one or as the string of its decimal, and writes this value. -/
inductive Writes (n : Int) : Text → Json → Prop where
  | integer : Writes n (ofInt n) (.int n)
  | string : Writes n ('"' :: (ofInt n ++ ['"'])) (.text (ofInt n))

/-- No character of an integer has to be escaped in a string. -/
theorem spells_ofInt (n : Int) : Spells (ofInt n ++ ['"']) (ofInt n) := by
  have hdigits : ∀ ds : Text, (∀ c ∈ ds, isDigit c = true) → Spells (ds ++ ['"']) ds := by
    intro ds
    induction ds with
    | nil => exact fun _ => .close
    | cons d ds ih =>
      intro h
      rw [List.forall_mem_cons] at h
      obtain ⟨hd, hds⟩ := h
      refine .plain (ne_of_isDigit hd rfl) (ne_of_isDigit hd rfl) ?_ (ih hds)
      rw [isDigit, Bool.and_eq_true, decide_eq_true_iff] at hd
      have hzero : '0'.toNat ≤ d.toNat := hd.1
      exact not_lt_of_ge (le_trans (by decide) hzero)
  obtain ⟨d, ds, hd, hds, h | h⟩ := exists_ofInt_eq n
  · rw [h]
    exact hdigits _ (List.forall_mem_cons.2 ⟨hd, hds⟩)
  · rw [h]
    exact .plain (by decide) (by decide) (by decide) (hdigits _ (List.forall_mem_cons.2 ⟨hd, hds⟩))

/-- What writes an integer says what it writes. -/
theorem Writes.atom {n : Int} (hn : (ofNat n.natAbs).length ≤ maxDigits) {w : Text} {v : Json} (h : Writes n w v) : Atom w v [] := by
  cases h with
  | integer => exact .scalar (scalar_ofInt hn)
  | string => exact .string (spells_ofInt n)

/-- Between blanks, what writes an integer is read as what it writes, in any reading. -/
theorem Writes.readWhole {n : Int} (hn : (ofNat n.natAbs).length ≤ maxDigits) {w : Text} {v : Json} (h : Writes n w v) (constants : Bool)
    {before after : Text} (hbefore : ∀ c ∈ before, isJsonBlank c = true) (hafter : ∀ c ∈ after, isJsonBlank c = true) :
    readWhole constants (before ++ (w ++ after)) = .ok v :=
  readWhole_eq_ok_iff_said.2 ⟨[], ⟨before, w, after, rfl, hbefore, hafter, .atom (h.atom hn)⟩, tolerates_nil constants⟩

end Json

end Flashcards

import Flashcards.Proofs.Json.Grammar
import Flashcards.Proofs.Text.Replacing
import Flashcards.Proofs.Text.Runs

/-!
# Reading numbers and names

The readers of JSON take a text from its beginning and leave the rest. A number is taken as far as it goes, so what says a number is read as that
number unless the text goes on with a digit, a point or a power (`Json.isNumberChar`). The named values are read whatever follows. Of what is in the
grammar a reading refuses integers of too many digits, and perhaps the names of what is no number (`Json.Tolerates`); everything else is read for
what it says (`Json.Scalar.reads`), and nothing else is read (`Json.scalar_of_readScalar`).
-/

namespace Flashcards.Json

open Text

/-- What a reading lets pass of what may be refused: at most the names of what is no number. -/
def Tolerates (constants : Bool) (rs : List Refusal) : Prop := ∀ r ∈ rs, r = .notANumber ∧ constants = true

theorem tolerates_nil (constants : Bool) : Tolerates constants [] := List.forall_mem_nil _

theorem tolerates_append {constants : Bool} {rs rs' : List Refusal} :
    Tolerates constants (rs ++ rs') ↔ Tolerates constants rs ∧ Tolerates constants rs' := List.forall_mem_append

/-- Where the names of what is no number are refused, everything is that may be. -/
theorem tolerates_false {rs : List Refusal} : Tolerates false rs ↔ rs = [] := by
  rw [Tolerates, List.eq_nil_iff_forall_not_mem]
  exact forall_congr' fun r => imp_congr_right fun _ => by simp

/-- A reading gives a result if a condition holds, and none otherwise. -/
def Gives {α : Type} (r : Reading α) (p : Prop) (x : α × Text) : Prop := ∀ y, r = .ok y ↔ p ∧ y = x

theorem gives_ok {α : Type} {p : Prop} (h : p) (x : α × Text) : Gives (.ok x) p x := by
  intro y
  simp [h, eq_comm]

theorem gives_error {α : Type} {p : Prop} (h : ¬p) (e : Stop) (x : α × Text) : Gives (.error e) p x := by
  intro y
  simp [h]

/-! ## Digits -/

/-- A character that may go on with a number. -/
def isNumberChar (c : Char) : Bool := isDigit c || c == '.' || c == 'e' || c == 'E'

theorem isNumberChar_eq_false {c : Char} (h : isNumberChar c = false) : isDigit c = false ∧ (c == '.') = false := by
  simp only [isNumberChar, Bool.or_eq_false_iff] at h
  exact h.1.1

/-- A digit is none of the characters that mean something in JSON besides digits. -/
theorem ne_of_isDigit {c d : Char} (hd : isDigit d = true) (hc : isDigit c = false) : d ≠ c := by
  rintro rfl
  rw [hd] at hc
  cases hc

/-- Digits are taken up to a character that is none. -/
theorem takeDigits_append {ds t : Text} (hds : ∀ c ∈ ds, isDigit c = true) (ht : Ends isDigit t) : takeDigits (ds ++ t) = (ds, t) := by
  rw [takeDigits, takeWhile_append hds ht, dropWhile_append hds ht]

theorem of_takeDigits {t ds rest : Text} (h : takeDigits t = (ds, rest)) :
    t = ds ++ rest ∧ (∀ c ∈ ds, isDigit c = true) ∧ Ends isDigit rest := by
  obtain ⟨rfl, rfl⟩ := Prod.mk.inj h
  exact ⟨List.takeWhile_append_dropWhile.symm, fun c hc => List.mem_takeWhile_imp hc, ends_dropWhile _ _⟩

/-! ## Fractions and powers -/

/-- A fraction is taken up to what does not go on with it. -/
theorem Fraction.take {f ds rest : Text} (h : Fraction f ds) (hrest : Ends isDigit rest) (hpoint : Ends (· == '.') rest) :
    takeFraction (f ++ rest) = (ds, rest) := by
  cases h with
  | none =>
    rw [List.nil_append]
    unfold takeFraction
    split
    · exact absurd (ends_cons.1 hpoint) (by decide)
    · rfl
  | digits hne hds =>
    obtain ⟨d, ds, rfl⟩ := List.exists_cons_of_ne_nil hne
    rw [List.cons_append, takeFraction, takeDigits_append hds hrest]

theorem fraction_of_takeFraction {t ds rest : Text} (h : takeFraction t = (ds, rest)) : ∃ f, t = f ++ rest ∧ Fraction f ds := by
  unfold takeFraction at h
  split at h
  · rename_i t
    cases hd : takeDigits t with
    | mk ds' rest' =>
      rw [hd] at h
      cases ds' with
      | nil =>
        obtain ⟨rfl, rfl⟩ := Prod.mk.inj h
        exact ⟨[], rfl, .none⟩
      | cons d ds' =>
        obtain ⟨rfl, rfl⟩ := Prod.mk.inj h
        obtain ⟨rfl, hdigits, -⟩ := of_takeDigits hd
        exact ⟨'.' :: d :: ds', rfl, .digits (List.cons_ne_nil d ds') hdigits⟩
  · obtain ⟨rfl, rfl⟩ := Prod.mk.inj h
    exact ⟨[], rfl, .none⟩

/-- A sign is taken before digits. -/
theorem Sign.take {sign u : Text} {negative : Bool} {d : Char} (h : Sign sign negative) (hd : isDigit d = true) :
    takeSign (sign ++ d :: u) = (negative, d :: u) := by
  cases h with
  | none =>
    have hne : ∀ c, isDigit c = false → ∀ t, d :: u ≠ c :: t := fun c hc t ht => ne_of_isDigit hd hc (List.cons.inj ht).1
    rw [List.nil_append, takeSign]
    · exact hne '-' rfl
    · exact hne '+' rfl
  | plus => rfl
  | minus => rfl

theorem sign_of_takeSign {t rest : Text} {negative : Bool} (h : takeSign t = (negative, rest)) : ∃ sign, t = sign ++ rest ∧ Sign sign negative := by
  unfold takeSign at h
  split at h
  · obtain ⟨rfl, rfl⟩ := Prod.mk.inj h
    exact ⟨['-'], rfl, .minus⟩
  · obtain ⟨rfl, rfl⟩ := Prod.mk.inj h
    exact ⟨['+'], rfl, .plus⟩
  · obtain ⟨rfl, rfl⟩ := Prod.mk.inj h
    exact ⟨[], rfl, .none⟩

/-- A power is taken up to what does not go on with a number. -/
theorem Power.take {p rest : Text} {power : Option Int} (h : Power p power) (hrest : Ends isNumberChar rest) :
    takePower (p ++ rest) = (power, rest) := by
  cases h with
  | none =>
    cases rest with
    | nil => rfl
    | cons c t =>
      have hc := ends_cons.1 hrest
      simp only [isNumberChar, Bool.or_eq_false_iff, beq_eq_false_iff_ne] at hc
      rw [List.nil_append, takePower, if_neg]
      simp [hc.1.2, hc.2]
  | @digits e sign ds negative he hsign hne hds =>
    obtain ⟨d, ds, rfl⟩ := List.exists_cons_of_ne_nil hne
    have hends : Ends isDigit rest := fun c hc => (isNumberChar_eq_false (hrest c hc)).1
    rw [List.cons_append, List.append_assoc, List.cons_append, takePower, if_pos (by simpa using he), hsign.take (hds d List.mem_cons_self)]
    dsimp only
    rw [← List.cons_append, takeDigits_append hds hends]

theorem power_of_takePower {t rest : Text} {power : Option Int} (h : takePower t = (power, rest)) : ∃ p, t = p ++ rest ∧ Power p power := by
  cases t with
  | nil =>
    obtain ⟨rfl, rfl⟩ := Prod.mk.inj h
    exact ⟨[], rfl, .none⟩
  | cons c t =>
    rw [takePower] at h
    by_cases hc : (c = 'e' || c = 'E') = true
    · rw [if_pos hc] at h
      cases hs : takeSign t with
      | mk negative t' =>
        rw [hs] at h
        obtain ⟨sign, rfl, hsign⟩ := sign_of_takeSign hs
        cases hd : takeDigits t' with
        | mk ds rest' =>
          simp only [hd] at h
          cases ds with
          | nil =>
            obtain ⟨rfl, rfl⟩ := Prod.mk.inj h
            exact ⟨[], rfl, .none⟩
          | cons d ds =>
            obtain ⟨rfl, rfl⟩ := Prod.mk.inj h
            obtain ⟨rfl, hdigits, -⟩ := of_takeDigits hd
            exact ⟨c :: (sign ++ d :: ds), by simp, .digits (by simpa using hc) hsign (List.cons_ne_nil d ds) hdigits⟩
    · rw [if_neg hc] at h
      obtain ⟨rfl, rfl⟩ := Prod.mk.inj h
      exact ⟨[], rfl, .none⟩

/-- What comes before a power in a number does not go on with the power. -/
theorem Power.ends {q : Char → Bool} {p rest : Text} {power : Option Int} (h : Power p power) (he : q 'e' = false) (hE : q 'E' = false)
    (hrest : Ends q rest) : Ends q (p ++ rest) := by
  cases h with
  | none => exact hrest
  | digits hletter => rcases hletter with rfl | rfl <;> exact ends_cons.2 ‹_›

/-! ## Numbers -/

/-- The number of what has been taken for its parts. -/
def numberOf (negative : Bool) (whole fraction : Text) (power : Option Int) : Except Stop Json :=
  if fraction.isEmpty && power.isNone then
    if maxDigits < whole.length then .error (.excessDigits ⟨whole.length⟩)
    else .ok (.int (if negative then -(decimalValue whole : Int) else decimalValue whole))
  else .ok (.float (Binary64.ofDecimal negative (decimalValue (whole ++ fraction)) (power.getD 0 - fraction.length)))

theorem readNumberTail_eq {negative : Bool} {whole t fraction t' rest : Text} {power : Option Int} (hf : takeFraction t = (fraction, t'))
    (hp : takePower t' = (power, rest)) :
    readNumberTail negative whole t = (numberOf negative whole fraction power).map fun v => (v, rest) := by
  unfold readNumberTail numberOf
  simp only [hf, hp]
  split
  · split <;> rfl
  · rfl

/-- A number that is written with neither a fraction nor a power has neither. -/
theorem isEmpty_and_isNone {f fraction p : Text} {power : Option Int} (hf : Fraction f fraction) (hp : Power p power) :
    (fraction.isEmpty && power.isNone) = (f ++ p).isEmpty := by
  cases hf with
  | none => cases hp <;> rfl
  | digits hne => cases hp <;> simp [hne]

/-- Where a number ends, its digits, its fraction and its power have been taken. -/
theorem readMagnitude_append (negative : Bool) (start : Text) {ds f fraction p rest : Text} {power : Option Int} (hds : IsWhole ds)
    (hf : Fraction f fraction) (hp : Power p power) (hrest : Ends isNumberChar rest) :
    readMagnitude negative start (ds ++ (f ++ (p ++ rest))) = (numberOf negative ds fraction power).map fun v => (v, rest) := by
  have hdigit : Ends isDigit (p ++ rest) := hp.ends rfl rfl fun c hc => (isNumberChar_eq_false (hrest c hc)).1
  have hpoint : Ends (· == '.') (p ++ rest) := hp.ends rfl rfl fun c hc => (isNumberChar_eq_false (hrest c hc)).2
  have htail : readNumberTail negative ds (f ++ (p ++ rest)) = (numberOf negative ds fraction power).map fun v => (v, rest) :=
    readNumberTail_eq (hf.take hdigit hpoint) (hp.take hrest)
  obtain ⟨hne, hall, hzero⟩ := hds
  have hends : Ends isDigit (f ++ (p ++ rest)) := by
    cases hf with
    | none => exact hdigit
    | digits => exact ends_cons.2 rfl
  obtain ⟨d, ds, rfl⟩ := List.exists_cons_of_ne_nil hne
  by_cases hd : d = '0'
  · subst hd
    obtain rfl : ds = [] := (List.cons.inj (hzero rfl)).2
    exact htail
  · rw [readMagnitude, takeDigits_append hall hends]
    · exact htail
    · exact fun t ht => hd (List.cons.inj ht).1

/-- What says a number after its sign is read as the number, unless it is an integer that is too long. -/
theorem Magnitude.reads {negative : Bool} {u : Text} {v : Json} {rs : List Refusal} (h : Magnitude negative u v rs) (constants : Bool)
    (start : Text) {rest : Text} (hrest : Ends isNumberChar rest) :
    Gives (readMagnitude negative start (u ++ rest)) (Tolerates constants rs) (v, rest) := by
  cases h with
  | integer hds =>
    have hread := readMagnitude_append negative start hds .none .none hrest
    rw [List.nil_append, List.nil_append] at hread
    rw [hread, numberOf]
    simp only [List.isEmpty_nil, Option.isNone_none, Bool.and_self, if_true]
    split
    · exact gives_error (fun h => absurd (h _ List.mem_cons_self).1 (by decide)) _ _
    · exact gives_ok (tolerates_nil constants) _
  | float hds hf hp hne =>
    rw [List.append_assoc, List.append_assoc, readMagnitude_append _ _ hds hf hp hrest, numberOf, isEmpty_and_isNone hf hp,
      List.isEmpty_eq_false_iff.2 hne, if_neg Bool.false_ne_true]
    exact gives_ok (tolerates_nil constants) _

/-- What is read after the digits of a number makes up the number with them. -/
theorem magnitude_of_readNumberTail {negative : Bool} {ds t rest : Text} {v : Json} (hds : IsWhole ds)
    (h : readNumberTail negative ds t = .ok (v, rest)) : ∃ u, t = u ++ rest ∧ Magnitude negative (ds ++ u) v [] := by
  cases hf : takeFraction t with
  | mk fraction t' =>
    cases hp : takePower t' with
    | mk power t'' =>
      rw [readNumberTail_eq hf hp] at h
      obtain ⟨f, rfl, hfraction⟩ := fraction_of_takeFraction hf
      obtain ⟨p, rfl, hpower⟩ := power_of_takePower hp
      rw [numberOf, isEmpty_and_isNone hfraction hpower] at h
      refine ⟨f ++ p, ?_⟩
      by_cases hne : f ++ p = []
      · obtain ⟨rfl, rfl⟩ := List.append_eq_nil_iff.1 hne
        by_cases hlong : maxDigits < ds.length
        · simp [hlong, Except.map] at h
        · have hmagnitude : Magnitude negative _ _ _ := .integer hds
          rw [if_neg hlong] at hmagnitude
          simp only [List.append_nil, List.isEmpty_nil, if_true, hlong, if_false, Except.map, Except.ok.injEq, Prod.mk.injEq] at h ⊢
          obtain ⟨rfl, rfl⟩ := h
          exact ⟨rfl, hmagnitude⟩
      · simp only [List.isEmpty_eq_false_iff.2 hne, Bool.false_eq_true, if_false, Except.map, Except.ok.injEq, Prod.mk.injEq] at h
        obtain ⟨rfl, rfl⟩ := h
        exact ⟨(List.append_assoc f p _).symm, .float hds hfraction hpower hne⟩

theorem magnitude_of_readMagnitude {negative : Bool} {start t rest : Text} {v : Json} (h : readMagnitude negative start t = .ok (v, rest)) :
    ∃ u, t = u ++ rest ∧ Magnitude negative u v [] := by
  unfold readMagnitude at h
  split at h
  · have hzero : IsWhole ['0'] := ⟨List.cons_ne_nil _ _, List.forall_mem_singleton.2 rfl, fun _ => rfl⟩
    obtain ⟨u, rfl, hmagnitude⟩ := magnitude_of_readNumberTail hzero h
    exact ⟨'0' :: u, rfl, hmagnitude⟩
  · rename_i hzero
    cases hd : takeDigits _ with
    | mk ds t' =>
      rw [hd] at h
      cases ds with
      | nil => cases h
      | cons d ds =>
        obtain ⟨rfl, hdigits, -⟩ := of_takeDigits hd
        have hds : IsWhole (d :: ds) := by
          refine ⟨List.cons_ne_nil d ds, hdigits, fun hhead => ?_⟩
          obtain rfl : d = '0' := Option.some.inj hhead
          exact absurd rfl (hzero (ds ++ t'))
        obtain ⟨u, rfl, hmagnitude⟩ := magnitude_of_readNumberTail hds h
        exact ⟨d :: ds ++ u, (List.append_assoc _ _ _).symm, hmagnitude⟩

/-- A number begins with a digit after its sign. -/
theorem Magnitude.head {negative : Bool} {u : Text} {v : Json} {rs : List Refusal} (h : Magnitude negative u v rs) :
    ∃ d t, u = d :: t ∧ isDigit d = true := by
  have hwhole : ∀ {ds : Text}, IsWhole ds → ∀ t : Text, ∃ d t', ds ++ t = d :: t' ∧ isDigit d = true := by
    rintro ds ⟨hne, hall, -⟩ t
    obtain ⟨d, ds, rfl⟩ := List.exists_cons_of_ne_nil hne
    exact ⟨d, ds ++ t, rfl, hall d List.mem_cons_self⟩
  cases h with
  | integer hds => simpa using hwhole hds []
  | float hds => exact hwhole hds _

/-! ## Names and numbers -/

/-- A number is none of the names for values. -/
theorem readScalar_of_digit (constants : Bool) {d : Char} (hd : isDigit d = true) (t : Text) :
    readScalar constants (d :: t) = readNumber (d :: t) ∧ readScalar constants ('-' :: d :: t) = readNumber ('-' :: d :: t) := by
  have hne : ∀ c p, isDigit c = false → dropPrefix? (c :: p) (d :: t) = none := by
    intro c p hc
    rw [dropPrefix?, if_neg (ne_of_isDigit hd hc).symm]
  have hminus : ∀ c p, c ≠ '-' → dropPrefix? (c :: p) ('-' :: d :: t) = none := by
    intro c p hc
    rw [dropPrefix?, if_neg hc]
  constructor
  · unfold readScalar
    rw [show dropPrefix? "null" (d :: t) = none from hne _ _ rfl, show dropPrefix? "true" (d :: t) = none from hne _ _ rfl,
      show dropPrefix? "false" (d :: t) = none from hne _ _ rfl, show dropPrefix? "NaN" (d :: t) = none from hne _ _ rfl,
      show dropPrefix? "Infinity" (d :: t) = none from hne _ _ rfl, show dropPrefix? "-Infinity" (d :: t) = none from hne _ _ rfl]
  · unfold readScalar
    rw [show dropPrefix? "null" ('-' :: d :: t) = none from hminus _ _ (by decide),
      show dropPrefix? "true" ('-' :: d :: t) = none from hminus _ _ (by decide),
      show dropPrefix? "false" ('-' :: d :: t) = none from hminus _ _ (by decide),
      show dropPrefix? "NaN" ('-' :: d :: t) = none from hminus _ _ (by decide),
      show dropPrefix? "Infinity" ('-' :: d :: t) = none from hminus _ _ (by decide),
      show dropPrefix? "-Infinity" ('-' :: d :: t) = none from hne 'I' _ rfl]

/-- What says a value that has no parts and is no string is read as that value, unless something in it is refused. -/
theorem Scalar.reads {u : Text} {v : Json} {rs : List Refusal} (h : Scalar u v rs) (constants : Bool) {rest : Text}
    (hrest : Ends isNumberChar rest) : Gives (readScalar constants (u ++ rest)) (Tolerates constants rs) (v, rest) := by
  have hconstant : ∀ x : Binary64, Gives (if constants then .ok (float x, rest) else .error .notANumber) (Tolerates constants [.notANumber])
      (float x, rest) := by
    intro x
    cases constants with
    | false => exact gives_error (fun h => absurd (h _ List.mem_cons_self).2 Bool.false_ne_true) _ _
    | true => exact gives_ok (List.forall_mem_singleton.2 ⟨rfl, rfl⟩) _
  cases h with
  | null => exact gives_ok (tolerates_nil constants) _
  | truth => exact gives_ok (tolerates_nil constants) _
  | falsehood => exact gives_ok (tolerates_nil constants) _
  | nan => exact hconstant .nan
  | infinity => exact hconstant (.infinity false)
  | minusInfinity => exact hconstant (.infinity true)
  | number h =>
    obtain ⟨d, t, rfl, hd⟩ := h.head
    have hread := h.reads constants (d :: (t ++ rest)) hrest
    rw [List.cons_append] at hread ⊢
    rw [(readScalar_of_digit constants hd _).1, readNumber]
    · exact hread
    · exact fun t' ht => ne_of_isDigit hd rfl (List.cons.inj ht).1
  | minus h =>
    obtain ⟨d, t, rfl, hd⟩ := h.head
    have hread := h.reads constants ('-' :: d :: (t ++ rest)) hrest
    rw [List.cons_append] at hread
    rw [List.cons_append, List.cons_append, (readScalar_of_digit constants hd _).2]
    exact hread

theorem scalar_of_readNumber {t rest : Text} {v : Json} (h : readNumber t = .ok (v, rest)) : ∃ u, t = u ++ rest ∧ Scalar u v [] := by
  unfold readNumber at h
  split at h
  · obtain ⟨u, rfl, hmagnitude⟩ := magnitude_of_readMagnitude h
    exact ⟨'-' :: u, rfl, .minus hmagnitude⟩
  · obtain ⟨u, rfl, hmagnitude⟩ := magnitude_of_readMagnitude h
    exact ⟨u, rfl, .number hmagnitude⟩

/-- What is read as a value that has no parts and is no string says that value. -/
theorem scalar_of_readScalar {constants : Bool} {t rest : Text} {v : Json} (h : readScalar constants t = .ok (v, rest)) :
    ∃ u rs, t = u ++ rest ∧ Scalar u v rs ∧ Tolerates constants rs := by
  have hname : ∀ {p rest' : Text} {v' : Json}, dropPrefix? p t = some rest' → (.ok (v', rest') : Reading Json) = .ok (v, rest) →
      ∀ {rs}, Scalar p v' rs → Tolerates constants rs → ∃ u rs, t = u ++ rest ∧ Scalar u v rs ∧ Tolerates constants rs := by
    intro p rest' v' hp heq rs hscalar htolerates
    obtain ⟨rfl, rfl⟩ := Prod.mk.inj (Except.ok.inj heq)
    exact ⟨p, rs, dropPrefix?_eq_some_iff.1 hp, hscalar, htolerates⟩
  have hnumber : readNumber t = .ok (v, rest) → ∃ u rs, t = u ++ rest ∧ Scalar u v rs ∧ Tolerates constants rs := by
    intro hread
    obtain ⟨u, ht, hscalar⟩ := scalar_of_readNumber hread
    exact ⟨u, [], ht, hscalar, tolerates_nil constants⟩
  unfold readScalar at h
  dsimp only at h
  split at h
  · exact hname ‹_› h .null (tolerates_nil constants)
  split at h
  · exact hname ‹_› h .truth (tolerates_nil constants)
  split at h
  · exact hname ‹_› h .falsehood (tolerates_nil constants)
  cases constants with
  | false =>
    simp only [Bool.false_eq_true, if_false] at h
    split at h
    · cases h
    split at h
    · cases h
    split at h
    · cases h
    exact hnumber h
  | true =>
    have hconstant : Tolerates true [.notANumber] := List.forall_mem_singleton.2 ⟨rfl, rfl⟩
    simp only [if_true] at h
    split at h
    · exact hname ‹_› h .nan hconstant
    split at h
    · exact hname ‹_› h .infinity hconstant
    split at h
    · exact hname ‹_› h .minusInfinity hconstant
    exact hnumber h

end Flashcards.Json

import Flashcards.Json.Reader

/-!
# Strings as they are spelled

What is read as a string ends at its closing quote, and what follows that quote is not looked at. This does not go without saying, since a code
unit is read with regard to what comes after it: whether anything does, and whether it is the other half of a pair. So it is said what spells
a string (`Json.Spells`). What is read does (`Json.spells_of_readString`), and what spells a string is read as that string
(`Json.readString_of_spells`).
-/

namespace Flashcards.Json

open Text

/-- A text that begins with the second half of a pair of code units. -/
def BeginsLow (t : Text) : Prop :=
  ∃ a b c d m u, t = '\\' :: 'u' :: a :: b :: c :: d :: u ∧ code? a b c d = some m ∧ isLowHalf m = true

/-- What spells a string after its opening quote, up to the closing one. -/
inductive Spells : Text → Text → Prop where
  | close : Spells ['"'] []
  | plain {c : Char} {u s : Text} (hquote : c ≠ '"') (hslash : c ≠ '\\') (hcontrol : ¬c.toNat < 0x20) (h : Spells u s) :
      Spells (c :: u) (c :: s)
  | escape {c e : Char} {u s : Text} (hc : escaped? c = some e) (h : Spells u s) : Spells ('\\' :: c :: u) (e :: s)
  | unit {a b c d : Char} {n : Nat} {u s : Text} (hcode : code? a b c d = some n) (halone : isHighHalf n = true → ¬BeginsLow u)
      (h : Spells u s) : Spells ('\\' :: 'u' :: a :: b :: c :: d :: u) (unitChar n :: s)
  | pair {a b c d e f g h : Char} {n m : Nat} {u s : Text} (hcode : code? a b c d = some n) (hhigh : isHighHalf n = true)
      (hcode' : code? e f g h = some m) (hlow : isLowHalf m = true) (hu : Spells u s) :
      Spells ('\\' :: 'u' :: a :: b :: c :: d :: '\\' :: 'u' :: e :: f :: g :: h :: u) (joinHalves n m :: s)

theorem Spells.ne_nil {u s : Text} (h : Spells u s) : u ≠ [] := by
  cases h <;> exact List.cons_ne_nil _ _

/-- What spells a string and begins with a code unit has the whole of it. -/
theorem Spells.exists_code {u s rest t : Text} {a b c d : Char} (h : Spells u s) (hu : u ++ rest = '\\' :: 'u' :: a :: b :: c :: d :: t) :
    ∃ v n, u = '\\' :: 'u' :: a :: b :: c :: d :: v ∧ t = v ++ rest ∧ v ≠ [] ∧ code? a b c d = some n := by
  cases h with
  | close => cases hu
  | plain hquote hslash hcontrol h => exact absurd (List.cons.inj hu).1 hslash
  | escape hc h =>
    obtain ⟨-, hu⟩ := List.cons.inj hu
    obtain ⟨rfl, -⟩ := List.cons.inj hu
    cases hc
  | unit hcode halone h =>
    simp only [List.cons_append, List.cons.injEq, true_and] at hu
    obtain ⟨rfl, rfl, rfl, rfl, rfl⟩ := hu
    exact ⟨_, _, rfl, rfl, h.ne_nil, hcode⟩
  | pair hcode hhigh hcode' hlow hu' =>
    simp only [List.cons_append, List.cons.injEq, true_and] at hu
    obtain ⟨rfl, rfl, rfl, rfl, rfl⟩ := hu
    exact ⟨_, _, rfl, rfl, List.cons_ne_nil _ _, hcode⟩

/-- What spells a string is read as the string, whatever follows. -/
theorem readString_of_spells {u s : Text} (h : Spells u s) (opened : Nat) (rest : Text) : readString opened (u ++ rest) = .ok (s, rest) := by
  induction h with
  | close => rw [List.singleton_append, readString]
  | plain hquote hslash hcontrol h ih =>
    rw [List.cons_append, readString, if_neg hcontrol, ih, consTo]
    all_goals simp [hquote, hslash]
  | @escape c e u s hc h ih =>
    have hne : c ≠ 'u' := by
      rintro rfl
      cases hc
    rw [List.cons_append, List.cons_append, readString, hc]
    · dsimp only
      rw [ih, consTo]
    all_goals simp [hne]
  | @unit a b c d n u s hcode halone h ih =>
    simp only [List.cons_append]
    by_cases hnext : ∃ e f g k t, u ++ rest = '\\' :: 'u' :: e :: f :: g :: k :: t
    · -- Another code unit follows, but is not the second half of a pair.
      obtain ⟨e, f, g, k, t, hnext⟩ := hnext
      obtain ⟨v, m, rfl, rfl, hv, hcode'⟩ := h.exists_code hnext
      rw [hnext] at ih ⊢
      rw [readString, hcode]
      dsimp only
      split
      · rename_i hhigh
        have hlow : ¬isLowHalf m = true := fun hlow =>
          halone (Bool.and_eq_true_iff.1 hhigh).1 ⟨e, f, g, k, m, v, rfl, hcode', hlow⟩
        rw [hcode']
        dsimp only
        rw [if_neg hlow, ih, consTo]
      · rw [ih, consTo]
    · have hne : ¬(u ++ rest).isEmpty = true := by
        rw [List.isEmpty_iff]
        exact fun hnil => h.ne_nil (List.append_eq_nil_iff.1 hnil).1
      rw [readString, if_neg hne, hcode]
      · dsimp only
        rw [ih, consTo]
      · exact fun e f g k t ht => hnext ⟨e, f, g, k, t, ht⟩
  | @pair a b c d e f g h n m u s hcode hhigh hcode' hlow hu ih =>
    have hne : (u ++ rest).isEmpty = false := by
      obtain ⟨x, u, rfl⟩ := List.exists_cons_of_ne_nil hu.ne_nil
      rfl
    simp only [List.cons_append]
    rw [readString, hcode]
    simp only [hhigh, hne, hcode', hlow, Bool.not_false, Bool.and_self, if_true]
    rw [ih, consTo]

theorem consTo_eq_ok {c : Char} {r : Reading Text} {s rest : Text} (h : consTo c r = .ok (s, rest)) :
    ∃ s', s = c :: s' ∧ r = .ok (s', rest) := by
  unfold consTo at h
  split at h
  · rename_i s' rest'
    cases h
    exact ⟨s', rfl, rfl⟩
  · cases h

/-- What is read as a string is spelled by the text up to what is left. -/
theorem spells_of_readString {opened : Nat} {t s rest : Text} (h : readString opened t = .ok (s, rest)) :
    ∃ u, t = u ++ rest ∧ Spells u s := by
  fun_induction readString opened t generalizing s with
  | case1 => cases h
  | case2 t =>
    cases h
    exact ⟨['"'], rfl, .close⟩
  | case3 => cases h
  | case4 => cases h
  | case5 => cases h
  | case6 a b c d e f g k t n hcode hhigh m hcode' hlow ih =>
    obtain ⟨s', rfl, hread⟩ := consTo_eq_ok h
    obtain ⟨u, rfl, hu⟩ := ih hread
    exact ⟨_, rfl, .pair hcode (Bool.and_eq_true_iff.1 hhigh).1 hcode' hlow hu⟩
  | case7 a b c d e f g k t n hcode hhigh m hcode' hlow ih =>
    obtain ⟨s', rfl, hread⟩ := consTo_eq_ok h
    obtain ⟨u, hu, hspells⟩ := ih hread
    refine ⟨_, congrArg (fun t => '\\' :: 'u' :: a :: b :: c :: d :: t) hu, .unit hcode (fun _ hlow' => ?_) hspells⟩
    obtain ⟨e', f', g', k', m', v, rfl, hm', hlow'⟩ := hlow'
    simp only [List.cons_append, List.cons.injEq, true_and] at hu
    obtain ⟨rfl, rfl, rfl, rfl, -⟩ := hu
    rw [hcode', Option.some_inj] at hm'
    exact hlow (hm' ▸ hlow')
  | case8 a b c d e f g k t n hcode hhigh ih =>
    obtain ⟨s', rfl, hread⟩ := consTo_eq_ok h
    obtain ⟨u, hu, hspells⟩ := ih hread
    refine ⟨_, congrArg (fun t => '\\' :: 'u' :: a :: b :: c :: d :: t) hu, .unit hcode (fun hn _ => hhigh ?_) hspells⟩
    obtain ⟨v, m, rfl, rfl, hv, -⟩ := hspells.exists_code hu.symm
    obtain ⟨x, v, rfl⟩ := List.exists_cons_of_ne_nil hv
    rw [hn]
    rfl
  | case9 => cases h
  | case10 => cases h
  | case11 a b c d t hnext hne n hcode ih =>
    obtain ⟨s', rfl, hread⟩ := consTo_eq_ok h
    obtain ⟨u, rfl, hu⟩ := ih hread
    refine ⟨_, rfl, .unit hcode (fun _ hlow => ?_) hu⟩
    obtain ⟨e, f, g, k, m, v, rfl, -, -⟩ := hlow
    exact hnext e f g k _ rfl
  | case12 => cases h
  | case13 c t _ _ _ e hc ih =>
    obtain ⟨s', rfl, hread⟩ := consTo_eq_ok h
    obtain ⟨u, rfl, hu⟩ := ih hread
    exact ⟨_, rfl, .escape hc hu⟩
  | case14 => cases h
  | case15 => cases h
  | case16 c t hquote hlast _ _ _ hslash hcontrol ih =>
    obtain ⟨s', rfl, hread⟩ := consTo_eq_ok h
    obtain ⟨u, rfl, hu⟩ := ih hread
    have hne : c ≠ '\\' := by
      rintro rfl
      obtain ⟨x, u, rfl⟩ := List.exists_cons_of_ne_nil hu.ne_nil
      exact hslash x _ rfl rfl
    exact ⟨_, rfl, .plain hquote hne hcontrol hu⟩

end Flashcards.Json

import Flashcards.Proofs.Json.Integers
import Flashcards.Proofs.Json.Objects

/-!
# Values as they are written

A value may be written in many ways: blanks may stand between its parts, and each character of its strings may be escaped or not (`Json.Spelling`).
`Json.Dialect.encoding` has all of these ways for values without fractions. It says what is written, without a word on how that is read: the code
units of a character outside the first plane, for one, are worked out from the character, where the reader puts them together.

Every such text is JSON as it is read, and says the value that it was written for, as long as its integers are not too long and the names in each
of its objects are distinct (`Json.Dialect.Says.json`).
-/

namespace Flashcards.Json

open Text

/-! ## Strings -/

/-- The characters that have an escape of their own, each after the character that stands for it behind a backslash. -/
def escapes : List (Char × Char) :=
  [('"', '"'), ('\\', '\\'), ('/', '/'), ('b', '\x08'), ('f', '\x0c'), ('n', '\n'), ('r', '\r'), ('t', '\t')]

/-- A code unit as it is written: four hexadecimal digits. -/
structure CodeUnit (w : Text) (n : Nat) : Prop where
  length : w.length = 4
  digits : ∀ c ∈ w, isHexDigit c = true
  value : hexadecimalValue w = n

instance (w : Text) (n : Nat) : Decidable (CodeUnit w n) :=
  decidable_of_iff (w.length = 4 ∧ w.all isHexDigit = true ∧ hexadecimalValue w = n) <| by
    rw [List.all_eq_true]
    exact ⟨fun h => ⟨h.1, h.2.1, h.2.2⟩, fun h => ⟨h.length, h.digits, h.value⟩⟩

/-- A character as it may be written in a string: as it is, by its own escape, by its code unit, or by its two code units. -/
inductive Spelling : Text → Char → Prop where
  | itself {c : Char} (hquote : c ≠ '"') (hslash : c ≠ '\\') (hcontrol : 0x20 ≤ c.toNat) : Spelling [c] c
  | escape {e c : Char} (h : (e, c) ∈ escapes) : Spelling ['\\', e] c
  | unit {w : Text} {c : Char} (h : CodeUnit w c.toNat) : Spelling ('\\' :: 'u' :: w) c
  | pair {high low : Text} {m n : Nat} {c : Char} (hm : m < 0x400) (hn : n < 0x400) (hhigh : CodeUnit high (0xD800 + m))
      (hlow : CodeUnit low (0xDC00 + n)) (hc : c.toNat = 0x10000 + 0x400 * m + n) : Spelling ('\\' :: 'u' :: (high ++ '\\' :: 'u' :: low)) c

/-- A string as it may be written behind its opening quote. -/
inductive Spellings : Text → Text → Prop where
  | close : Spellings ['"'] []
  | char {w u s : Text} {c : Char} (hc : Spelling w c) (h : Spellings u s) : Spellings (w ++ u) (c :: s)

theorem CodeUnit.exists_code {w : Text} {n : Nat} (h : CodeUnit w n) : ∃ a b c d, w = [a, b, c, d] ∧ code? a b c d = some n := by
  obtain ⟨hlength, hdigits, rfl⟩ := h
  obtain ⟨a, b, c, d, rfl⟩ := List.length_eq_four.1 hlength
  have hall : (isHexDigit a && isHexDigit b && isHexDigit c && isHexDigit d) = true := by simpa [and_assoc] using hdigits
  exact ⟨a, b, c, d, rfl, if_pos hall⟩

theorem escaped?_of_mem_escapes {e c : Char} (h : (e, c) ∈ escapes) : escaped? e = some c := by
  have hall : ∀ p ∈ escapes, escaped? p.1 = some p.2 := by decide
  exact hall (e, c) h

/-- No character is half of a pair of code units. -/
theorem not_half (c : Char) : isHighHalf c.toNat = false ∧ isLowHalf c.toNat = false := by
  have hvalid : c.toNat < 0xD800 ∨ 0xDFFF < c.toNat ∧ c.toNat < 0x110000 := c.valid
  simp only [isHighHalf, isLowHalf, Bool.and_eq_false_iff, decide_eq_false_iff_not]
  omega

theorem unitChar_toNat (c : Char) : unitChar c.toNat = c := by
  obtain ⟨hhigh, hlow⟩ := not_half c
  rw [unitChar, hhigh, hlow, if_neg (by decide), Char.ofNat_toNat]

theorem joinHalves_add (m n : Nat) : joinHalves (0xD800 + m) (0xDC00 + n) = Char.ofNat (0x10000 + 0x400 * m + n) := by
  rw [joinHalves, Nat.add_sub_cancel_left, Nat.add_sub_cancel_left, Nat.mul_comm m]

/-- However a string is written, it is spelled by that. -/
theorem Spellings.spells {u s : Text} (h : Spellings u s) : Spells u s := by
  induction h with
  | close => exact .close
  | char hc h ih =>
    cases hc with
    | itself hquote hslash hcontrol => exact .plain hquote hslash (Nat.not_lt.2 hcontrol) ih
    | escape he => exact .escape (escaped?_of_mem_escapes he) ih
    | @unit w c hunit =>
      obtain ⟨a, b, d, e, rfl, hcode⟩ := hunit.exists_code
      -- No character is half of a pair, so its code unit does not take the next one with it.
      have hspells := Spells.unit hcode (fun hhigh => absurd hhigh (Bool.eq_false_iff.1 (not_half _).1)) ih
      rwa [unitChar_toNat] at hspells
    | @pair high low m n c hm hn hhigh hlow hc =>
      obtain ⟨a, b, d, e, rfl, hcode⟩ := hhigh.exists_code
      obtain ⟨a', b', d', e', rfl, hcode'⟩ := hlow.exists_code
      have hhalf : isHighHalf (0xD800 + m) = true := by
        simp only [isHighHalf, Bool.and_eq_true, decide_eq_true_iff]
        omega
      have hhalf' : isLowHalf (0xDC00 + n) = true := by
        simp only [isLowHalf, Bool.and_eq_true, decide_eq_true_iff]
        omega
      have hspells := Spells.pair hcode hhalf hcode' hhalf' ih
      rwa [joinHalves_add, ← hc, Char.ofNat_toNat] at hspells

/-! ## Values -/

/-- What is written for a value that has no parts. -/
inductive EncodingAtom : Text → Json → List Refusal → Prop where
  | null : EncodingAtom ['n', 'u', 'l', 'l'] .null []
  | truth : EncodingAtom ['t', 'r', 'u', 'e'] (.bool true) []
  | falsehood : EncodingAtom ['f', 'a', 'l', 's', 'e'] (.bool false) []
  | integer (n : Int) : EncodingAtom (ofInt n) (.int n) []
  | minusZero : EncodingAtom ['-', '0'] (.int 0) []
  | string {u s : Text} (h : Spellings u s) : EncodingAtom ('"' :: u) (.text s) []

/-- How values are written. All the entries of an object are, in order. -/
def Dialect.encoding : Dialect := ⟨EncodingAtom, id⟩

/-- A value that is read from what is written for it: it is made of null, truth values, integers that are not too long, strings, lists, and objects
in which the names are distinct. -/
inductive Encodable : Json → Prop where
  | null : Encodable .null
  | bool (b : Bool) : Encodable (.bool b)
  | int {n : Int} (h : (ofNat n.natAbs).length ≤ maxDigits) : Encodable (.int n)
  | text (s : Text) : Encodable (.text s)
  | list {vs : List Json} (h : ∀ v ∈ vs, Encodable v) : Encodable (.list vs)
  | object {es : List (Text × Json)} (hnames : (es.map (·.1)).Nodup) (h : ∀ e ∈ es, Encodable e.2) : Encodable (.object es)

/-- All the values in a part of a text are read from what is written for them. -/
def Part.Encodable : Part → Prop
  | .value v => Json.Encodable v
  | .items vs => ∀ v ∈ vs, Json.Encodable v
  | .entries es => ∀ e ∈ es, Json.Encodable e.2

theorem EncodingAtom.atom {u : Text} {v : Json} {rs : List Refusal} (h : EncodingAtom u v rs) (hv : Encodable v) : Atom u v rs := by
  cases h with
  | null => exact .scalar .null
  | truth => exact .scalar .truth
  | falsehood => exact .scalar .falsehood
  | integer n =>
    cases hv with
    | int hn => exact .scalar (scalar_ofInt hn)
  | minusZero => exact .scalar (.minus (magnitude_ofNat (n := 0) (by decide) true))
  | string h => exact .string h.spells

/-- Of entries with distinct names none takes the place of another. -/
theorem collected_eq {es : List (Text × Json)} (h : (es.map (·.1)).Nodup) : collected es = es :=
  (foldl_put_eq_map h).trans (List.map_id' es)

/-- What is written for a part of a text is JSON as it is read, and says the same. -/
theorem Dialect.Denotes.json {u : Text} {p : Part} {rs : List Refusal} (h : Dialect.encoding.Denotes u p rs) (hp : p.Encodable) :
    Dialect.json.Denotes u p rs := by
  induction h with
  | atom h => exact .atom (h.atom hp)
  | emptyList hb => exact .emptyList hb
  | list hb h ih =>
    cases hp with
    | list hvs => exact .list hb (ih hvs)
  | emptyObject hb => exact .emptyObject hb
  | @object b w es rs hb h ih =>
    cases hp with
    | object hnames hes =>
      have hobject := Dialect.Denotes.object (d := Dialect.json) hb (ih hes)
      rwa [show Dialect.json.collect es = Dialect.encoding.collect es from collected_eq hnames] at hobject
  | item h hb ih => exact .item (ih (hp _ List.mem_cons_self)) hb
  | items h hb hb' hmore ih ihmore =>
    obtain ⟨hv, hvs⟩ := List.forall_mem_cons.1 hp
    exact .items (ih hv) hb hb' (ihmore hvs)
  | entry hname hb hb' h hb'' ih => exact .entry (hname.atom (.text _)) hb hb' (ih (hp _ List.mem_cons_self)) hb''
  | entries hname hb hb' h hb'' hb₃ hmore ih ihmore =>
    obtain ⟨hv, hes⟩ := List.forall_mem_cons.1 hp
    exact .entries (hname.atom (.text _)) hb hb' (ih hv) hb'' hb₃ (ihmore hes)

theorem Dialect.Says.json {t : Text} {v : Json} {rs : List Refusal} (h : Dialect.encoding.Says t v rs) (hv : Encodable v) :
    Dialect.json.Says t v rs := by
  obtain ⟨before, u, after, ht, hbefore, hafter, hu⟩ := h
  exact ⟨before, u, after, ht, hbefore, hafter, hu.json hv⟩

end Flashcards.Json

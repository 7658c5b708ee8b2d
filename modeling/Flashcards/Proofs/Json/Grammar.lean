import Mathlib.Data.List.Basic
import Flashcards.Proofs.Json.Strings

/-!
# What JSON texts say

How values are put together is one thing: brackets, commas, colons and the blanks between them (`Json.Dialect.Denotes`). What writes a value that
has no parts is another, and there may be several dialects of it. Here is JSON as it is read (`Json.Dialect.json`): any number, any escapes, the
three names of what is no number, and objects in which a name may stand twice.

The grammar goes further than any reading does: it has the names of what is no number, and integers of any length. It lists what may be refused of
these (`Json.Refusal`).
-/

namespace Flashcards.Json

open Text

/-- What is in the grammar and yet may be refused: a name for what is no number, and an integer of too many digits. -/
inductive Refusal where
  | notANumber
  | excessDigits
  deriving DecidableEq, Repr

/-- A part of a JSON text: a value, the items of a list, or the entries of an object as they are written. -/
inductive Part where
  | value (v : Json)
  | items (vs : List Json)
  | entries (es : List (Text × Json))

/-- How the values are written that have no parts, and what becomes of the entries that are written in an object. -/
structure Dialect where
  atom : Text → Json → List Refusal → Prop
  collect : List (Text × Json) → List (Text × Json)

/-- A text says a part of a JSON text; blanks may stand before and after each mark. What may be refused in it is listed in order. -/
inductive Dialect.Denotes (d : Dialect) : Text → Part → List Refusal → Prop where
  | atom {u : Text} {v : Json} {rs : List Refusal} (h : d.atom u v rs) : d.Denotes u (.value v) rs
  | emptyList {b : Text} (hb : ∀ c ∈ b, isJsonBlank c = true) : d.Denotes ('[' :: (b ++ [']'])) (.value (.list [])) []
  | list {b w : Text} {vs : List Json} {rs : List Refusal} (hb : ∀ c ∈ b, isJsonBlank c = true) (h : d.Denotes w (.items vs) rs) :
      d.Denotes ('[' :: (b ++ (w ++ [']']))) (.value (.list vs)) rs
  | emptyObject {b : Text} (hb : ∀ c ∈ b, isJsonBlank c = true) : d.Denotes ('\x7b' :: (b ++ ['\x7d'])) (.value (.object [])) []
  | object {b w : Text} {es : List (Text × Json)} {rs : List Refusal} (hb : ∀ c ∈ b, isJsonBlank c = true) (h : d.Denotes w (.entries es) rs) :
      d.Denotes ('\x7b' :: (b ++ (w ++ ['\x7d']))) (.value (.object (d.collect es))) rs
  | item {u b : Text} {v : Json} {rs : List Refusal} (h : d.Denotes u (.value v) rs) (hb : ∀ c ∈ b, isJsonBlank c = true) :
      d.Denotes (u ++ b) (.items [v]) rs
  | items {u b b' w : Text} {v : Json} {vs : List Json} {rs rs' : List Refusal} (h : d.Denotes u (.value v) rs)
      (hb : ∀ c ∈ b, isJsonBlank c = true) (hb' : ∀ c ∈ b', isJsonBlank c = true) (hmore : d.Denotes w (.items vs) rs') :
      d.Denotes (u ++ (b ++ ',' :: (b' ++ w))) (.items (v :: vs)) (rs ++ rs')
  | entry {k b b' u b'' : Text} {name : Text} {v : Json} {rs : List Refusal} (hname : d.atom k (.text name) [])
      (hb : ∀ c ∈ b, isJsonBlank c = true) (hb' : ∀ c ∈ b', isJsonBlank c = true) (h : d.Denotes u (.value v) rs)
      (hb'' : ∀ c ∈ b'', isJsonBlank c = true) : d.Denotes (k ++ (b ++ ':' :: (b' ++ (u ++ b'')))) (.entries [(name, v)]) rs
  | entries {k b b' u b'' b₃ w : Text} {name : Text} {v : Json} {es : List (Text × Json)} {rs rs' : List Refusal} (hname : d.atom k (.text name) [])
      (hb : ∀ c ∈ b, isJsonBlank c = true) (hb' : ∀ c ∈ b', isJsonBlank c = true) (h : d.Denotes u (.value v) rs)
      (hb'' : ∀ c ∈ b'', isJsonBlank c = true) (hb₃ : ∀ c ∈ b₃, isJsonBlank c = true) (hmore : d.Denotes w (.entries es) rs') :
      d.Denotes (k ++ (b ++ ':' :: (b' ++ (u ++ (b'' ++ ',' :: (b₃ ++ w)))))) (.entries ((name, v) :: es)) (rs ++ rs')

/-- A whole text says a value, with nothing but blanks around it. -/
def Dialect.Says (d : Dialect) (t : Text) (v : Json) (rs : List Refusal) : Prop :=
  ∃ before u after, t = before ++ (u ++ after) ∧ (∀ c ∈ before, isJsonBlank c = true) ∧ (∀ c ∈ after, isJsonBlank c = true) ∧
    d.Denotes u (.value v) rs

/-! ## JSON as it is read -/

/-- The digits before the point of a number: zero alone, or digits of which the first is not zero. -/
def IsWhole (ds : Text) : Prop := ds ≠ [] ∧ (∀ c ∈ ds, isDigit c = true) ∧ (ds.head? = some '0' → ds = ['0'])

/-- A fraction as it is written, and its digits. -/
inductive Fraction : Text → Text → Prop where
  | none : Fraction [] []
  | digits {ds : Text} (hne : ds ≠ []) (hds : ∀ c ∈ ds, isDigit c = true) : Fraction ('.' :: ds) ds

/-- A sign as it is written, true for minus. -/
inductive Sign : Text → Bool → Prop where
  | none : Sign [] false
  | plus : Sign ['+'] false
  | minus : Sign ['-'] true

/-- A power of ten as it is written, and its exponent. -/
inductive Power : Text → Option Int → Prop where
  | none : Power [] none
  | digits {e : Char} {sign ds : Text} {negative : Bool} (he : e = 'e' ∨ e = 'E') (hsign : Sign sign negative) (hne : ds ≠ [])
      (hds : ∀ c ∈ ds, isDigit c = true) : Power (e :: (sign ++ ds)) (some (if negative then -(decimalValue ds : Int) else decimalValue ds))

/-- A number without its sign. It is an integer if it has neither a fraction nor a power. -/
inductive Magnitude (negative : Bool) : Text → Json → List Refusal → Prop where
  | integer {ds : Text} (hds : IsWhole ds) :
      Magnitude negative ds (.int (if negative then -(decimalValue ds : Int) else decimalValue ds))
        (if maxDigits < ds.length then [.excessDigits] else [])
  | float {ds f fraction p : Text} {power : Option Int} (hds : IsWhole ds) (hf : Fraction f fraction) (hp : Power p power) (hne : f ++ p ≠ []) :
      Magnitude negative (ds ++ (f ++ p))
        (.float (Binary64.ofDecimal negative (decimalValue (ds ++ fraction)) (power.getD 0 - fraction.length))) []

/-- What says a value that has no parts and is no string. -/
inductive Scalar : Text → Json → List Refusal → Prop where
  | null : Scalar ['n', 'u', 'l', 'l'] .null []
  | truth : Scalar ['t', 'r', 'u', 'e'] (.bool true) []
  | falsehood : Scalar ['f', 'a', 'l', 's', 'e'] (.bool false) []
  | nan : Scalar ['N', 'a', 'N'] (.float .nan) [.notANumber]
  | infinity : Scalar ['I', 'n', 'f', 'i', 'n', 'i', 't', 'y'] (.float (.infinity false)) [.notANumber]
  | minusInfinity : Scalar ['-', 'I', 'n', 'f', 'i', 'n', 'i', 't', 'y'] (.float (.infinity true)) [.notANumber]
  | number {u : Text} {v : Json} {rs : List Refusal} (h : Magnitude false u v rs) : Scalar u v rs
  | minus {u : Text} {v : Json} {rs : List Refusal} (h : Magnitude true u v rs) : Scalar ('-' :: u) v rs

/-- What says a value that has no parts. -/
inductive Atom : Text → Json → List Refusal → Prop where
  | scalar {u : Text} {v : Json} {rs : List Refusal} (h : Scalar u v rs) : Atom u v rs
  | string {u s : Text} (h : Spells u s) : Atom ('"' :: u) (.text s) []

/-- The entries of an object that has been read: of those of one name the last is kept, in the place of the first. -/
def collected (es : List (Text × Json)) : List (Text × Json) := es.foldl (fun done e => put e.1 e.2 done) []

/-- JSON as it is read. -/
def Dialect.json : Dialect := ⟨Atom, collected⟩

end Flashcards.Json

import Flashcards.Encoding.Unicode
import Flashcards.Text.Numeral
import Flashcards.Text.Case
import Flashcards.Text.Word

/-!
# Punycode

Texts in ASCII, with the other characters told after the last hyphen: in the order of their code points, each by how far it is from the
one before it, counted over all places where a character may be put in. The counts are numbers of a varying number of digits, whose
weights adapt to the counts before.

A reading that goes on over faults stops at the first digit that is none and keeps what it has. The labels of host names are read
strictly or not at all.
-/

namespace Flashcards.Encoding.Punycode

open Text

/-- The value of a digit; letters count in either case. -/
def digit? (c : Char) : Option Nat :=
  if isLetter c then some (c.toLower.toNat - 97) else if isDigit c then some (c.toNat - 22) else none

/-- The least weight of a digit at a place, by the bias. -/
def threshold (place bias : Nat) : Nat := min 26 (max 1 (36 * (place + 1) - bias))

/-- The number that digits from a place on write, with the digits after it: added to what the digits before come to, where each counts
for a weight. -/
def number? (bias : Nat) : (place weight sofar : Nat) → Text → Option (Nat × Text)
  | _, _, _, [] => none
  | place, weight, sofar, c :: rest =>
    match digit? c with
    | none => none
    | some d =>
      let t := threshold place bias
      if d < t then some (sofar + d * weight, rest) else number? bias (place + 1) (weight * (36 - t)) (sofar + d * weight) rest

/-- How often a number has to be divided by 35 until it is at most 455, and what it comes to; the first argument bounds how often. -/
def divisions : (bound n : Nat) → Nat × Nat
  | 0, n => (0, n)
  | bound + 1, n => if 455 < n then let (k, m) := divisions bound (n / 35); (k + 1, m) else (0, n)

/-- The bias after a count, for a text of so many characters. -/
def adapt (delta : Nat) (first : Bool) (size : Nat) : Nat :=
  let delta := if first then delta / 700 else delta / 2
  let delta := delta + delta / size
  let (k, delta) := divisions delta delta
  36 * k + 36 * delta / (delta + 38)

/-- A character put in at a place of a text. -/
def insertAt (place : Nat) (c : Char) (t : Text) : Text := t.take place ++ c :: t.drop place

/-- Characters put into a text as digits tell: the code point and the place come from those before. A reading that goes on over faults puts
a question mark for what is above the last code point. The first argument bounds how many characters there may be. -/
def insertAll (mend : Bool) : (bound point place bias : Nat) → (first : Bool) → (base digits : Text) → Option Text
  | _, _, _, _, _, base, [] => some base
  | 0, _, _, _, _, base, _ => some base
  | bound + 1, point, place, bias, first, base, digits =>
    match number? bias 0 1 0 digits with
    | none => if mend then some base else none
    | some (delta, rest) =>
      let size := base.length + 1
      let point := point + (place + delta) / size
      let place := (place + delta) % size
      if 0x10FFFF < point && !mend then none
      else
        let point := if 0x10FFFF < point then 0x3F else point
        let base := insertAt place ((ofPoint? point).getD '\uFFFD') base
        insertAll mend bound point (place + 1) (adapt delta first base.length) false base rest

/-- The characters before the last hyphen and those after it; without a hyphen, all are after it. -/
def splitLast (t : Text) : Text × Text :=
  let after := (t.reverse.takeWhile (· != '-')).reverse
  (t.take (t.length - after.length - 1), after)

/-- Whether a byte is no character of ASCII. -/
def isForeign (c : Char) : Bool := 0x7F < c.toNat

/-- The text that bytes write. A reading that goes on over faults mends what is not ASCII before the last hyphen, but not after it. -/
def read? (mend : Bool) (bytes : Bytes) : Option Text :=
  let (base, digits) := splitLast (bytes.map fun b => Char.ofNat b.toNat)
  if digits.any isForeign || (!mend && base.any isForeign) then none
  else insertAll mend digits.length 128 0 72 true (base.map fun c => if isForeign c then '\uFFFD' else c) digits

/-! ## Labels of host names -/

/-- Whether a text is one that labels are coded for: of letters and digits in lower case, hyphens aside, and not of ASCII alone. -/
def needsCode (t : Text) : Bool := t.any isForeign && lower t = t && t.all fun c => isWord c || c = '-'

/-- The text of a label: what begins with the mark of a coded label is read, if it could have been written so. -/
def label? (t : Text) : Option Text :=
  match dropPrefix? "xn--" t with
  | none => if t.length ≤ 1024 && !t.any isForeign then some t else none
  | some coded => if t.length < 64 then (read? false (coded.map fun c => UInt8.ofNat c.toNat)).filter needsCode else none

/-- The text of labels with points between them. Without a coded label anywhere, it is ASCII. -/
def labels? (bytes : Bytes) : Option Text :=
  let t : Text := bytes.map fun b => Char.ofNat b.toNat
  if (breakAt (dropPrefix? "xn--") t).isNone then if t.any isForeign then none else some t
  else ((splitOn '.' t).mapM label?).map (joinWith ['.'])

end Flashcards.Encoding.Punycode

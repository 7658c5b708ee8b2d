import Flashcards.Text.Basic

/-!
# Binary floating-point numbers

Numbers with 53 significant bits, kept exactly: a finite one is its sign, an integer mantissa and a power of two. Nothing here
is computed in machine arithmetic, so every statement about a number is one about integers.

A quotient becomes the nearest such number, a tie going to the even mantissa (`ofRatio`). A number is written with the fewest
decimal digits that read back as it (`shortest`), and of the decimals with that many digits the nearest.
-/

namespace Flashcards

/-- A binary floating-point number. A finite one is `± mantissa · 2 ^ exponent`; its mantissa has 53 bits, or fewer where the
exponent is the least one. -/
inductive Binary64 where
  | nan
  | infinity (negative : Bool)
  | finite (negative : Bool) (mantissa : Nat) (exponent : Int)
  deriving DecidableEq, Repr

namespace Binary64

/-- The least exponent of a mantissa. -/
def minExponent : Int := -1074

/-- The greatest exponent of a mantissa. -/
def maxExponent : Int := 971

/-- Zero with a sign. -/
def zero (negative : Bool) : Binary64 := .finite negative 0 minExponent

/-- `num / den · 2 ^ (-e)` as a quotient of natural numbers. -/
def scaleByTwo (num den : Nat) : Int → Nat × Nat
  | .ofNat e => (num, den * Nat.pow 2 e)
  | .negSucc e => (num * Nat.pow 2 (e + 1), den)

/-- The exponent at which the quotient's mantissa has 53 bits, or the least exponent if that is greater. -/
def exponentOf (num den : Nat) : Int :=
  let guess : Int := (num.log2 : Int) - den.log2 - 52
  let (a, b) := scaleByTwo num den guess
  let e := if a / b < Nat.pow 2 52 then guess - 1 else guess
  max e minExponent

/-- The quotient to the nearest integer, a tie to the even one. -/
def roundQuotient (num den : Nat) : Nat :=
  let q := num / den
  let r := num % den
  if 2 * r < den then q else if den < 2 * r then q + 1 else if q % 2 = 0 then q else q + 1

/-- The number nearest to a quotient of natural numbers; infinite where that is above the greatest finite number. -/
def ofRatio (negative : Bool) (num den : Nat) : Binary64 :=
  if num = 0 then zero negative
  else
    let e := exponentOf num den
    let (a, b) := scaleByTwo num den e
    let m := roundQuotient a b
    let (m, e) := if m = Nat.pow 2 53 then (Nat.pow 2 52, e + 1) else (m, e)
    if maxExponent < e then .infinity negative else .finite negative m e

/-- The number nearest to `digits · 10 ^ exponent`. Exponents far outside the range are not multiplied out. -/
def ofDecimal (negative : Bool) (digits : Nat) (exponent : Int) : Binary64 :=
  if digits = 0 then zero negative
  else
    let size : Int := (Nat.toDigits 10 digits).length + exponent
    if 310 < size then .infinity negative
    else if size < -330 then zero negative
    else match exponent with
      | .ofNat e => ofRatio negative (digits * Nat.pow 10 e) 1
      | .negSucc e => ofRatio negative digits (Nat.pow 10 (e + 1))

/-- The magnitude of a mantissa and exponent as a quotient. -/
def ratio (mantissa : Nat) : Int → Nat × Nat
  | .ofNat e => (mantissa * Nat.pow 2 e, 1)
  | .negSucc e => (mantissa, Nat.pow 2 (e + 1))

/-- The number multiplied by a natural number and rounded. -/
def scale (x : Binary64) (k : Nat) : Binary64 :=
  match x with
  | .finite s m e => let (a, b) := ratio m e; ofRatio s (a * k) b
  | x => x

/-- Whether the number is zero of either sign. -/
def isZero : Binary64 → Bool
  | .finite _ 0 _ => true
  | _ => false

/-- The integer the number is, if it is one. -/
def toInt? : Binary64 → Option Int
  | .finite s m e =>
    let (a, b) := ratio m e
    if a % b = 0 then some (if s then -((a / b : Nat) : Int) else ((a / b : Nat) : Int)) else none
  | _ => none

/-! ## Decimal digits -/

/-- The number of decimal places before the point: the least `k` with `num / den < 10 ^ k`, for a positive quotient. -/
def pointPlace (num den : Nat) : Int :=
  if den ≤ num then (Nat.toDigits 10 (num / den)).length
  else
    let places := (Nat.toDigits 10 (den / num)).length
    if den = num * Nat.pow 10 (places - 1) then 2 - places else 1 - places

/-- `num / den · 10 ^ k` as a quotient of natural numbers. -/
def scaleByTen (num den : Nat) : Int → Nat × Nat
  | .ofNat k => (num * Nat.pow 10 k, den)
  | .negSucc k => (num, den * Nat.pow 10 (k + 1))

/-- Of the two decimals with `count` digits next to the quotient `num / den`, whose point stands at `place`, the one that reads
back as the number; the nearer one if both do, and at equal distance the even one. -/
def nearestWith (x : Binary64) (num den : Nat) (place : Int) (count : Nat) : Option Nat :=
  let (a, b) := scaleByTen num den (count - place)
  let low := a / b
  let reads (d : Nat) : Bool := ofDecimal false d (place - count) == x
  match reads low, reads (low + 1) with
  | true, true => some (roundQuotient a b)
  | true, false => some low
  | false, true => some (low + 1)
  | false, false => none

/-- The decimal with the fewest digits, from `count` on and with at most `tries` more, that reads back, and its count. -/
def fewestFrom (x : Binary64) (num den : Nat) (place : Int) : Nat → Nat → Nat × Nat
  | 0, count => ((nearestWith x num den place count).getD 0, count)
  | tries + 1, count =>
    match nearestWith x num den place count with
    | some d => (d, count)
    | none => fewestFrom x num den place tries (count + 1)

/-- Digits without the zeros at their end. -/
def dropTrailingZeros (digits : Text) : Text := Text.trimEnd (· == '0') digits

/-- The fewest digits that read back as a positive finite number, and the place of the point counted from before them. The decimal
above the number may be the next power of ten, which has one digit more than was asked for. -/
def shortest (mantissa : Nat) (exponent : Int) : Text × Int :=
  let (num, den) := ratio mantissa exponent
  let place := pointPlace num den
  let (d, count) := fewestFrom (.finite false mantissa exponent) num den place 16 1
  let digits := Nat.toDigits 10 d
  (dropTrailingZeros digits, place + (digits.length - count))

/-- Where the written form changes from positions to a power of ten. -/
structure Layout where
  /-- The least place of the point that is written by position. -/
  leastPlace : Int
  /-- The greatest place of the point that is written by position. -/
  greatestPlace : Int
  /-- The least number of digits of a written exponent. -/
  exponentDigits : Nat

/-- Numbers from `0.0001` up to below `10 ^ 16` are written by position, others with a power of ten of at least two digits. -/
def plain : Layout := ⟨-3, 16, 2⟩

/-- The magnitude written with the given digits and place of the point. A number written by position has at least one digit after
the point. -/
def Layout.write (f : Layout) (digits : Text) (place : Int) : Text :=
  if f.leastPlace ≤ place && place ≤ f.greatestPlace then
    if place ≤ 0 then "0." ++ List.replicate (-place).toNat '0' ++ digits
    else if digits.length ≤ place.toNat then digits ++ List.replicate (place.toNat - digits.length) '0' ++ ".0"
    else digits.take place.toNat ++ "." ++ digits.drop place.toNat
  else
    let power := place - 1
    let size := Text.ofNat power.natAbs
    let fraction : Text := if digits.length ≤ 1 then [] else '.' :: digits.drop 1
    digits.take 1 ++ fraction ++ ['e', if power < 0 then '-' else '+'] ++
      List.replicate (f.exponentDigits - size.length) '0' ++ size

/-- The number as it is written. -/
def toText : Binary64 → Text
  | .nan => "nan"
  | .infinity s => if s then "-inf" else "inf"
  | .finite s m e =>
    let sign : Text := if s then ['-'] else []
    if m = 0 then sign ++ "0.0"
    else
      let (digits, place) := shortest m e
      sign ++ plain.write digits place

end Binary64

end Flashcards

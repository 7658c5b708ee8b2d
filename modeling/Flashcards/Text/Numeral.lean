import Flashcards.Text.Blank

/-!
# Integers written in a text

An integer may be written with the decimal digits of any script, with a sign, with blanks around it and with single low lines
between its digits. The number of digits is bounded, so that reading an integer cannot take unbounded work.
-/

namespace Flashcards.Text

/-- The code points of the zeros of the scripts of Unicode. The nine characters after each are the other digits in order. -/
def zeros : List Nat :=
  [0x30, 0x660, 0x6F0, 0x7C0, 0x966, 0x9E6, 0xA66, 0xAE6, 0xB66, 0xBE6, 0xC66, 0xCE6, 0xD66, 0xDE6, 0xE50, 0xED0, 0xF20,
   0x1040, 0x1090, 0x17E0, 0x1810, 0x1946, 0x19D0, 0x1A80, 0x1A90, 0x1B50, 0x1BB0, 0x1C40, 0x1C50, 0xA620, 0xA8D0, 0xA900,
   0xA9D0, 0xA9F0, 0xAA50, 0xABF0, 0xFF10, 0x104A0, 0x10D30, 0x11066, 0x110F0, 0x11136, 0x111D0, 0x112F0, 0x11450, 0x114D0,
   0x11650, 0x116C0, 0x11730, 0x118E0, 0x11950, 0x11C50, 0x11D50, 0x11DA0, 0x16A60, 0x16AC0, 0x16B50, 0x1D7CE, 0x1D7D8,
   0x1D7E2, 0x1D7EC, 0x1D7F6, 0x1E140, 0x1E2F0, 0x1E950, 0x1FBF0]

/-- The value of a decimal digit of any script. -/
def digitValue? (c : Char) : Option Nat :=
  (zeros.find? fun z => z ≤ c.toNat && c.toNat ≤ z + 9).map fun z => c.toNat - z

/-- Whether a character is an ASCII digit. -/
def isDigit (c : Char) : Bool := '0' ≤ c && c ≤ '9'

/-- Whether a character is an ASCII letter. -/
def isLetter (c : Char) : Bool := ('a' ≤ c && c ≤ 'z') || ('A' ≤ c && c ≤ 'Z')

/-- Whether a character is a hexadecimal digit. -/
def isHexDigit (c : Char) : Bool := isDigit c || ('a' ≤ c && c ≤ 'f') || ('A' ≤ c && c ≤ 'F')

/-- The value of a hexadecimal digit; of another character, zero. -/
def hexValue (c : Char) : Nat :=
  if isDigit c then c.toNat - 48
  else if 'a' ≤ c && c ≤ 'f' then c.toNat - 87
  else if 'A' ≤ c && c ≤ 'F' then c.toNat - 55
  else 0

/-- The number that ASCII digits write in decimal. -/
def decimalValue (t : Text) : Nat := t.foldl (fun n c => 10 * n + (c.toNat - 48)) 0

/-- The number that hexadecimal digits write. -/
def hexadecimalValue (t : Text) : Nat := t.foldl (fun n c => 16 * n + hexValue c) 0

/-- The most digits an integer may be written with. -/
def maxDigits : Nat := 4300

/-- More digits than an integer may be written with. -/
structure ExcessDigits where
  count : Nat
  deriving DecidableEq, Repr

/-- The words for digits that are too many. -/
def ExcessDigits.message (digits : ExcessDigits) : Text :=
  "Exceeds the limit (" ++ ofNat maxDigits ++ " digits) for integer string conversion: value has " ++ ofNat digits.count ++
    " digits; use sys.set_int_max_str_digits() to increase the limit"

/-- The number that ASCII digits write in decimal, unless they are too many. Zeros at the start count. -/
def decimal (t : Text) : Except ExcessDigits Nat :=
  if maxDigits < t.length then .error ⟨t.length⟩ else .ok (decimalValue t)

/-- The values of digits with single low lines between them; none if anything else stands in the text, or if it is empty. -/
def digits? : Text → Option (List Nat)
  | [] => none
  | [c] => (digitValue? c).map ([·])
  | c :: '_' :: t => do
    let d ← digitValue? c
    let ds ← digits? t
    pure (d :: ds)
  | c :: t => do
    let d ← digitValue? c
    let ds ← digits? t
    pure (d :: ds)

/-- The sign in front of a text, true for minus, and the text without it. -/
def takeSign : Text → Bool × Text
  | '-' :: t => (true, t)
  | '+' :: t => (false, t)
  | t => (false, t)

/-- A blank that may stand before and after an integer: any but the four separators of information, which are controls of ASCII. -/
def surroundsInteger (c : Char) : Bool := isBlank c && !(28 ≤ c.toNat && c.toNat ≤ 31)

/-- The integer a text writes, if it writes one in at most `maxDigits` digits. -/
def int? (t : Text) : Option Int :=
  let (negative, rest) := takeSign (trim surroundsInteger t)
  match digits? rest with
  | none => none
  | some ds =>
    if maxDigits < ds.length then none
    else
      let n : Nat := ds.foldl (fun n d => 10 * n + d) 0
      some (if negative then -(n : Int) else n)

end Flashcards.Text

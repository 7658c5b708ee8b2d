import Flashcards.Text.Numeral
import Flashcards.Encoding.CodePage.Windows
import Flashcards.Markup.Entity.Bare
import Flashcards.Markup.Entity.Capital
import Flashcards.Markup.Entity.Small

/-!
# Character references

What a reference such as `&amp;` or `&#233;` stands for. References in running text and in the values of attributes follow
different rules: in running text a name counts whole, and the reading of tokens has already found where it ends; in a value the
reference ends where its longest known beginning does, and some numbers stand for nothing. In both, a decimal number may have too many
digits to be read at all.
-/

namespace Flashcards.Markup.Entity

open Text

/-- The names with a given first letter that are known with a closing semicolon alone. -/
def listed : Char → List (String × String)
  | 'A' => namedA
  | 'B' => namedB
  | 'C' => namedC
  | 'D' => namedD
  | 'E' => namedE
  | 'F' => namedF
  | 'G' => namedG
  | 'H' => namedH
  | 'I' => namedI
  | 'J' => namedJ
  | 'K' => namedK
  | 'L' => namedL
  | 'M' => namedM
  | 'N' => namedN
  | 'O' => namedO
  | 'P' => namedP
  | 'Q' => namedQ
  | 'R' => namedR
  | 'S' => namedS
  | 'T' => namedT
  | 'U' => namedU
  | 'V' => namedV
  | 'W' => namedW
  | 'X' => namedX
  | 'Y' => namedY
  | 'Z' => namedZ
  | 'a' => namedaSmall
  | 'b' => namedbSmall
  | 'c' => namedcSmall
  | 'd' => nameddSmall
  | 'e' => namedeSmall
  | 'f' => namedfSmall
  | 'g' => namedgSmall
  | 'h' => namedhSmall
  | 'i' => namediSmall
  | 'j' => namedjSmall
  | 'k' => namedkSmall
  | 'l' => namedlSmall
  | 'm' => namedmSmall
  | 'n' => namednSmall
  | 'o' => namedoSmall
  | 'p' => namedpSmall
  | 'q' => namedqSmall
  | 'r' => namedrSmall
  | 's' => namedsSmall
  | 't' => namedtSmall
  | 'u' => nameduSmall
  | 'v' => namedvSmall
  | 'w' => namedwSmall
  | 'x' => namedxSmall
  | 'y' => namedySmall
  | 'z' => namedzSmall
  | _ => []

/-- The text under a name in a list of names. -/
def find? (name : Text) (names : List (String × String)) : Option Text :=
  (names.find? fun e => e.1.toList == name).map (·.2.toList)

/-- The text a name stands for that needs no semicolon. -/
def bare? (name : Text) : Option Text := find? name bareNames

/-- The text a name stands for, written with a semicolon. -/
def named? (name : Text) : Option Text :=
  match bare? name with
  | some t => some t
  | none =>
    match name with
    | [] => none
    | c :: _ => find? name (listed c)

/-- The character of a number between 128 and 159: what Windows code page 1252 has there, or the control itself where it has
nothing. -/
def windowsChar (n : Nat) : Char :=
  (Encoding.CodePage.windows1252.char? (UInt8.ofNat n)).getD (Char.ofNat n)

/-- Whether a number is no character: zero, half of a pair of code units, or above the last code point. -/
def isNoChar (n : Nat) : Bool := n == 0 || (0xD800 ≤ n && n ≤ 0xDFFF) || 0x10FFFF < n

/-- The character a number stands for in running text. -/
def numbered (n : Nat) : Char :=
  if isNoChar n then '\uFFFD' else if 0x80 ≤ n && n ≤ 0x9F then windowsChar n else Char.ofNat n

/-- Whether a number stands for nothing in a value: the controls but tab, line feed, form feed and carriage return, and the code
points that are set aside as no characters. -/
def isDropped (n : Nat) : Bool :=
  (1 ≤ n && n ≤ 8) || n == 0xB || (0xE ≤ n && n ≤ 0x1F) || (0x7F ≤ n && n ≤ 0x9F) || (0xFDD0 ≤ n && n ≤ 0xFDEF) ||
    n % 0x10000 == 0xFFFE || n % 0x10000 == 0xFFFF

/-- The text a number stands for in a value. -/
def numberedInValue (n : Nat) : Text :=
  if isNoChar n then ['\uFFFD']
  else if n = 0x0D || (0x80 ≤ n && n ≤ 0x9F) then [if n = 0x0D then '\r' else windowsChar n]
  else if isDropped n then []
  else [Char.ofNat n]

/-- The text of a known name that a run of characters begins with, the longest there is of at least two characters and at most
`size`, and the number of its characters. A name in the run is followed by no semicolon. -/
def longestBare? (run : Text) : Nat → Option (Text × Nat)
  | 0 => none
  | size + 1 =>
    if size + 1 < 2 then none
    else match bare? (run.take (size + 1)) with
      | some t => some (t, size + 1)
      | none => longestBare? run size

/-- Whether a character may stand in a name within a value. -/
def isNameChar (c : Char) : Bool :=
  !(c == '\t' || c == '\n' || c == '\x0c' || c == ' ' || c == '<' || c == '&' || c == '#' || c == ';')

/-- The digits after a number sign, with the number they write and how many characters they are with their semicolon. -/
def takeNumber? (isDigit : Char → Bool) (value : Text → Except ExcessDigits Nat) (t : Text) :
    Option (Except ExcessDigits Nat × Nat) :=
  match t.takeWhile isDigit, t.dropWhile isDigit with
  | [], _ => none
  | ds, ';' :: _ => some (value ds, ds.length + 1)
  | ds, _ => some (value ds, ds.length)

/-- What the hexadecimal number at the start of a text stands for, and the number of its characters and those before it. -/
def hexadecimal? (t : Text) : Option (Except ExcessDigits Text × Nat) :=
  (takeNumber? isHexDigit (fun ds => .ok (hexadecimalValue ds)) t).map fun (n, k) => (n.map numberedInValue, k + 2)

/-- What the reference at the start of a text stands for, without its ampersand, and the number of characters it takes. -/
def reference? (t : Text) : Option (Except ExcessDigits Text × Nat) :=
  match t with
  | '#' :: 'x' :: rest => hexadecimal? rest
  | '#' :: 'X' :: rest => hexadecimal? rest
  | '#' :: rest => (takeNumber? isDigit decimal rest).map fun (n, k) => (n.map numberedInValue, k + 1)
  | _ =>
    let run := (t.takeWhile isNameChar).take 32
    let closed := (t.drop run.length).head? = some ';'
    match (if closed then named? run else bare? run) with
    | some s => some (.ok s, if closed then run.length + 1 else run.length)
    | none => (longestBare? run (if closed then run.length else run.length - 1)).map fun (s, k) => (.ok s, k)

/-- A value with its references resolved from a place on, where `skip` more characters belong to a reference. -/
def resolveFrom : Nat → Text → Except ExcessDigits Text
  | _, [] => .ok []
  | skip + 1, _ :: t => resolveFrom skip t
  | 0, c :: t =>
    if c = '&' then
      match reference? t with
      | some (.error excess, _) => .error excess
      | some (.ok s, size) => (resolveFrom size t).map (s ++ ·)
      | none => (resolveFrom 0 t).map ('&' :: ·)
    else (resolveFrom 0 t).map (c :: ·)

/-- A value with its references resolved. -/
def resolve (t : Text) : Except ExcessDigits Text := resolveFrom 0 t

end Flashcards.Markup.Entity

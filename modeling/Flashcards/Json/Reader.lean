import Flashcards.Json.Basic
import Flashcards.Text.Blank
import Flashcards.Text.Numeral

/-!
# Reading JSON

A JSON text is read from left to right with no separate stage of tokens. Every reader takes the text that is left and returns what
it has read with the text left after it, or the fault that ends the reading.

A fault knows its cause and how much of the text was left at its place; the place itself, its line and its column are worked out
from that once, in `Fault.message`. Two faults are not of the grammar: an integer of more digits than are ever read, and one of the
three names for numbers that are not numbers, where these are not allowed.

The readers of values are bounded by a number that the length of the text always meets (`read`).
-/

namespace Flashcards.Json

open Text

/-- What is wrong at the place where the grammar breaks. -/
inductive Cause where
  | byteOrderMark
  | expectedValue
  | expectedName
  | expectedColon
  | expectedComma
  | unterminatedString
  | controlCharacter
  | badEscape
  | badCodeEscape
  | extraData
  deriving DecidableEq, Repr

/-- The words for a cause. -/
def Cause.message : Cause → Text
  | .byteOrderMark => "Unexpected UTF-8 BOM (decode using utf-8-sig)"
  | .expectedValue => "Expecting value"
  | .expectedName => "Expecting property name enclosed in double quotes"
  | .expectedColon => "Expecting ':' delimiter"
  | .expectedComma => "Expecting ',' delimiter"
  | .unterminatedString => "Unterminated string starting at"
  | .controlCharacter => "Invalid control character at"
  | .badEscape => "Invalid \\escape"
  | .badCodeEscape => "Invalid \\uXXXX escape"
  | .extraData => "Extra data"

/-- Why a reading ended: the grammar breaks where `left` characters are left, an integer has too many digits, or a number is named
that is none. -/
inductive Stop where
  | grammar (cause : Cause) (left : Nat)
  | excessDigits (digits : ExcessDigits)
  | notANumber
  deriving DecidableEq, Repr

/-- A reader's answer: the value read and the text left after it, or why there is none. -/
abbrev Reading (α : Type) := Except Stop (α × Text)

/-- The grammar breaks here. -/
def breaks {α : Type} (cause : Cause) (t : Text) : Reading α := .error (.grammar cause t.length)

/-- The text after the blanks it begins with. -/
def skipBlanks (t : Text) : Text := t.dropWhile isJsonBlank

/-! ## Strings -/

/-- The character that stands for itself or for a control after a backslash. -/
def escaped? : Char → Option Char
  | '"' => some '"'
  | '\\' => some '\\'
  | '/' => some '/'
  | 'b' => some '\x08'
  | 'f' => some '\x0c'
  | 'n' => some '\n'
  | 'r' => some '\r'
  | 't' => some '\t'
  | _ => none

/-- The number four hexadecimal digits write. -/
def code? (a b c d : Char) : Option Nat :=
  if isHexDigit a && isHexDigit b && isHexDigit c && isHexDigit d then some (hexadecimalValue [a, b, c, d]) else none

/-- The first half of a pair of code units. -/
def isHighHalf (n : Nat) : Bool := 0xD800 ≤ n && n ≤ 0xDBFF

/-- The second half of a pair of code units. -/
def isLowHalf (n : Nat) : Bool := 0xDC00 ≤ n && n ≤ 0xDFFF

/-- The character a pair of code units stands for. -/
def joinHalves (high low : Nat) : Char := Char.ofNat (0x10000 + (high - 0xD800) * 0x400 + (low - 0xDC00))

/-- The character a lone code unit stands for; half of a pair stands for the replacement character. -/
def unitChar (n : Nat) : Char := if isHighHalf n || isLowHalf n then '\uFFFD' else Char.ofNat n

/-- A character put in front of a string that has been read. -/
def consTo (c : Char) : Reading Text → Reading Text
  | .ok (s, rest) => .ok (c :: s, rest)
  | .error e => .error e

/-- The string whose opening quote has been read, where `opened` characters were left at that quote. -/
def readString (opened : Nat) : Text → Reading Text
  | [] => .error (.grammar .unterminatedString opened)
  | '"' :: t => .ok ([], t)
  | ['\\'] => .error (.grammar .unterminatedString opened)
  | '\\' :: 'u' :: a :: b :: c :: d :: '\\' :: 'u' :: e :: f :: g :: h :: t =>
    match code? a b c d with
    | none => breaks .badCodeEscape ('u' :: a :: b :: c :: d :: '\\' :: 'u' :: e :: f :: g :: h :: t)
    | some n =>
      if isHighHalf n && !t.isEmpty then
        match code? e f g h with
        | none => breaks .badCodeEscape ('u' :: e :: f :: g :: h :: t)
        | some m =>
          if isLowHalf m then consTo (joinHalves n m) (readString opened t)
          else consTo (unitChar n) (readString opened ('\\' :: 'u' :: e :: f :: g :: h :: t))
      else consTo (unitChar n) (readString opened ('\\' :: 'u' :: e :: f :: g :: h :: t))
  | '\\' :: 'u' :: a :: b :: c :: d :: t =>
    if t.isEmpty then breaks .badCodeEscape ('u' :: a :: b :: c :: d :: t)
    else match code? a b c d with
      | none => breaks .badCodeEscape ('u' :: a :: b :: c :: d :: t)
      | some n => consTo (unitChar n) (readString opened t)
  | '\\' :: 'u' :: t => breaks .badCodeEscape ('u' :: t)
  | '\\' :: c :: t =>
    match escaped? c with
    | some e => consTo e (readString opened t)
    | none => breaks .badEscape ('\\' :: c :: t)
  | c :: t => if c.toNat < 0x20 then breaks .controlCharacter (c :: t) else consTo c (readString opened t)
termination_by t => t.length

/-! ## Numbers -/

/-- The digits a text begins with, and the rest. -/
def takeDigits (t : Text) : Text × Text := (t.takeWhile isDigit, t.dropWhile isDigit)

/-- The fraction a text begins with, without its point: at least one digit, or nothing is taken. -/
def takeFraction : Text → Text × Text
  | '.' :: t =>
    match takeDigits t with
    | ([], _) => ([], '.' :: t)
    | (ds, rest) => (ds, rest)
  | t => ([], t)

/-- The power of ten a text begins with, if it begins with one. -/
def takePower : Text → Option Int × Text
  | [] => (none, [])
  | c :: t =>
    if c = 'e' || c = 'E' then
      let (negative, rest) := takeSign t
      match takeDigits rest with
      | ([], _) => (none, c :: t)
      | (ds, rest) => (some (if negative then -(decimalValue ds : Int) else decimalValue ds), rest)
    else (none, c :: t)

/-- The number with the given sign and digits before the point, and what may follow them. -/
def readNumberTail (negative : Bool) (whole rest : Text) : Reading Json :=
  let (fraction, rest) := takeFraction rest
  let (power, rest) := takePower rest
  if fraction.isEmpty && power.isNone then
    if maxDigits < whole.length then .error (.excessDigits ⟨whole.length⟩)
    else
      let n : Int := decimalValue whole
      .ok (.int (if negative then -n else n), rest)
  else
    .ok (.float (Binary64.ofDecimal negative (decimalValue (whole ++ fraction)) (power.getD 0 - fraction.length)), rest)

/-- A number after its sign; `start` is the text from the sign on, where a value is missing if there is no digit. -/
def readMagnitude (negative : Bool) (start : Text) : Text → Reading Json
  | '0' :: t => readNumberTail negative ['0'] t
  | t =>
    match takeDigits t with
    | ([], _) => breaks .expectedValue start
    | (ds, rest) => readNumberTail negative ds rest

/-- A number. -/
def readNumber (t : Text) : Reading Json :=
  match t with
  | '-' :: rest => readMagnitude true t rest
  | _ => readMagnitude false t t

/-! ## Values -/

/-- One of the names that stand for a value, or a number; the names of what is not a number only where they are allowed. -/
def readScalar (constants : Bool) (t : Text) : Reading Json :=
  let constant (x : Binary64) (rest : Text) : Reading Json := if constants then .ok (.float x, rest) else .error .notANumber
  match dropPrefix? "null" t with
  | some rest => .ok (.null, rest)
  | none =>
  match dropPrefix? "true" t with
  | some rest => .ok (.bool true, rest)
  | none =>
  match dropPrefix? "false" t with
  | some rest => .ok (.bool false, rest)
  | none =>
  match dropPrefix? "NaN" t with
  | some rest => constant .nan rest
  | none =>
  match dropPrefix? "Infinity" t with
  | some rest => constant (.infinity false) rest
  | none =>
  match dropPrefix? "-Infinity" t with
  | some rest => constant (.infinity true) rest
  | none => readNumber t

mutual

/-- A value, where the text begins with it. -/
def readValue (constants : Bool) : Nat → Text → Reading Json
  | 0, t => breaks .expectedValue t
  | fuel + 1, t =>
    match t with
    | '"' :: rest =>
      match readString t.length rest with
      | .ok (s, rest) => .ok (.text s, rest)
      | .error e => .error e
    | '[' :: rest =>
      match skipBlanks rest with
      | ']' :: rest => .ok (.list [], rest)
      | rest =>
        match readItems constants fuel rest with
        | .ok (items, rest) => .ok (.list items, rest)
        | .error e => .error e
    | '{' :: rest =>
      match skipBlanks rest with
      | '}' :: rest => .ok (.object [], rest)
      | rest =>
        match readEntries constants fuel [] rest with
        | .ok (entries, rest) => .ok (.object entries, rest)
        | .error e => .error e
    | t => readScalar constants t

/-- The items of a list up to its closing bracket, at least one. -/
def readItems (constants : Bool) : Nat → Text → Reading (List Json)
  | 0, t => breaks .expectedValue t
  | fuel + 1, t =>
    match readValue constants fuel t with
    | .error e => .error e
    | .ok (item, rest) =>
      match skipBlanks rest with
      | ']' :: rest => .ok ([item], rest)
      | ',' :: rest =>
        match readItems constants fuel (skipBlanks rest) with
        | .ok (items, rest) => .ok (item :: items, rest)
        | .error e => .error e
      | rest => breaks .expectedComma rest

/-- The entries of an object up to its closing brace, at least one, after the entries read before. -/
def readEntries (constants : Bool) : Nat → List (Text × Json) → Text → Reading (List (Text × Json))
  | 0, _, t => breaks .expectedName t
  | fuel + 1, entries, t =>
    match t with
    | '"' :: rest =>
      match readString t.length rest with
      | .error e => .error e
      | .ok (name, rest) =>
        match skipBlanks rest with
        | ':' :: rest =>
          match readValue constants fuel (skipBlanks rest) with
          | .error e => .error e
          | .ok (value, rest) =>
            match skipBlanks rest with
            | '}' :: rest => .ok (put name value entries, rest)
            | ',' :: rest => readEntries constants fuel (put name value entries) (skipBlanks rest)
            | rest => breaks .expectedComma rest
        | rest => breaks .expectedColon rest
    | t => breaks .expectedName t

end

/-- The value a whole text writes, with nothing but blanks around it. -/
def readWhole (constants : Bool) (t : Text) : Except Stop Json :=
  match t with
  | '\uFEFF' :: _ => .error (.grammar .byteOrderMark t.length)
  | _ =>
    match readValue constants (t.length + 1) (skipBlanks t) with
    | .error e => .error e
    | .ok (value, rest) =>
      match skipBlanks rest with
      | [] => .ok value
      | rest => .error (.grammar .extraData rest.length)

/-! ## Faults -/

/-- Why a whole text is not read. -/
inductive Fault where
  /-- The grammar breaks at a position, counted from zero, in a line and column, counted from one. -/
  | grammar (cause : Cause) (position line column : Nat)
  | excessDigits (digits : ExcessDigits)
  | notANumber
  deriving DecidableEq, Repr

/-- The place in a text where a given number of characters is left. -/
def Fault.locate (t : Text) : Stop → Fault
  | .grammar cause left =>
    let position := t.length - left
    let seen := t.take position
    .grammar cause position (seen.count '\n' + 1) ((seen.reverse.takeWhile (· != '\n')).length + 1)
  | .excessDigits digits => .excessDigits digits
  | .notANumber => .notANumber

/-- The words for a fault. -/
def Fault.message : Fault → Text
  | .grammar cause position line column =>
    cause.message ++ ": line " ++ ofNat line ++ " column " ++ ofNat column ++ " (char " ++ ofNat position ++ ")"
  | .excessDigits digits => digits.message
  | .notANumber => "Invalid JSON constant"

/-- Reads a JSON text. Numbers that are not numbers may be named. -/
def read (t : Text) : Except Fault Json := (readWhole true t).mapError (Fault.locate t)

/-- Reads a JSON text by the letter of the standard. -/
def readStrict (t : Text) : Except Fault Json := (readWhole false t).mapError (Fault.locate t)

end Flashcards.Json

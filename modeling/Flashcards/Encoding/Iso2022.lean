import Flashcards.Encoding.CodePage.Iso8859
import Flashcards.Encoding.CharacterSet.KsX1001
import Flashcards.Encoding.Japanese

/-!
# ISO 2022

Encodings in ASCII in which escape sequences choose the set of characters that the bytes after them are read in. A set is designated to
one of three places: the first is in force, the second while the bytes are shifted out, and the third for one byte after an escape of
its own. The forms of the encoding differ in the sets that may be designated and in what they make of shifts and of the third place.

An escape that begins no designation passes as it stands, and so does what follows it up to a capital letter or an at sign.
-/

namespace Flashcards.Encoding.Iso2022

/-- The forms of the encoding: the Japanese ones and the Korean one. -/
inductive Form where
  | japanese
  | japanese1
  | japanese2
  | japanese3
  | japanese2004
  | japaneseExtended
  | korean
  deriving DecidableEq, Repr

/-- The sets that may be designated. -/
inductive Designated where
  | ascii
  | jisRoman
  | jisKatakana
  | jisX0208Old
  | jisX0208
  | jisX0212
  | jisX0213 (edition : JisEdition)
  | jisX0213Second
  | gb2312
  | ksX1001
  | iso8859part1
  | iso8859part7
  deriving DecidableEq, Repr

/-- The set of a final byte in a designation, and whether the designation is for a set of pairs. -/
def Designated.ofFinal? (pairs : Bool) (final : UInt8) : Option Designated :=
  match pairs, Char.ofNat final.toNat with
  | false, 'B' => some .ascii
  | false, 'J' => some .jisRoman
  | false, 'I' => some .jisKatakana
  | false, 'A' => some .iso8859part1
  | false, 'F' => some .iso8859part7
  | true, '@' => some .jisX0208Old
  | true, 'B' => some .jisX0208
  | true, 'D' => some .jisX0212
  | true, 'O' => some (.jisX0213 .x0213of2000)
  | true, 'Q' => some (.jisX0213 .x0213of2004)
  | true, 'P' => some .jisX0213Second
  | true, 'A' => some .gb2312
  | true, 'C' => some .ksX1001
  | _, _ => none

namespace Form

/-- The sets that a form designates, apart from ASCII. -/
def sets : Form → List Designated
  | .japanese => [.jisX0208, .jisRoman, .jisX0208Old]
  | .japanese1 => [.jisX0208, .jisX0212, .jisRoman, .jisX0208Old]
  | .japanese2 =>
    [.jisX0208, .jisX0212, .ksX1001, .gb2312, .jisRoman, .jisX0208Old, .iso8859part1, .iso8859part7]
  | .japanese3 => [.jisX0208, .jisX0213 .x0213of2000, .jisX0213Second]
  | .japanese2004 => [.jisX0208, .jisX0213 .x0213of2004, .jisX0213Second]
  | .japaneseExtended => [.jisX0208, .jisX0212, .jisRoman, .jisKatakana, .jisX0208Old]
  | .korean => [.ksX1001]

/-- Whether a form has shifts; in the others, the bytes for them stand for themselves. -/
def hasShifts (form : Form) : Bool := form = .korean

/-- Whether a form has the third place. -/
def hasThird (form : Form) : Bool := form = .japanese2

/-- Whether a designation may have another in front that announces the edition of the set. -/
def announces (form : Form) : Bool := form != .korean

end Form

/-- How bytes are being read: the sets at the three places, whether they are shifted out, and whether they pass as they stand. -/
structure State where
  first : Designated
  second : Designated
  third : Designated
  shifted : Bool
  passing : Bool
  deriving DecidableEq, Repr

/-- The state at the start. -/
def State.initial : State := ⟨.ascii, .ascii, .ascii, false, false⟩

/-! ## Designations -/

/-- A byte that ends an escape sequence. -/
def isFinal (b : UInt8) : Bool := 0x40 ≤ b && b ≤ 0x5A

/-- A byte after an escape that begins a designation. -/
def beginsDesignation (b : UInt8) : Bool := b = 0x28 || b = 0x29 || b = 0x24 || b = 0x2E || b = 0x26

/-- The most bytes an escape sequence may have. -/
def maxLength : Nat := 16

/-- How an escape sequence ends. -/
inductive Ending where
  | at (length : Nat)
  | cutOff
  | tooLong
  deriving DecidableEq, Repr

/-- The end of an escape sequence, looked for from a place on. An announcement in it is passed over, with the escape after it. -/
def ending (announces : Bool) : (place : Nat) → Bytes → Ending
  | place, [] => if place < maxLength then .cutOff else .tooLong
  | place, b :: rest =>
    if maxLength ≤ place then .tooLong
    else if isFinal b then .at (place + 1)
    else if announces && b = 0x26 then
      match rest with
      | 0x40 :: _ :: rest => ending announces (place + 3) rest
      | [0x40] => if place + 3 < maxLength then .cutOff else .tooLong
      | rest => ending announces (place + 1) rest
    else ending announces (place + 1) rest

/-- The place and the set that an escape sequence designates: its bytes after the escape are given. Two bytes in front of a designation
announce its edition, whatever they are. -/
def designation? (form : Form) : Bytes → Option (Nat × Designated)
  | [0x24, final] => (Designated.ofFinal? true final).map (0, ·)
  | [0x28, final] => (Designated.ofFinal? false final).map (0, ·)
  | [0x29, final] => (Designated.ofFinal? false final).map (1, ·)
  | [0x2E, final] => if form.hasThird then (Designated.ofFinal? false final).map (2, ·) else none
  | [0x24, 0x28, final] => (Designated.ofFinal? true final).map (0, ·)
  | [0x24, 0x29, final] => (Designated.ofFinal? true final).map (1, ·)
  | [_, _, 0x1B, 0x24, 0x42] => if form.announces then some (0, .jisX0208) else none
  | _ => none

/-- A set designated to a place. -/
def State.designate (s : State) (place : Nat) (set : Designated) : State :=
  if place = 0 then { s with first := set } else if place = 1 then { s with second := set } else { s with third := set }

/-- The piece of an escape sequence that begins like a designation. One that designates nothing the form has is a gap. -/
def designationPiece (form : Form) (s : State) (rest : Bytes) : Piece × State :=
  match ending form.announces 1 rest with
  | .cutOff => (.gap (1 + rest.length), s)
  | .tooLong => (.gap 1, s)
  | .at length =>
    match designation? form (rest.take (length - 1)) with
    | some (place, set) =>
      if set = .ascii || form.sets.contains set then (.silent length, s.designate place set) else (.gap length, s)
    | none => (.gap length, s)

/-! ## Characters -/

/-- The characters of a byte, or of a pair, in a set, with the number of bytes; nothing where a pair is cut off. -/
def charsIn (set : Designated) (b : UInt8) (rest : Bytes) : Option (List Char × Nat) :=
  let pair (chars : UInt8 → List Char) : Option (List Char × Nat) := rest.head?.map fun c => (chars c, 2)
  match set with
  | .ascii => some ([Char.ofNat b.toNat], 1)
  | .jisRoman => some ([Japanese.singleChar .x0213of2004 b], 1)
  | .jisKatakana => some ((Japanese.halfWidth? (b + 0x80)).toList, 1)
  | .jisX0208Old | .jisX0208 => pair fun c => (CharacterSet.jisX0208.lowChar? b c).toList
  | .jisX0212 => pair fun c => (CharacterSet.jisX0212.lowChar? b c).toList
  | .jisX0213 edition => pair fun c => Japanese.firstPlane edition (b.toNat - 0x20) (c.toNat - 0x20)
  | .jisX0213Second => pair fun c => (CharacterSet.jisX0213Second.lowChar? b c).toList
  | .gb2312 => pair fun c => (CharacterSet.gb2312.lowChar? b c).toList
  | .ksX1001 => pair fun c => (CharacterSet.ksX1001.lowChar? b c).toList
  | .iso8859part1 | .iso8859part7 => some ([], 1)

/-- The piece at a byte in a set. -/
def pieceIn (set : Designated) (b : UInt8) (rest : Bytes) : Piece :=
  match charsIn set b rest with
  | none => .gap 1
  | some ([], size) => .gap size
  | some (chars, size) => ⟨chars.map some, size⟩

/-- The character of the upper half of ISO 8859, part 7, as it was in 1987, without three that have been added since. -/
def greekChar? (b : UInt8) : Option Char :=
  if b = 0xA4 || b = 0xA5 || b = 0xAA then none else CodePage.iso8859part7.char? b

/-- The character of one byte in the set at the third place. -/
def thirdChar? (set : Designated) (b : UInt8) : Option Char :=
  match set with
  | .iso8859part1 => if b < 0x80 then some (Char.ofNat (b.toNat + 0x80)) else none
  | .iso8859part7 => greekChar? (b ^^^ 0x80)
  | .ascii => if b < 0x80 then some (Char.ofNat b.toNat) else none
  | _ => none

/-- The piece of an escape with the bytes after it. -/
def escapePiece (form : Form) (s : State) : Bytes → Piece × State
  | [] => (.gap 1, s)
  | b :: rest =>
    if beginsDesignation b then designationPiece form s (b :: rest)
    else if form.hasThird && b = 0x4E then
      match rest with
      | [] => (.gap 2, s)
      | c :: _ =>
        match thirdChar? s.third c with
        | some c => (.ofChar c 3, s)
        | none => (.gap 3, s)
    else (.ofChar '\x1b' 1, { s with passing := true })

/-- The reader of a form of the encoding. -/
def reader (form : Form) : Reader State where
  start := .initial
  step s b rest :=
    let itself : Piece := .ofChar (Char.ofNat b.toNat) 1
    if s.passing then (itself, { s with passing := !isFinal b })
    else if b = 0x1B then escapePiece form s rest
    else if b = 0x0F && form.hasShifts then (.silent 1, { s with shifted := false })
    else if b = 0x0E && form.hasShifts then (.silent 1, { s with shifted := true })
    else if b = 0x0A then (itself, { s with shifted := false })
    else if b < 0x20 then (itself, s)
    else if 0x80 ≤ b then (.gap 1, s)
    else (pieceIn (if s.shifted then s.second else s.first) b rest, s)

end Flashcards.Encoding.Iso2022

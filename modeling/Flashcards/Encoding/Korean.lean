import Flashcards.Encoding.CharacterSet.KsX1001

/-!
# Korean encodings

Three encodings of KS X 1001, which holds the more frequent syllables. The first spells the other syllables letter by letter; the second
gives them the pairs of bytes that are left, in order; the third writes the letters of all syllables into the bits of its pairs.
-/

namespace Flashcards.Encoding

/-! ## Syllables -/

namespace Hangul

/-- The consonants that a syllable may begin with, in order. -/
def leads : Text := "ㄱㄲㄴㄷㄸㄹㅁㅂㅃㅅㅆㅇㅈㅉㅊㅋㅌㅍㅎ"

/-- The vowels of syllables, in order. -/
def vowels : Text := "ㅏㅐㅑㅒㅓㅔㅕㅖㅗㅘㅙㅚㅛㅜㅝㅞㅟㅠㅡㅢㅣ"

/-- The consonants that a syllable may end with, in order. -/
def tails : Text := "ㄱㄲㄳㄴㄵㄶㄷㄹㄺㄻㄼㄽㄾㄿㅀㅁㅂㅄㅅㅆㅇㅈㅊㅋㅌㅍㅎ"

/-- The syllable of a consonant and a vowel by their places in order, and of a tail: zero for none, else one more than its place. -/
def syllable (lead vowel tail : Nat) : Char := Char.ofNat (0xAC00 + (lead * 21 + vowel) * 28 + tail)

/-- The syllable of letters, the last of which may be missing. -/
def ofLetters? (lead vowel : Char) (tail : Option Char) : Option Char := do
  let l ← leads.findIdx? (· == lead)
  let v ← vowels.findIdx? (· == vowel)
  match tail with
  | none => pure (syllable l v 0)
  | some c => do
    let t ← tails.findIdx? (· == c)
    pure (syllable l v (t + 1))

end Hangul

namespace Korean

/-! ## KS X 1001 in the upper half -/

/-- The letter that the second byte of a pair stands for when a syllable is spelled. -/
def letter? (b : UInt8) : Option Char := CharacterSet.ksX1001.highChar? 0xA4 b

/-- The second byte of the pair that fills the place of a letter. -/
def filler : UInt8 := 0xD4

/-- The piece of a spelled syllable: four pairs, the first of which has been seen. -/
def spelledPiece : Bytes → Piece
  | a :: lead :: b :: vowel :: c :: tail :: _ =>
    if a = 0xA4 && b = 0xA4 && c = 0xA4 then
      .ofChar? (do
        let end? ← if tail = filler then pure none else (letter? tail).map some
        Hangul.ofLetters? (← letter? lead) (← letter? vowel) end?) 8
    else .gap 1
  | rest => .gap (2 + rest.length)

/-- The reader of KS X 1001 in the upper half, with spelled syllables. -/
def eucKr : Reader Unit :=
  .aboveAscii fun b rest =>
    match b, rest with
    | 0xA4, 0xD4 :: rest => spelledPiece rest
    | b, rest => .ofPair CharacterSet.ksX1001.highChar? b rest

/-! ## All syllables in pairs -/

/-- The syllables that KS X 1001 lacks, in order. -/
def missingSyllables : Array Char :=
  let held : Array Bool := CharacterSet.ksX1001.toList.foldl (fun a c => a.setIfInBounds c.toNat true) (Array.replicate 0x10000 false)
  (((List.range 11172).filter fun n => !(held[0xAC00 + n]?.getD false)).map fun n => Char.ofNat (0xAC00 + n)).toArray

/-- The place of a second byte of a pair for such a syllable: a letter of ASCII or a byte of the upper half. -/
def syllablePlace? (c : UInt8) : Option Nat :=
  if 0x41 ≤ c && c ≤ 0x5A then some (c.toNat - 0x41)
  else if 0x61 ≤ c && c ≤ 0x7A then some (c.toNat - 0x61 + 26)
  else if 0x81 ≤ c && c ≤ 0xFE then some (c.toNat - 0x81 + 52)
  else none

/-- The syllable of a pair that KS X 1001 leaves free. Rows have 178 places, and those from byte A1 on have 84. -/
def freeSyllable? (b c : UInt8) : Option Char :=
  match syllablePlace? c with
  | none => none
  | some place =>
    if 0x81 ≤ b && b ≤ 0xA0 then missingSyllables[(b.toNat - 0x81) * 178 + place]?
    else if 0xA1 ≤ b && place < 84 then missingSyllables[32 * 178 + (b.toNat - 0xA1) * 84 + place]?
    else none

/-- The reader of KS X 1001 in the upper half, with all other syllables in free pairs. -/
def unified : Reader Unit :=
  .aboveAscii (Piece.ofPair fun b c => (CharacterSet.ksX1001.highChar? b c).orElse fun _ => freeSyllable? b c)

/-! ## Letters in bits -/

/-- What five bits stand for: nothing, no letter, or a letter by its place in order. -/
inductive Bits where
  | none
  | filler
  | letter (place : Nat)
  deriving DecidableEq, Repr

/-- The consonant at the start that five bits stand for. -/
def leadBits (n : Nat) : Bits := if n = 1 then .filler else if 2 ≤ n && n ≤ 20 then .letter (n - 2) else .none

/-- The vowel that five bits stand for; in each eight numbers, six are in use. -/
def vowelBits (n : Nat) : Bits :=
  if n = 2 then .filler
  else if n % 8 < 2 || n < 3 || 29 < n then .none
  else .letter (n / 8 * 6 + n % 8 - 3)

/-- The consonant at the end that five bits stand for. -/
def tailBits (n : Nat) : Bits :=
  if n = 1 then .filler
  else if 2 ≤ n && n ≤ 17 then .letter (n - 2)
  else if 19 ≤ n && n ≤ 29 then .letter (n - 3)
  else .none

/-- The syllable, or the letter alone, of a pair whose bits stand for letters. -/
def bitChar? (b c : UInt8) : Option Char :=
  let n := b.toNat * 256 + c.toNat
  match leadBits (n / 1024 % 32), vowelBits (n / 32 % 32), tailBits (n % 32) with
  | .letter l, .letter v, .letter t => some (Hangul.syllable l v (t + 1))
  | .letter l, .letter v, .filler => some (Hangul.syllable l v 0)
  | .letter l, .filler, .filler => Hangul.leads[l]?
  | .filler, .letter v, .filler => Hangul.vowels[v]?
  | .filler, .filler, .letter t => Hangul.tails[t]?
  | .filler, .filler, .filler => some '\u3000'
  | _, _, _ => none

/-- The symbol or ideograph of KS X 1001 of a pair above those of letters: each first byte stands for two rows, and the ideographs follow
the symbols without the rows of syllables between. -/
def symbolChar? (b c : UInt8) : Option Char :=
  let cell := if c < 0x91 then c.toNat - 0x31 else c.toNat - 0x43
  let row := (if b < 0xE0 then 2 * (b.toNat - 0xD9) else 2 * b.toNat - 0x197) + (if cell < 94 then 0 else 1) + 1
  if b < 0xD9 || b = 0xDF || 0xF9 < b || c < 0x31 || (0x7F ≤ c && c < 0x91) || c = 0xFF then none
  else if b = 0xDA && 0xA1 ≤ c && c ≤ 0xD3 then none
  else CharacterSet.ksX1001.char? row (cell % 94 + 1)

/-- The reader of letters in bits. -/
def johab : Reader Unit := .aboveAscii (Piece.ofPair fun b c => if b < 0xD8 then bitChar? b c else symbolChar? b c)

end Korean

end Flashcards.Encoding

import Flashcards.Encoding.CharacterSet.BigFive
import Flashcards.Encoding.CharacterSet.Gb2312
import Flashcards.Encoding.CharacterSet.HongKong
import Flashcards.Encoding.CodePage
import Flashcards.Encoding.Unicode

/-!
# Chinese encodings

GB 2312 in the upper half, its extensions to all ideographs and to all of Unicode, and its form in ASCII; and Big Five with two of its
extensions.

Much of the extensions follows from an order. The first fills two blocks of pairs with the ideographs that GB 2312 lacks. The second gives
private code points to the pairs that are left, and four bytes to all that has no pair.
-/

namespace Flashcards.Encoding

/-- Characters of consecutive places in the row of a first byte, with the replacement character at a place that is passed over. -/
abbrev Runs := List (Nat × Nat × String)

/-- The character at a place in a row. -/
def Runs.char? (runs : Runs) (row place : Nat) : Option Char :=
  runs.findSome? fun (r, first, chars) =>
    if r = row && first ≤ place then (chars.toList[place - first]?).filter (· != '\uFFFD') else none

namespace Chinese

/-! ## GB 2312 and all ideographs -/

/-- The number of places in a row of the extensions. -/
def rowSize : Nat := 190

/-- The place of a second byte: any from 64 on but 127 and 255. -/
def place? (c : UInt8) : Option Nat :=
  if 0x40 ≤ c && c ≤ 0x7E then some (c.toNat - 0x40) else if 0x80 ≤ c && c ≤ 0xFE then some (c.toNat - 0x41) else none

/-- The place of byte A1, where the right half of a row begins. -/
def half : Nat := 0xA1 - 0x41

/-- Which characters of the first plane of Unicode are among the given ones. -/
def holding (chars : List Char) : Array Bool := chars.foldl (fun a c => a.setIfInBounds c.toNat true) (Array.replicate 0x10000 false)

/-- The ideographs that GB 2312 lacks, in order. -/
def missingIdeographs : Array Char :=
  let held := holding CharacterSet.gb2312.toList
  ((CodePage.pointsBetween 0x4E00 0x9FA5).filter fun c => !(held[c.toNat]?.getD false)).toArray

/-- The place of a pair in the order of such ideographs: first 32 whole rows, then the left halves of the last rows. -/
def ideographRank? (row place : Nat) : Option Nat :=
  if row < 0x81 then none
  else if row ≤ 0xA0 then some ((row - 0x81) * rowSize + place)
  else if 0xAA ≤ row && place < half then some (32 * rowSize + (row - 0xAA) * half + place)
  else none

/-- Symbols and letters that the first extension adds, and ideographs for compatibility. -/
def added : Runs :=
  [(0xA2, 96, "ⅰⅱⅲⅳⅴⅵⅶⅷⅸⅹ"),
   (0xA6, 159, "︵︶︹︺︿﹀︽︾﹁﹂﹃﹄��︻︼︷︸︱�︳︴"),
   (0xA8, 0, "ˊˋ˙–―‥‵℅℉↖↗↘↙∕∟∣≒≦≧⊿═║╒╓╔╕╖╗╘╙╚╛╜╝╞╟╠╡╢╣╤╥╦╧╨╩╪╫╬╭╮╯╰╱╲╳▁▂▃▄▅▆▇█▉▊▋▌▍▎▏▓▔▕▼▽◢◣◤◥☉⊕〒〝〞"),
   (0xA8, 122, "ɑ�ńň�ɡ"),
   (0xA9, 0, "〡〢〣〤〥〦〧〨〩㊣㎎㎏㎜㎝㎞㎡㏄㏎㏑㏒㏕︰￢￤�℡㈱�‐���ー゛゜ヽヾ〆ゝゞ﹉﹊﹋﹌﹍﹎﹏﹐﹑﹒﹔﹕﹖﹗﹙﹚﹛﹜﹝﹞﹟﹠﹡﹢﹣﹤﹥﹦﹨﹩﹪﹫"),
   (0xA9, 85, "〇"),
   (0xFD, 91, "郎凉秊裏隣"),
   (0xFE, 0, "兀嗀﨎﨏﨑﨓﨔礼﨟蘒﨡﨣﨤﨧﨨﨩")]

/-- Symbols that the extensions read otherwise than GB 2312 does. -/
def changed : Runs := [(0xA1, 99, "·"), (0xA1, 105, "—")]

/-- The character of a place in GB 2312, which fills right halves of rows. -/
def rightHalf? (row place : Nat) : Option Char := if place < half then none else CharacterSet.gb2312.char? (row - 0xA0) (place - half + 1)

/-- The character at a place of the first extension. -/
def ideographAt? (row place : Nat) : Option Char :=
  (changed.char? row place).orElse fun _ =>
    (rightHalf? row place).orElse fun _ =>
      ((ideographRank? row place).bind fun rank => missingIdeographs[rank]?).orElse fun _ => added.char? row place

/-- The reader of GB 2312. -/
def gb2312 : Reader Unit := .aboveAscii (Piece.ofPair CharacterSet.gb2312.highChar?)

/-- The reader of the first extension. -/
def gbk : Reader Unit := .aboveAscii (Piece.ofPair fun b c => (place? c).bind (ideographAt? b.toNat))

/-! ## All of Unicode -/

/-- Characters that have got a code point of their own since the pairs that are left got private ones. -/
def assigned : Runs :=
  [(0xA2, 162, "€"),
   (0xA8, 126, "ǹ"),
   (0xA9, 72, "〾⿰⿱⿲⿳⿴⿵⿶⿷⿸⿹⿺⿻"),
   (0xFE, 16, "⺁���⺄㑳㑇⺈⺋�㖞㘚㘎⺌⺗㥮㤘�㧏㧟㩳㧐��㭎㱮㳠⺧��⺪䁖䅟⺮䌷⺳⺶⺷�䎱䎬⺻䏝䓖䙡䙌�䜣䜩䝼䞍⻊䥇䥺䥽䦂䦃䦅䦆䦟䦛䦷䦶��䲣䲟䲠䲡䱷䲢䴓䴔䴕䴖䴗䴘䴙䶮")]

/-- The private code point of a place in one of three zones that are left to their users. -/
def userPoint? (row place : Nat) : Option Nat :=
  if 0xAA ≤ row && row ≤ 0xAF && half ≤ place then some (0xE000 + (row - 0xAA) * 94 + (place - half))
  else if 0xF8 ≤ row && row ≤ 0xFE && half ≤ place then some (0xE000 + 564 + (row - 0xF8) * 94 + (place - half))
  else if 0xA1 ≤ row && row ≤ 0xA7 && place < half then some (0xE000 + 1222 + (row - 0xA1) * half + place)
  else none

/-- The characters of places in order, where the places that are left get private code points from a number on. -/
def fill : (next : Nat) → List (Nat × Nat) → List Char
  | _, [] => []
  | next, (row, place) :: rest =>
    match (ideographAt? row place).orElse fun _ => (userPoint? row place).map Char.ofNat with
    | some c => c :: fill next rest
    | none => ((assigned.char? row place).getD (Char.ofNat next)) :: fill (next + 1) rest

/-- The characters of all pairs, row by row from byte 81 on. -/
def pairs : Array Char :=
  (fill 0xE766 ((List.range (126 * rowSize)).map fun n => (0x81 + n / rowSize, n % rowSize))).toArray

/-- The characters of the first plane of Unicode above ASCII that have no pair, in order. -/
def withoutPair : Array Char :=
  let held := holding pairs.toList
  ((CodePage.pointsBetween 0x80 0xD7FF ++ CodePage.pointsBetween 0xE000 0xFFFF).filter fun c => !(held[c.toNat]?.getD false)).toArray

/-- A number of four bytes, each of which has a least value and a number of values. -/
def fourNumber (a b c d : UInt8) : Nat := (((a.toNat - 0x81) * 10 + (b.toNat - 0x30)) * 126 + (c.toNat - 0x81)) * 10 + (d.toNat - 0x30)

/-- Whether a byte may be the second or the fourth of four. -/
def isEven (b : UInt8) : Bool := 0x30 ≤ b && b ≤ 0x39

/-- Whether a byte may be the first or the third of four. -/
def isOdd (b : UInt8) : Bool := 0x81 ≤ b && b ≤ 0xFE

/-- The character of four bytes: one without a pair, or one above the first plane. -/
def fourChar? (a b c d : UInt8) : Option Char :=
  if !(isOdd a && isEven b && isOdd c && isEven d) then none
  else if a < 0x85 then withoutPair[fourNumber a b c d]?
  else if a < 0x90 then none
  else ofPoint? (0x10000 + fourNumber a b c d - fourNumber 0x90 0x30 0x81 0x30)

/-- The reader of all of Unicode. -/
def gb18030 : Reader Unit :=
  .aboveAscii fun a rest =>
    match rest with
    | [] => .gap 1
    | b :: rest =>
      if isEven b then
        match rest with
        | c :: d :: _ => .ofChar? (fourChar? a b c d) 4
        | rest => .gap (2 + rest.length)
      else .ofChar? ((place? b).bind fun place => if isOdd a then pairs[(a.toNat - 0x81) * rowSize + place]? else none) 2

/-! ## GB 2312 in ASCII -/

/-- The piece after a tilde, and whether pairs follow. -/
def tildePiece (inPairs : Bool) : Bytes → Piece × Bool
  | 0x7E :: _ => if inPairs then (.gap 1, true) else (.ofChar '~' 2, false)
  | 0x7B :: _ => if inPairs then (.gap 1, true) else (.silent 2, true)
  | 0x0A :: _ => if inPairs then (.gap 1, true) else (.silent 2, false)
  | 0x7D :: _ => if inPairs then (.silent 2, false) else (.gap 1, false)
  | _ => (.gap 1, inPairs)

/-- The reader of GB 2312 in ASCII: its pairs stand between a tilde with an opening brace and one with a closing brace. -/
def hz : Reader Bool where
  start := false
  step inPairs b rest :=
    if b = 0x7E then tildePiece inPairs rest
    else if 0x80 ≤ b then (.gap 1, inPairs)
    else if inPairs then (.ofPair CharacterSet.gb2312.lowChar? b rest, true)
    else (.ofChar (Char.ofNat b.toNat) 1, false)

/-! ## Big Five -/

/-- The place of a second byte in Big Five. -/
def bigPlace? (c : UInt8) : Option Nat :=
  if 0x40 ≤ c && c ≤ 0x7E then some (c.toNat - 0x40) else if 0xA1 ≤ c && c ≤ 0xFE then some (c.toNat - 0xA1 + 63) else none

/-- The character of a pair in Big Five. -/
def bigFiveChar? (b c : UInt8) : Option Char :=
  (bigPlace? c).bind fun place => CharacterSet.bigFive.char? (b.toNat - 0xA0) (place + 1)

/-- What Windows adds to Big Five, and the symbols it reads otherwise. -/
def windowsAdded : Runs :=
  [(0xA1, 5, "‧"),
   (0xA1, 14, "﹑"),
   (0xA1, 96, "¯"),
   (0xA1, 129, "～"),
   (0xA1, 144, "⊕⊙"),
   (0xA2, 1, "∕﹨"),
   (0xA2, 4, "￥"),
   (0xA2, 6, "￠￡"),
   (0xA3, 127, "€"),
   (0xF9, 116, "碁銹裏墻恒粧嫺╔╦╗╠╬╣╚╩╝╒╤╕╞╪╡╘╧╛╓╥╖╟╫╢╙╨╜║═╭╮╰╯▓")]

/-- The character of a pair in Big Five on Windows. -/
def windowsBigChar? (b c : UInt8) : Option Char :=
  ((bigPlace? c).bind (windowsAdded.char? b.toNat)).orElse fun _ => bigFiveChar? b c

/-- The character of a pair that Hong Kong adds to Big Five. -/
def hongKongChar? (b c : UInt8) : Option Char :=
  (bigPlace? c).bind fun place => CharacterSet.hongKong.char? (b.toNat - 0x86) (place + 1)

/-- The letters with two marks of Hong Kong, which are two characters. -/
def markedLetter? (b c : UInt8) : Option (Char × Char) :=
  if b != 0x88 then none
  else if c = 0x62 then some ('Ê', '\u0304')
  else if c = 0x64 then some ('Ê', '\u030C')
  else if c = 0xA3 then some ('ê', '\u0304')
  else if c = 0xA5 then some ('ê', '\u030C')
  else none

/-- Whether a pair is one of those that Hong Kong reads in its own way. -/
def isHongKongs (b c : UInt8) : Bool := (b = 0xC6 && 0xA1 ≤ c) || b = 0xC7 || b = 0xC8

/-- The reader of Big Five. -/
def bigFive : Reader Unit := .aboveAscii (Piece.ofPair bigFiveChar?)

/-- The reader of Big Five on Windows. -/
def windowsBig : Reader Unit := .aboveAscii (Piece.ofPair windowsBigChar?)

/-- The reader of Big Five with the supplementary characters of Hong Kong. -/
def hongKong : Reader Unit :=
  .aboveAscii fun b rest =>
    match rest with
    | [] => .gap 1
    | c :: _ =>
      match markedLetter? b c with
      | some (letter, mark) => ⟨[some letter, some mark], 2⟩
      | none => .ofChar? ((if isHongKongs b c then none else bigFiveChar? b c).orElse fun _ => hongKongChar? b c) 2

end Chinese

end Flashcards.Encoding

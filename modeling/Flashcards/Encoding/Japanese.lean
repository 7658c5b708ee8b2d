import Flashcards.Encoding.CharacterSet.JisX0208
import Flashcards.Encoding.CharacterSet.JisX0212
import Flashcards.Encoding.CharacterSet.JisX0213
import Flashcards.Encoding.Chinese

/-!
# Japanese encodings

The sets JIS X 0208, 0212 and 0213 are written in two ways: in the upper half, where a byte in front tells the second set, and by bytes
whose first each stand for two rows of cells, which leaves single bytes for the syllables of half width. On Windows, the second way has
further symbols and ideographs.
-/

namespace Flashcards.Encoding

/-- The editions of the standard that differ in what they hold: JIS X 0208 with its supplement, and JIS X 0213 of two years. -/
inductive JisEdition where
  | x0208
  | x0213of2000
  | x0213of2004
  deriving DecidableEq, Repr

namespace Japanese

/-- The syllable of half width for a byte. -/
def halfWidth? (b : UInt8) : Option Char := if 0xA1 ≤ b && b ≤ 0xDF then some (Char.ofNat (0xFEC0 + b.toNat)) else none

/-! ## The sets by edition -/

/-- The cells that the edition of 2004 has added. -/
def cellsOf2004 : List (Nat × Nat) :=
  [(14, 1), (15, 94), (47, 52), (47, 94), (84, 7), (94, 90), (94, 91), (94, 92), (94, 93), (94, 94)]

/-- The characters of a cell of the first plane of an edition. -/
def firstPlane (edition : JisEdition) (row cell : Nat) : List Char :=
  let single := (CharacterSet.jisX0208.char? row cell).orElse fun _ => CharacterSet.jisX0213.char? row cell
  match edition with
  | .x0208 => (CharacterSet.jisX0208.char? row cell).toList
  | .x0213of2000 => if cellsOf2004.contains (row, cell) then [] else chosen single
  | .x0213of2004 => chosen single
where
  /-- A single character, or else the two of the cell. -/
  chosen : Option Char → List Char
    | some c => [c]
    | none => ((CharacterSet.jisX0213Pairs.lookup (row, cell)).map String.toList).getD []

/-- The character of a cell of the second plane of an edition. For one cell the editions differ. -/
def secondPlane? (edition : JisEdition) (row cell : Nat) : Option Char :=
  match edition with
  | .x0208 => none
  | .x0213of2000 => if row = 93 && cell = 27 then some '鬝' else CharacterSet.jisX0213Second.char? row cell
  | .x0213of2004 => CharacterSet.jisX0213Second.char? row cell

/-- The piece of the characters of a cell that is written with two bytes. Where there are none, the first byte alone is a gap, but both
are where a later edition has a character. -/
def cellPiece (edition : JisEdition) (row cell : Nat) (chars : List Char) : Piece :=
  if !chars.isEmpty then ⟨chars.map some, 2⟩
  else if edition = .x0213of2000 && cellsOf2004.contains (row, cell) then .gap 2
  else .gap 1

/-! ## The upper half -/

/-- The characters of a row and a cell in the upper half. -/
def highChars (edition : JisEdition) (row cell : Nat) : List Char :=
  if edition != .x0208 && row = 2 && cell = 18 then ['～'] else firstPlane edition row cell

/-- The character of a pair in the upper half after the byte that tells the second set: JIS X 0212, or what an edition has before it. -/
def secondSetChar? (edition : JisEdition) (b c : UInt8) : Option Char :=
  (secondPlane? edition (b.toNat - 0xA0) (c.toNat - 0xA0)).orElse fun _ => CharacterSet.jisX0212.highChar? b c

/-- The reader of the sets in the upper half. -/
def upperHalf (edition : JisEdition) : Reader Unit :=
  .aboveAscii fun a rest =>
    if a = 0x8F then
      match rest with
      | b :: c :: _ => .ofChar? (secondSetChar? edition b c) 3
      | rest => .gap (1 + rest.length)
    else match rest with
      | [] => .gap 1
      | b :: _ =>
        let row := a.toNat - 0xA0
        let cell := b.toNat - 0xA0
        if a = 0x8E then .ofChar? (halfWidth? b) 2 else cellPiece edition row cell (highChars edition row cell)

/-! ## Two rows to a byte -/

/-- The row and the cell of a pair, where each first byte stands for two rows. -/
def rowCell? (b c : UInt8) : Option (Nat × Nat) :=
  let place := if c < 0x80 then c.toNat - 0x40 else c.toNat - 0x41
  let two := if b < 0xE0 then b.toNat - 0x81 else b.toNat - 0xC1
  if c < 0x40 || c = 0x7F || 0xFC < c then none else some (2 * two + place / 94 + 1, place % 94 + 1)

/-- Whether a byte is the first of a pair. -/
def isLead (b : UInt8) : Bool := (0x81 ≤ b && b ≤ 0x9F) || (0xE0 ≤ b && b ≤ 0xFC)

/-- The rows of the second plane that are in use, in the order in which they follow those of the first. -/
def secondRows : List Nat := [1, 8, 3, 4, 5, 12, 13, 14, 15] ++ (List.range 17).map (78 + ·)

/-- The characters of a row and a cell, where the rows of the second plane follow those of the first. The signs of ASCII that single bytes
do not stand for have cells of their own. -/
def rowChars (edition : JisEdition) (row cell : Nat) : List Char :=
  if 94 < row then ((secondRows[row - 95]?).bind fun r => secondPlane? edition r cell).toList
  else if edition != .x0208 && row = 1 && cell = 32 then ['\\']
  else firstPlane edition row cell

/-- The character of a single byte below 128: with JIS X 0213, two signs of ASCII make room for others. -/
def singleChar (edition : JisEdition) (b : UInt8) : Char :=
  if edition != .x0208 && b = 0x5C then '¥' else if edition != .x0208 && b = 0x7E then '‾' else Char.ofNat b.toNat

/-- The reader of the sets with two rows to a byte. -/
def shifted (edition : JisEdition) : Reader Unit :=
  .plain fun b rest =>
    if b < 0x80 then .ofChar (singleChar edition b) 1
    else if !isLead b then .ofChar? (halfWidth? b) 1
    else match rest with
      | [] => .gap 1
      | c :: _ =>
        match rowCell? b c with
        | some (row, cell) => cellPiece edition row cell (rowChars edition row cell)
        | none => .gap 1

/-! ## Windows -/

/-- The symbols of row 13 on Windows. -/
def windowsSymbols : String :=
  "①②③④⑤⑥⑦⑧⑨⑩⑪⑫⑬⑭⑮⑯⑰⑱⑲⑳ⅠⅡⅢⅣⅤⅥⅦⅧⅨⅩ�㍉㌔㌢㍍㌘㌧㌃㌶㍑㍗㌍㌦㌣㌫㍊㌻㎜㎝㎞㎎㎏㏄㎡��������㍻〝〟№㏍℡㊤㊥㊦㊧㊨㈱㈲㈹㍾㍽㍼≒≡∫∮∑√⊥∠∟⊿∵∩∪"

/-- The ideographs of rows 89 to 92 on Windows, and after them some symbols. -/
def windowsIdeographs : Array Char :=
  (String.join
    ["纊褜鍈銈蓜俉炻昱棈鋹曻彅丨仡仼伀伃伹佖侒侊侚侔俍偀倢俿倞偆偰偂傔僴僘兊兤冝冾凬刕劜劦勀勛匀匇匤卲厓厲叝﨎咜咊咩哿喆坙坥垬埈埇﨏塚增墲夋奓奛奝奣妤妺孖寀甯寘寬尞岦岺峵崧嵓﨑嵂嵭嶸嶹巐弡弴彧德",
     "忞恝悅悊惞惕愠惲愑愷愰憘戓抦揵摠撝擎敎昀昕昻昉昮昞昤晥晗晙晴晳暙暠暲暿曺朎朗杦枻桒柀栁桄棏﨓楨﨔榘槢樰橫橆橳橾櫢櫤毖氿汜沆汯泚洄涇浯涖涬淏淸淲淼渹湜渧渼溿澈澵濵瀅瀇瀨炅炫焏焄煜煆煇凞燁燾犱",
     "犾猤猪獷玽珉珖珣珒琇珵琦琪琩琮瑢璉璟甁畯皂皜皞皛皦益睆劯砡硎硤硺礰礼神祥禔福禛竑竧靖竫箞精絈絜綷綠緖繒罇羡羽茁荢荿菇菶葈蒴蕓蕙蕫﨟薰蘒﨡蠇裵訒訷詹誧誾諟諸諶譓譿賰賴贒赶﨣軏﨤逸遧郞都鄕鄧釚",
     "釗釞釭釮釤釥鈆鈐鈊鈺鉀鈼鉎鉙鉑鈹鉧銧鉷鉸鋧鋗鋙鋐﨧鋕鋠鋓錥錡鋻﨨錞鋿錝錂鍰鍗鎤鏆鏞鏸鐱鑅鑈閒隆﨩隝隯霳霻靃靍靏靑靕顗顥飯飼餧館馞驎髙髜魵魲鮏鮱鮻鰀鵰鵫鶴鸙黑��ⅰⅱⅲⅳⅴⅵⅶⅷⅸⅹ￢￤＇＂"]).toList.toArray

/-- The symbols before the ideographs where they are repeated from row 115 on. -/
def repeatedSymbols : String := "ⅰⅱⅲⅳⅴⅵⅶⅷⅸⅹⅠⅡⅢⅣⅤⅥⅦⅧⅨⅩ￢￤＇＂㈱№℡∵"

/-- The symbols that Windows reads otherwise than JIS X 0208 does, by row and cell. -/
def windowsChanged : List ((Nat × Nat) × Char) :=
  [((1, 33), '～'), ((1, 34), '∥'), ((1, 61), '－'), ((1, 81), '￠'), ((1, 82), '￡'), ((2, 44), '￢')]

/-- The character of a row and a cell that Windows adds or reads otherwise. -/
def windowsAdded? (row cell : Nat) : Option Char :=
  if row = 13 then (windowsSymbols.toList[cell - 1]?).filter (· != '\uFFFD')
  else if 89 ≤ row && row ≤ 92 then (windowsIdeographs[(row - 89) * 94 + (cell - 1)]?).filter (· != '\uFFFD')
  else if 115 ≤ row then
    let place := (row - 115) * 94 + (cell - 1)
    if place < 28 then repeatedSymbols.toList[place]? else if place < 388 then windowsIdeographs[place - 28]? else none
  else windowsChanged.lookup (row, cell)

/-- The character of a row and a cell on Windows; rows 95 to 114 are private. -/
def windowsCell? (row cell : Nat) : Option Char :=
  if 95 ≤ row && row ≤ 114 then some (Char.ofNat (0xE000 + (row - 95) * 94 + (cell - 1)))
  else (windowsAdded? row cell).orElse fun _ => if row ≤ 84 then CharacterSet.jisX0208.char? row cell else none

/-- The character of a single byte on Windows: the bytes that JIS leaves free are private, but for the first. -/
def windowsSingle? (b : UInt8) : Option Char :=
  if b ≤ 0x80 then some (Char.ofNat b.toNat)
  else if b = 0xA0 then some (Char.ofNat 0xF8F0)
  else if 0xFD ≤ b then some (Char.ofNat (0xF8F1 + (b.toNat - 0xFD)))
  else halfWidth? b

/-- The reader of the sets with two rows to a byte on Windows. -/
def windows : Reader Unit :=
  .plain fun b rest =>
    match windowsSingle? b, rest with
    | some c, _ => .ofChar c 1
    | none, [] => .gap 1
    | none, c :: _ => .ofChar? ((rowCell? b c).bind fun (row, cell) => windowsCell? row cell) 2

end Japanese

end Flashcards.Encoding

import Flashcards.Encoding.CodePage.Ebcdic
import Flashcards.Encoding.CodePage.Iso8859
import Flashcards.Encoding.CodePage.Macintosh
import Flashcards.Encoding.CodePage.National
import Flashcards.Encoding.CodePage.Personal
import Flashcards.Encoding.CodePage.Windows
import Flashcards.Encoding.Escape
import Flashcards.Encoding.Iso2022
import Flashcards.Encoding.Korean
import Flashcards.Encoding.Punycode
import Flashcards.Encoding.Utf7

/-!
# Encodings

The encodings a document of bytes may be written in. Bytes are read in two ways: as a whole or not at all (`Encoding.decode?`), and with
replacement characters for what stands for none (`Encoding.decodeMended?`).
-/

namespace Flashcards

/-- An encoding of texts as bytes. -/
inductive Encoding where
  /-- One byte a character. -/
  | page (page : Encoding.CodePage)
  | utf7
  | utf8
  /-- Two bytes to a unit, in the order given; without one, in that which a mark at the start tells. -/
  | utf16 (order : Option Encoding.ByteOrder)
  /-- Four bytes to a character, in the order given; without one, in that which a mark at the start tells. -/
  | utf32 (order : Option Encoding.ByteOrder)
  /-- Characters may be written with escapes of all kinds. -/
  | escaped
  /-- Characters may be written by their numbers. -/
  | numbered
  | punycode
  /-- The labels of a host name, with points between them. -/
  | hostLabels
  | gb2312
  | gbk
  | gb18030
  | hz
  | bigFive
  /-- Big Five on Windows. -/
  | windowsBig
  /-- Big Five with the characters of Hong Kong. -/
  | hongKong
  | eucKr
  | unifiedHangul
  | johab
  /-- The Japanese sets in the upper half. -/
  | upperHalf (edition : Encoding.JisEdition)
  /-- The Japanese sets with two rows to a byte. -/
  | shifted (edition : Encoding.JisEdition)
  /-- The Japanese sets with two rows to a byte on Windows. -/
  | windowsShifted
  | iso2022 (form : Encoding.Iso2022.Form)

namespace Encoding

/-- Windows code page 1252, the last resort for bytes that declare nothing. -/
def windows1252 : Encoding := .page .windows1252

/-- What bytes come to in an encoding that is read piece by piece; nothing for the others. -/
def chars? : Encoding → Bytes → Option (List (Option Char))
  | .page p, bytes => some (p.reader.read bytes)
  | .utf7, bytes => some (Utf7.reader.read bytes)
  | .utf8, bytes => some (utf8Reader.read bytes)
  | .utf16 (some order), bytes => some ((utf16Reader order).read bytes)
  | .utf16 none, bytes => some (readMarked16 bytes)
  | .utf32 (some order), bytes => some ((utf32Reader order).read bytes)
  | .utf32 none, bytes => some (readMarked32 bytes)
  | .escaped, bytes => some (Escape.full.read bytes)
  | .numbered, bytes => some (Escape.bare.read bytes)
  | .punycode, _ | .hostLabels, _ => none
  | .gb2312, bytes => some (Chinese.gb2312.read bytes)
  | .gbk, bytes => some (Chinese.gbk.read bytes)
  | .gb18030, bytes => some (Chinese.gb18030.read bytes)
  | .hz, bytes => some (Chinese.hz.read bytes)
  | .bigFive, bytes => some (Chinese.bigFive.read bytes)
  | .windowsBig, bytes => some (Chinese.windowsBig.read bytes)
  | .hongKong, bytes => some (Chinese.hongKong.read bytes)
  | .eucKr, bytes => some (Korean.eucKr.read bytes)
  | .unifiedHangul, bytes => some (Korean.unified.read bytes)
  | .johab, bytes => some (Korean.johab.read bytes)
  | .upperHalf edition, bytes => some ((Japanese.upperHalf edition).read bytes)
  | .shifted edition, bytes => some ((Japanese.shifted edition).read bytes)
  | .windowsShifted, bytes => some (Japanese.windows.read bytes)
  | .iso2022 form, bytes => some ((Iso2022.reader form).read bytes)

/-- The text that bytes write in an encoding, if they write one. -/
def decode? : Encoding → Bytes → Option Text
  | .punycode, bytes => Punycode.read? false bytes
  | .hostLabels, bytes => Punycode.labels? bytes
  | e, bytes => (e.chars? bytes).bind complete?

/-- The text that bytes write in an encoding, with replacement characters; in few encodings there may be none even so. -/
def decodeMended? : Encoding → Bytes → Option Text
  | .punycode, bytes => Punycode.read? true bytes
  | e, bytes => (e.chars? bytes).map mended

end Encoding

end Flashcards

import Flashcards.Encoding.Basic

/-!
# Names of encodings

The names a document may declare its encoding by. A name counts in any case, with any mark for a low line. A further name may also have
points for low lines; the proper name of an encoding has none.
-/

namespace Flashcards.Encoding

open Text

/-- An encoding with its proper name and its further ones. -/
structure Entry where
  name : String
  aliases : List String
  encoding : Encoding

/-- The encodings by their names. -/
def entries : List Entry :=
  [⟨"ascii",
    ["646", "ansi_x3.4_1968", "ansi_x3.4_1986", "ansi_x3_4_1968", "cp367", "csascii", "ibm367", "iso646_us",
     "iso_646.irv_1991", "iso_ir_6", "us", "us_ascii"],
    .page .ascii⟩,
   ⟨"latin_1",
    ["8859", "cp819", "csisolatin1", "ibm819", "iso8859", "iso8859_1", "iso_8859_1", "iso_8859_1_1987", "iso_ir_100",
     "l1", "latin", "latin1"],
    .page .latin1⟩,
   ⟨"charmap", [], .page .latin1⟩,
   ⟨"utf_8", ["cp65001", "u8", "utf", "utf8", "utf8_ucs2", "utf8_ucs4"], .utf8⟩,
   ⟨"utf_8_sig", [], .utf8⟩,
   ⟨"utf_16", ["u16", "utf16"], .utf16 none⟩,
   ⟨"utf_16_be", ["unicodebigunmarked", "utf_16be"], .utf16 (some .highFirst)⟩,
   ⟨"utf_16_le", ["unicodelittleunmarked", "utf_16le"], .utf16 (some .lowFirst)⟩,
   ⟨"utf_32", ["u32", "utf32"], .utf32 none⟩,
   ⟨"utf_32_be", ["utf_32be"], .utf32 (some .highFirst)⟩,
   ⟨"utf_32_le", ["utf_32le"], .utf32 (some .lowFirst)⟩,
   ⟨"utf_7", ["u7", "unicode_1_1_utf_7", "utf7"], .utf7⟩,
   ⟨"unicode_escape", [], .escaped⟩,
   ⟨"raw_unicode_escape", [], .numbered⟩,
   ⟨"punycode", [], .punycode⟩,
   ⟨"idna", [], .hostLabels⟩,
   ⟨"gb2312",
    ["chinese", "csiso58gb231280", "euc_cn", "euccn", "eucgb2312_cn", "gb2312_1980", "gb2312_80", "iso_ir_58",
     "x_mac_simp_chinese"],
    .gb2312⟩,
   ⟨"gbk", ["936", "cp936", "ms936"], .gbk⟩,
   ⟨"gb18030", ["gb18030_2000"], .gb18030⟩,
   ⟨"hz", ["hz_gb", "hz_gb_2312", "hzgb"], .hz⟩,
   ⟨"big5", ["big5_tw", "csbig5", "x_mac_trad_chinese"], .bigFive⟩,
   ⟨"cp950", ["950", "ms950"], .windowsBig⟩,
   ⟨"big5hkscs", ["big5_hkscs", "hkscs"], .hongKong⟩,
   ⟨"euc_kr",
    ["euckr", "korean", "ks_c_5601", "ks_c_5601_1987", "ks_x_1001", "ksc5601", "ksx1001", "x_mac_korean"],
    .eucKr⟩,
   ⟨"cp949", ["949", "ms949", "uhc"], .unifiedHangul⟩,
   ⟨"johab", ["cp1361", "ms1361"], .johab⟩,
   ⟨"euc_jp", ["eucjp", "u_jis", "ujis"], .upperHalf .x0208⟩,
   ⟨"euc_jisx0213", ["eucjisx0213"], .upperHalf .x0213of2000⟩,
   ⟨"euc_jis_2004", ["euc_jis2004", "eucjis2004", "jisx0213"], .upperHalf .x0213of2004⟩,
   ⟨"shift_jis", ["csshiftjis", "s_jis", "shiftjis", "sjis", "x_mac_japanese"], .shifted .x0208⟩,
   ⟨"shift_jisx0213", ["s_jisx0213", "shiftjisx0213", "sjisx0213"], .shifted .x0213of2000⟩,
   ⟨"shift_jis_2004", ["s_jis_2004", "shiftjis2004", "sjis_2004"], .shifted .x0213of2004⟩,
   ⟨"cp932", ["932", "ms932", "ms_kanji", "mskanji"], .windowsShifted⟩,
   ⟨"iso2022_jp", ["csiso2022jp", "iso2022jp", "iso_2022_jp"], .iso2022 .japanese⟩,
   ⟨"iso2022_jp_1", ["iso2022jp_1", "iso_2022_jp_1"], .iso2022 .japanese1⟩,
   ⟨"iso2022_jp_2", ["iso2022jp_2", "iso_2022_jp_2"], .iso2022 .japanese2⟩,
   ⟨"iso2022_jp_3", ["iso2022jp_3", "iso_2022_jp_3"], .iso2022 .japanese3⟩,
   ⟨"iso2022_jp_2004", ["iso2022jp_2004", "iso_2022_jp_2004"], .iso2022 .japanese2004⟩,
   ⟨"iso2022_jp_ext", ["iso2022jp_ext", "iso_2022_jp_ext"], .iso2022 .japaneseExtended⟩,
   ⟨"iso2022_kr", ["csiso2022kr", "iso2022kr", "iso_2022_kr"], .iso2022 .korean⟩,
   ⟨"iso8859_2", ["csisolatin2", "iso_8859_2", "iso_8859_2_1987", "iso_ir_101", "l2", "latin2"], .page .iso8859part2⟩,
   ⟨"iso8859_3", ["csisolatin3", "iso_8859_3", "iso_8859_3_1988", "iso_ir_109", "l3", "latin3"], .page .iso8859part3⟩,
   ⟨"iso8859_4", ["csisolatin4", "iso_8859_4", "iso_8859_4_1988", "iso_ir_110", "l4", "latin4"], .page .iso8859part4⟩,
   ⟨"iso8859_5", ["csisolatincyrillic", "cyrillic", "iso_8859_5", "iso_8859_5_1988", "iso_ir_144"], .page .iso8859part5⟩,
   ⟨"iso8859_6",
    ["arabic", "asmo_708", "csisolatinarabic", "ecma_114", "iso_8859_6", "iso_8859_6_1987", "iso_ir_127"],
    .page .iso8859part6⟩,
   ⟨"iso8859_7",
    ["csisolatingreek", "ecma_118", "elot_928", "greek", "greek8", "iso_8859_7", "iso_8859_7_1987", "iso_ir_126"],
    .page .iso8859part7⟩,
   ⟨"iso8859_8", ["csisolatinhebrew", "hebrew", "iso_8859_8", "iso_8859_8_1988", "iso_ir_138"], .page .iso8859part8⟩,
   ⟨"iso8859_9", ["csisolatin5", "iso_8859_9", "iso_8859_9_1989", "iso_ir_148", "l5", "latin5"], .page .iso8859part9⟩,
   ⟨"iso8859_10", ["csisolatin6", "iso_8859_10", "iso_8859_10_1992", "iso_ir_157", "l6", "latin6"], .page .iso8859part10⟩,
   ⟨"iso8859_11", ["iso_8859_11", "iso_8859_11_2001", "thai"], .page .iso8859part11⟩,
   ⟨"iso8859_13", ["iso_8859_13", "l7", "latin7"], .page .iso8859part13⟩,
   ⟨"iso8859_14", ["iso_8859_14", "iso_8859_14_1998", "iso_celtic", "iso_ir_199", "l8", "latin8"], .page .iso8859part14⟩,
   ⟨"iso8859_15", ["iso_8859_15", "l9", "latin9"], .page .iso8859part15⟩,
   ⟨"iso8859_16", ["iso_8859_16", "iso_8859_16_2001", "iso_ir_226", "l10", "latin10"], .page .iso8859part16⟩,
   ⟨"iso8859_1", [], .page .latin1⟩,
   ⟨"cp874", [], .page .windows874⟩,
   ⟨"cp1250", ["1250", "windows_1250"], .page .windows1250⟩,
   ⟨"cp1251", ["1251", "windows_1251"], .page .windows1251⟩,
   ⟨"cp1252", ["1252", "windows_1252"], .page .windows1252⟩,
   ⟨"cp1253", ["1253", "windows_1253"], .page .windows1253⟩,
   ⟨"cp1254", ["1254", "windows_1254"], .page .windows1254⟩,
   ⟨"cp1255", ["1255", "windows_1255"], .page .windows1255⟩,
   ⟨"cp1256", ["1256", "windows_1256"], .page .windows1256⟩,
   ⟨"cp1257", ["1257", "windows_1257"], .page .windows1257⟩,
   ⟨"cp1258", ["1258", "windows_1258"], .page .windows1258⟩,
   ⟨"cp437", ["437", "cspc8codepage437", "ibm437"], .page .personal437⟩,
   ⟨"cp720", [], .page .personal720⟩,
   ⟨"cp737", [], .page .personal737⟩,
   ⟨"cp775", ["775", "cspc775baltic", "ibm775"], .page .personal775⟩,
   ⟨"cp850", ["850", "cspc850multilingual", "ibm850"], .page .personal850⟩,
   ⟨"cp852", ["852", "cspcp852", "ibm852"], .page .personal852⟩,
   ⟨"cp855", ["855", "csibm855", "ibm855"], .page .personal855⟩,
   ⟨"cp856", [], .page .personal856⟩,
   ⟨"cp857", ["857", "csibm857", "ibm857"], .page .personal857⟩,
   ⟨"cp858", ["858", "csibm858", "ibm858"], .page .personal858⟩,
   ⟨"cp860", ["860", "csibm860", "ibm860"], .page .personal860⟩,
   ⟨"cp861", ["861", "cp_is", "csibm861", "ibm861"], .page .personal861⟩,
   ⟨"cp862", ["862", "cspc862latinhebrew", "ibm862"], .page .personal862⟩,
   ⟨"cp863", ["863", "csibm863", "ibm863"], .page .personal863⟩,
   ⟨"cp864", ["864", "csibm864", "ibm864"], .page .personal864⟩,
   ⟨"cp865", ["865", "csibm865", "ibm865"], .page .personal865⟩,
   ⟨"cp866", ["866", "csibm866", "ibm866"], .page .personal866⟩,
   ⟨"cp869", ["869", "cp_gr", "csibm869", "ibm869"], .page .personal869⟩,
   ⟨"cp1125", ["1125", "cp866u", "ibm1125", "ruscii"], .page .personal1125⟩,
   ⟨"mac_roman", ["macintosh", "macroman"], .page .macintoshRoman⟩,
   ⟨"mac_arabic", [], .page .macintoshArabic⟩,
   ⟨"mac_croatian", [], .page .macintoshCroatian⟩,
   ⟨"mac_cyrillic", ["maccyrillic"], .page .macintoshCyrillic⟩,
   ⟨"mac_farsi", [], .page .macintoshFarsi⟩,
   ⟨"mac_greek", ["macgreek"], .page .macintoshGreek⟩,
   ⟨"mac_iceland", ["maciceland"], .page .macintoshIceland⟩,
   ⟨"mac_latin2", ["mac_centeuro", "maccentraleurope", "maclatin2"], .page .macintoshCentral⟩,
   ⟨"mac_romanian", [], .page .macintoshRomanian⟩,
   ⟨"mac_turkish", ["macturkish"], .page .macintoshTurkish⟩,
   ⟨"cp037",
    ["037", "csibm037", "ebcdic_cp_ca", "ebcdic_cp_nl", "ebcdic_cp_us", "ebcdic_cp_wt", "ibm037", "ibm039"],
    .page .ebcdic37⟩,
   ⟨"cp273", ["273", "csibm273", "ibm273"], .page .ebcdic273⟩,
   ⟨"cp424", ["424", "csibm424", "ebcdic_cp_he", "ibm424"], .page .ebcdic424⟩,
   ⟨"cp500", ["500", "csibm500", "ebcdic_cp_be", "ebcdic_cp_ch", "ibm500"], .page .ebcdic500⟩,
   ⟨"cp875", [], .page .ebcdic875⟩,
   ⟨"cp1026", ["1026", "csibm1026", "ibm1026"], .page .ebcdic1026⟩,
   ⟨"cp1140", ["1140", "ibm1140"], .page .ebcdic1140⟩,
   ⟨"koi8_r", ["cskoi8r"], .page .koi8Russian⟩,
   ⟨"koi8_t", [], .page .koi8Tajik⟩,
   ⟨"koi8_u", [], .page .koi8Ukrainian⟩,
   ⟨"kz1048", ["kz_1048", "rk1048", "strk1048_2002"], .page .kazakh1048⟩,
   ⟨"ptcp154", ["cp154", "csptcp154", "cyrillic_asian", "pt154"], .page .cyrillicAsian⟩,
   ⟨"tis_620", ["iso_ir_166", "tis620", "tis_620_0", "tis_620_2529_0", "tis_620_2529_1"], .page .thai620⟩,
   ⟨"cp1006", [], .page .urdu1006⟩,
   ⟨"hp_roman8", ["cp1051", "ibm1051", "r8", "roman8"], .page .roman8⟩,
   ⟨"palmos", [], .page .handheld⟩]

/-- A name as it is looked up: in lower case, with one low line for each run of marks between letters, digits and points. -/
def normalName (t : Text) : Text :=
  let isPart (c : Char) : Bool := c.isAlphanum || c = '.'
  let marked := (t.map fun c => if isPart c then c.toLower else '_').foldr
    (fun c rest => if c = '_' && rest.head? = some '_' then rest else c :: rest) []
  trim (· == '_') marked

/-- The encoding with a name as it is written, if it has one that is known. -/
def spelled? (t : Text) : Option Encoding :=
  let key := normalName t
  let undotted := key.map fun c => if c = '.' then '_' else c
  let isAlias (e : Entry) : Bool := e.aliases.any fun a => a.toList == key || a.toList == undotted
  ((entries.find? isAlias).orElse fun _ => entries.find? fun e => e.name.toList == key).map Entry.encoding

/-- Names that stand for others. -/
def nicknames : List (Text × Text) := [("macintosh", "mac-roman"), ("x-sjis", "shift-jis")]

/-- The encoding that a document declares by a name. Where the name is not known as it is written, it may be without its hyphens. The
character zero is in no name. -/
def named? (t : Text) : Option Encoding :=
  if t.contains '\x00' then none
  else (spelled? ((nicknames.lookup t).getD t)).orElse fun _ => spelled? (t.filter (· != '-'))

end Flashcards.Encoding

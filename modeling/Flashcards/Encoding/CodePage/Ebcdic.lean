import Flashcards.Encoding.CodePage

/-!
# The pages of mainframes

Pages of EBCDIC, which order the letters otherwise than ASCII does.
-/

namespace Flashcards.Encoding.CodePage

/-- Code page 37. -/
def ebcdic37 : CodePage :=
  whole
    ["\x00\x01\x02\x03\u009c\x09\u0086\x7f\u0097\u008d\u008e\x0b\x0c\x0d\x0e\x0f\x10\x11\x12\x13\u009d\u0085\x08\u0087\x18\x19\u0092\u008f\x1c\x1d\x1e\x1f",
     "\u0080\u0081\u0082\u0083\u0084\x0a\x17\x1b\u0088\u0089\u008a\u008b\u008c\x05\x06\x07\u0090\u0091\x16\u0093\u0094\u0095\u0096\x04\u0098\u0099\u009a\u009b\x14\x15\u009e\x1a",
     " \u00a0âäàáãåçñ¢.<(+|&éêëèíîïìß!$*);¬",
     "\x2d/ÂÄÀÁÃÅÇÑ¦,%_>?øÉÊËÈÍÎÏÌ\x60:#@'=\"",
     "Øabcdefghi«»ðýþ±°jklmnopqrªºæ¸Æ¤",
     "µ~stuvwxyz¡¿ÐÝÞ®^£¥·©§¶¼½¾[]¯¨´×",
     "\x7bABCDEFGHI\u00adôöòóõ\x7dJKLMNOPQR¹ûüùúÿ",
     "\\÷STUVWXYZ²ÔÖÒÓÕ0123456789³ÛÜÙÚ\u009f"]

/-- Code page 273. -/
def ebcdic273 : CodePage :=
  whole
    ["\x00\x01\x02\x03\u009c\x09\u0086\x7f\u0097\u008d\u008e\x0b\x0c\x0d\x0e\x0f\x10\x11\x12\x13\u009d\u0085\x08\u0087\x18\x19\u0092\u008f\x1c\x1d\x1e\x1f",
     "\u0080\u0081\u0082\u0083\u0084\x0a\x17\x1b\u0088\u0089\u008a\u008b\u008c\x05\x06\x07\u0090\u0091\x16\u0093\u0094\u0095\u0096\x04\u0098\u0099\u009a\u009b\x14\x15\u009e\x1a",
     " \u00a0â\x7bàáãåçñÄ.<(+!&éêëèíîïì~Ü$*);^",
     "\x2d/Â[ÀÁÃÅÇÑö,%_>?øÉÊËÈÍÎÏÌ\x60:#§'=\"",
     "Øabcdefghi«»ðýþ±°jklmnopqrªºæ¸Æ¤",
     "µßstuvwxyz¡¿ÐÝÞ®¢£¥·©@¶¼½¾¬|‾¨´×",
     "äABCDEFGHI\u00adô¦òóõüJKLMNOPQR¹û\x7dùúÿ",
     "Ö÷STUVWXYZ²Ô\\ÒÓÕ0123456789³Û]ÙÚ\u009f"]

/-- Code page 424. -/
def ebcdic424 : CodePage :=
  whole
    ["\x00\x01\x02\x03\u009c\x09\u0086\x7f\u0097\u008d\u008e\x0b\x0c\x0d\x0e\x0f\x10\x11\x12\x13\u009d\u0085\x08\u0087\x18\x19\u0092\u008f\x1c\x1d\x1e\x1f",
     "\u0080\u0081\u0082\u0083\u0084\x0a\x17\x1b\u0088\u0089\u008a\u008b\u008c\x05\x06\x07\u0090\u0091\x16\u0093\u0094\u0095\u0096\x04\u0098\u0099\u009a\u009b\x14\x15\u009e\x1a",
     " אבגדהוזחט¢.<(+|&יךכלםמןנס!$*);¬",
     "\x2d/עףפץצקרש¦,%_>?�ת��\u00a0���‗\x60:#@'=\"",
     "�abcdefghi«»���±°jklmnopqr���¸�¤",
     "µ~stuvwxyz�����®^£¥·©§¶¼½¾[]¯¨´×",
     "\x7bABCDEFGHI\u00ad�����\x7dJKLMNOPQR¹�����",
     "\\÷STUVWXYZ²�����0123456789³����\u009f"]

/-- Code page 500. -/
def ebcdic500 : CodePage :=
  whole
    ["\x00\x01\x02\x03\u009c\x09\u0086\x7f\u0097\u008d\u008e\x0b\x0c\x0d\x0e\x0f\x10\x11\x12\x13\u009d\u0085\x08\u0087\x18\x19\u0092\u008f\x1c\x1d\x1e\x1f",
     "\u0080\u0081\u0082\u0083\u0084\x0a\x17\x1b\u0088\u0089\u008a\u008b\u008c\x05\x06\x07\u0090\u0091\x16\u0093\u0094\u0095\u0096\x04\u0098\u0099\u009a\u009b\x14\x15\u009e\x1a",
     " \u00a0âäàáãåçñ[.<(+!&éêëèíîïìß]$*);^",
     "\x2d/ÂÄÀÁÃÅÇÑ¦,%_>?øÉÊËÈÍÎÏÌ\x60:#@'=\"",
     "Øabcdefghi«»ðýþ±°jklmnopqrªºæ¸Æ¤",
     "µ~stuvwxyz¡¿ÐÝÞ®¢£¥·©§¶¼½¾¬|¯¨´×",
     "\x7bABCDEFGHI\u00adôöòóõ\x7dJKLMNOPQR¹ûüùúÿ",
     "\\÷STUVWXYZ²ÔÖÒÓÕ0123456789³ÛÜÙÚ\u009f"]

/-- Code page 875. -/
def ebcdic875 : CodePage :=
  whole
    ["\x00\x01\x02\x03\u009c\x09\u0086\x7f\u0097\u008d\u008e\x0b\x0c\x0d\x0e\x0f\x10\x11\x12\x13\u009d\u0085\x08\u0087\x18\x19\u0092\u008f\x1c\x1d\x1e\x1f",
     "\u0080\u0081\u0082\u0083\u0084\x0a\x17\x1b\u0088\u0089\u008a\u008b\u008c\x05\x06\x07\u0090\u0091\x16\u0093\u0094\u0095\u0096\x04\u0098\u0099\u009a\u009b\x14\x15\u009e\x1a",
     " ΑΒΓΔΕΖΗΘΙ[.<(+!&ΚΛΜΝΞΟΠΡΣ]$*);^",
     "\x2d/ΤΥΦΧΨΩΪΫ|,%_>?¨ΆΈΉ\u00a0ΊΌΎΏ\x60:#@'=\"",
     "΅abcdefghiαβγδεζ°jklmnopqrηθικλμ",
     "´~stuvwxyzνξοπρσ£άέήϊίόύϋώςτυφχψ",
     "\x7bABCDEFGHI\u00adωΐΰ‘―\x7dJKLMNOPQR±½\x1a·’¦",
     "\\\x1aSTUVWXYZ²§\x1a\x1a«¬0123456789³©\x1a\x1a»\u009f"]

/-- Code page 1026. -/
def ebcdic1026 : CodePage :=
  whole
    ["\x00\x01\x02\x03\u009c\x09\u0086\x7f\u0097\u008d\u008e\x0b\x0c\x0d\x0e\x0f\x10\x11\x12\x13\u009d\u0085\x08\u0087\x18\x19\u0092\u008f\x1c\x1d\x1e\x1f",
     "\u0080\u0081\u0082\u0083\u0084\x0a\x17\x1b\u0088\u0089\u008a\u008b\u008c\x05\x06\x07\u0090\u0091\x16\u0093\u0094\u0095\u0096\x04\u0098\u0099\u009a\u009b\x14\x15\u009e\x1a",
     " \u00a0âäàáãå\x7bñÇ.<(+!&éêëèíîïìßĞİ*);^",
     "\x2d/ÂÄÀÁÃÅ[Ñş,%_>?øÉÊËÈÍÎÏÌı:ÖŞ'=Ü",
     "Øabcdefghi«»\x7d\x60¦±°jklmnopqrªºæ¸Æ¤",
     "µöstuvwxyz¡¿]$@®¢£¥·©§¶¼½¾¬|¯¨´×",
     "çABCDEFGHI\u00adô~òóõğJKLMNOPQR¹û\\ùúÿ",
     "ü÷STUVWXYZ²Ô#ÒÓÕ0123456789³Û\"ÙÚ\u009f"]

/-- Code page 1140. -/
def ebcdic1140 : CodePage :=
  whole
    ["\x00\x01\x02\x03\u009c\x09\u0086\x7f\u0097\u008d\u008e\x0b\x0c\x0d\x0e\x0f\x10\x11\x12\x13\u009d\u0085\x08\u0087\x18\x19\u0092\u008f\x1c\x1d\x1e\x1f",
     "\u0080\u0081\u0082\u0083\u0084\x0a\x17\x1b\u0088\u0089\u008a\u008b\u008c\x05\x06\x07\u0090\u0091\x16\u0093\u0094\u0095\u0096\x04\u0098\u0099\u009a\u009b\x14\x15\u009e\x1a",
     " \u00a0âäàáãåçñ¢.<(+|&éêëèíîïìß!$*);¬",
     "\x2d/ÂÄÀÁÃÅÇÑ¦,%_>?øÉÊËÈÍÎÏÌ\x60:#@'=\"",
     "Øabcdefghi«»ðýþ±°jklmnopqrªºæ¸Æ€",
     "µ~stuvwxyz¡¿ÐÝÞ®^£¥·©§¶¼½¾[]¯¨´×",
     "\x7bABCDEFGHI\u00adôöòóõ\x7dJKLMNOPQR¹ûüùúÿ",
     "\\÷STUVWXYZ²ÔÖÒÓÕ0123456789³ÛÜÙÚ\u009f"]

end Flashcards.Encoding.CodePage

/-!
# Character references known without a semicolon

The names that the standard lists both with and without a closing semicolon. The four that a writer of markup needs stand first.
-/

namespace Flashcards.Markup.Entity

/-- The names known with and without a semicolon, each with the text it stands for. -/
def bareNames : List (String × String) :=
  [("amp", "&"), ("lt", "<"), ("gt", ">"), ("quot", "\""), ("AElig", "Æ"), ("AMP", "&"), ("Aacute", "Á"), ("Acirc", "Â"),
   ("Agrave", "À"), ("Aring", "Å"), ("Atilde", "Ã"), ("Auml", "Ä"), ("COPY", "©"), ("Ccedil", "Ç"), ("ETH", "Ð"),
   ("Eacute", "É"), ("Ecirc", "Ê"), ("Egrave", "È"), ("Euml", "Ë"), ("GT", ">"), ("Iacute", "Í"), ("Icirc", "Î"),
   ("Igrave", "Ì"), ("Iuml", "Ï"), ("LT", "<"), ("Ntilde", "Ñ"), ("Oacute", "Ó"), ("Ocirc", "Ô"), ("Ograve", "Ò"),
   ("Oslash", "Ø"), ("Otilde", "Õ"), ("Ouml", "Ö"), ("QUOT", "\""), ("REG", "®"), ("THORN", "Þ"), ("Uacute", "Ú"),
   ("Ucirc", "Û"), ("Ugrave", "Ù"), ("Uuml", "Ü"), ("Yacute", "Ý"), ("aacute", "á"), ("acirc", "â"), ("acute", "´"),
   ("aelig", "æ"), ("agrave", "à"), ("aring", "å"), ("atilde", "ã"), ("auml", "ä"), ("brvbar", "¦"), ("ccedil", "ç"),
   ("cedil", "¸"), ("cent", "¢"), ("copy", "©"), ("curren", "¤"), ("deg", "°"), ("divide", "÷"), ("eacute", "é"),
   ("ecirc", "ê"), ("egrave", "è"), ("eth", "ð"), ("euml", "ë"), ("frac12", "½"), ("frac14", "¼"), ("frac34", "¾"),
   ("iacute", "í"), ("icirc", "î"), ("iexcl", "¡"), ("igrave", "ì"), ("iquest", "¿"), ("iuml", "ï"), ("laquo", "«"),
   ("macr", "¯"), ("micro", "µ"), ("middot", "·"), ("nbsp", "\xa0"), ("not", "¬"), ("ntilde", "ñ"), ("oacute", "ó"),
   ("ocirc", "ô"), ("ograve", "ò"), ("ordf", "ª"), ("ordm", "º"), ("oslash", "ø"), ("otilde", "õ"), ("ouml", "ö"),
   ("para", "¶"), ("plusmn", "±"), ("pound", "£"), ("raquo", "»"), ("reg", "®"), ("sect", "§"), ("shy", "\xad"),
   ("sup1", "¹"), ("sup2", "²"), ("sup3", "³"), ("szlig", "ß"), ("thorn", "þ"), ("times", "×"), ("uacute", "ú"),
   ("ucirc", "û"), ("ugrave", "ù"), ("uml", "¨"), ("uuml", "ü"), ("yacute", "ý"), ("yen", "¥"), ("yuml", "ÿ")]

end Flashcards.Markup.Entity

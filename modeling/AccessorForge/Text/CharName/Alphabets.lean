/-! Names of characters: letters, signs and digits of the alphabets from Latin to Arabic. -/
namespace AccessorForge.Text.CharName.Alphabets

def runs : List (Nat × List String) := [
  (0x20, ["0SPACE|0EXCLAMATION MARK|0QUOTATION MARK|0NUMBER SIGN|0DOLLAR SIGN|0PERCENT SIGN|0AMPERSAND",
    "1POSTROPHE|0LEFT PARENTHESIS|0RIGHT PARENTHESIS|0ASTERISK|0PLUS SIGN|0COMMA|0HYPHEN-MINUS|0FULL STOP",
    "0SOLIDUS|0DIGIT ZERO|6ONE|6TWO|7HREE|6FOUR|7IVE|6SIX|7EVEN|6EIGHT|6NINE|0COLON|0SEMICOLON",
    "0LESS-THAN SIGN|0EQUALS SIGN|0GREATER-THAN SIGN|0QUESTION MARK|0COMMERCIAL AT",
    "0LATIN CAPITAL LETTER A|EB|EC|ED|EE|EF|EG|EH|EI|EJ|EK|EL|EM|EN|EO|EP|EQ|ER|ES|ET|EU|EV|EW|EX|EY|EZ",
    "1EFT SQUARE BRACKET|0REVERSE SOLIDUS|1IGHT SQUARE BRACKET|0CIRCUMFLEX ACCENT|0LOW LINE|0GRAVE ACCENT",
    "0LATIN SMALL LETTER A|CB|CC|CD|CE|CF|CG|CH|CI|CJ|CK|CL|CM|CN|CO|CP|CQ|CR|CS|CT|CU|CV|CW|CX|CY|CZ",
    "1EFT CURLY BRACKET|0VERTICAL LINE|0RIGHT CURLY BRACKET|0TILDE"]),
  (0xa0, ["0NO-BREAK SPACE|0INVERTED EXCLAMATION MARK|0CENT SIGN|0POUND SIGN|0CURRENCY SIGN|0YEN SIGN",
    "0BROKEN BAR|0SECTION SIGN|0DIAERESIS|0COPYRIGHT SIGN|0FEMININE ORDINAL INDICATOR",
    "0LEFT-POINTING DOUBLE ANGLE QUOTATION MARK|0NOT SIGN|0SOFT HYPHEN|0REGISTERED SIGN|0MACRON",
    "0DEGREE SIGN|0PLUS-MINUS SIGN|0SUPERSCRIPT TWO|=HREE|0ACUTE ACCENT|0MICRO SIGN|0PILCROW SIGN",
    "0MIDDLE DOT|0CEDILLA|0SUPERSCRIPT ONE|0MASCULINE ORDINAL INDICATOR",
    "0RIGHT-POINTING DOUBLE ANGLE QUOTATION MARK|0VULGAR FRACTION ONE QUARTER|DHALF|@THREE QUARTERS",
    "0INVERTED QUESTION MARK|0LATIN CAPITAL LETTER A WITH GRAVE|LACUTE|LCIRCUMFLEX|LTILDE|LDIAERESIS",
    "LRING ABOVE|FE|EC WITH CEDILLA|EE WITH GRAVE|LACUTE|LCIRCUMFLEX|LDIAERESIS|EI WITH GRAVE|LACUTE",
    "LCIRCUMFLEX|LDIAERESIS|EETH|EN WITH TILDE|EO WITH GRAVE|LACUTE|LCIRCUMFLEX|LTILDE|LDIAERESIS",
    "0MULTIPLICATION SIGN|0LATIN CAPITAL LETTER O WITH STROKE|EU WITH GRAVE|LACUTE|LCIRCUMFLEX|LDIAERESIS",
    "EY WITH ACUTE|ETHORN|6SMALL LETTER SHARP S|CA WITH GRAVE|JACUTE|JCIRCUMFLEX|JTILDE|JDIAERESIS",
    "JRING ABOVE|DE|CC WITH CEDILLA|CE WITH GRAVE|JACUTE|JCIRCUMFLEX|JDIAERESIS|CI WITH GRAVE|JACUTE",
    "JCIRCUMFLEX|JDIAERESIS|CETH|CN WITH TILDE|CO WITH GRAVE|JACUTE|JCIRCUMFLEX|JTILDE|JDIAERESIS",
    "0DIVISION SIGN|0LATIN SMALL LETTER O WITH STROKE|CU WITH GRAVE|JACUTE|JCIRCUMFLEX|JDIAERESIS",
    "CY WITH ACUTE|CTHORN|CY WITH DIAERESIS|6CAPITAL LETTER A WITH MACRON|6SMALL LETTER A WITH MACRON",
    "6CAPITAL LETTER A WITH BREVE|6SMALL LETTER A WITH BREVE|6CAPITAL LETTER A WITH OGONEK",
    "6SMALL LETTER A WITH OGONEK|6CAPITAL LETTER C WITH ACUTE|6SMALL LETTER C WITH ACUTE",
    "6CAPITAL LETTER C WITH CIRCUMFLEX|6SMALL LETTER C WITH CIRCUMFLEX|6CAPITAL LETTER C WITH DOT ABOVE",
    "6SMALL LETTER C WITH DOT ABOVE|6CAPITAL LETTER C WITH CARON|6SMALL LETTER C WITH CARON",
    "6CAPITAL LETTER D WITH CARON|6SMALL LETTER D WITH CARON|6CAPITAL LETTER D WITH STROKE",
    "6SMALL LETTER D WITH STROKE|6CAPITAL LETTER E WITH MACRON|6SMALL LETTER E WITH MACRON",
    "6CAPITAL LETTER E WITH BREVE|6SMALL LETTER E WITH BREVE|6CAPITAL LETTER E WITH DOT ABOVE",
    "6SMALL LETTER E WITH DOT ABOVE|6CAPITAL LETTER E WITH OGONEK|6SMALL LETTER E WITH OGONEK",
    "6CAPITAL LETTER E WITH CARON|6SMALL LETTER E WITH CARON|6CAPITAL LETTER G WITH CIRCUMFLEX",
    "6SMALL LETTER G WITH CIRCUMFLEX|6CAPITAL LETTER G WITH BREVE|6SMALL LETTER G WITH BREVE",
    "6CAPITAL LETTER G WITH DOT ABOVE|6SMALL LETTER G WITH DOT ABOVE|6CAPITAL LETTER G WITH CEDILLA",
    "6SMALL LETTER G WITH CEDILLA|6CAPITAL LETTER H WITH CIRCUMFLEX|6SMALL LETTER H WITH CIRCUMFLEX",
    "6CAPITAL LETTER H WITH STROKE|6SMALL LETTER H WITH STROKE|6CAPITAL LETTER I WITH TILDE",
    "6SMALL LETTER I WITH TILDE|6CAPITAL LETTER I WITH MACRON|6SMALL LETTER I WITH MACRON",
    "6CAPITAL LETTER I WITH BREVE|6SMALL LETTER I WITH BREVE|6CAPITAL LETTER I WITH OGONEK",
    "6SMALL LETTER I WITH OGONEK|6CAPITAL LETTER I WITH DOT ABOVE|6SMALL LETTER DOTLESS I",
    "6CAPITAL LIGATURE IJ|6SMALL LIGATURE IJ|6CAPITAL LETTER J WITH CIRCUMFLEX",
    "6SMALL LETTER J WITH CIRCUMFLEX|6CAPITAL LETTER K WITH CEDILLA|6SMALL LETTER K WITH CEDILLA|DRA",
    "6CAPITAL LETTER L WITH ACUTE|6SMALL LETTER L WITH ACUTE|6CAPITAL LETTER L WITH CEDILLA",
    "6SMALL LETTER L WITH CEDILLA|6CAPITAL LETTER L WITH CARON|6SMALL LETTER L WITH CARON",
    "6CAPITAL LETTER L WITH MIDDLE DOT|6SMALL LETTER L WITH MIDDLE DOT|6CAPITAL LETTER L WITH STROKE",
    "6SMALL LETTER L WITH STROKE|6CAPITAL LETTER N WITH ACUTE|6SMALL LETTER N WITH ACUTE",
    "6CAPITAL LETTER N WITH CEDILLA|6SMALL LETTER N WITH CEDILLA|6CAPITAL LETTER N WITH CARON",
    "6SMALL LETTER N WITH CARON|EPRECEDED BY APOSTROPHE|6CAPITAL LETTER ENG|6SMALL LETTER ENG",
    "6CAPITAL LETTER O WITH MACRON|6SMALL LETTER O WITH MACRON|6CAPITAL LETTER O WITH BREVE",
    "6SMALL LETTER O WITH BREVE|6CAPITAL LETTER O WITH DOUBLE ACUTE|6SMALL LETTER O WITH DOUBLE ACUTE",
    "6CAPITAL LIGATURE OE|6SMALL LIGATURE OE|6CAPITAL LETTER R WITH ACUTE|6SMALL LETTER R WITH ACUTE",
    "6CAPITAL LETTER R WITH CEDILLA|6SMALL LETTER R WITH CEDILLA|6CAPITAL LETTER R WITH CARON",
    "6SMALL LETTER R WITH CARON|6CAPITAL LETTER S WITH ACUTE|6SMALL LETTER S WITH ACUTE",
    "6CAPITAL LETTER S WITH CIRCUMFLEX|6SMALL LETTER S WITH CIRCUMFLEX|6CAPITAL LETTER S WITH CEDILLA",
    "6SMALL LETTER S WITH CEDILLA|6CAPITAL LETTER S WITH CARON|6SMALL LETTER S WITH CARON",
    "6CAPITAL LETTER T WITH CEDILLA|6SMALL LETTER T WITH CEDILLA|6CAPITAL LETTER T WITH CARON",
    "6SMALL LETTER T WITH CARON|6CAPITAL LETTER T WITH STROKE|6SMALL LETTER T WITH STROKE",
    "6CAPITAL LETTER U WITH TILDE|6SMALL LETTER U WITH TILDE|6CAPITAL LETTER U WITH MACRON",
    "6SMALL LETTER U WITH MACRON|6CAPITAL LETTER U WITH BREVE|6SMALL LETTER U WITH BREVE",
    "6CAPITAL LETTER U WITH RING ABOVE|6SMALL LETTER U WITH RING ABOVE",
    "6CAPITAL LETTER U WITH DOUBLE ACUTE|6SMALL LETTER U WITH DOUBLE ACUTE|6CAPITAL LETTER U WITH OGONEK",
    "6SMALL LETTER U WITH OGONEK|6CAPITAL LETTER W WITH CIRCUMFLEX|6SMALL LETTER W WITH CIRCUMFLEX",
    "6CAPITAL LETTER Y WITH CIRCUMFLEX|6SMALL LETTER Y WITH CIRCUMFLEX|6CAPITAL LETTER Y WITH DIAERESIS",
    "EZ WITH ACUTE|6SMALL LETTER Z WITH ACUTE|6CAPITAL LETTER Z WITH DOT ABOVE",
    "6SMALL LETTER Z WITH DOT ABOVE|6CAPITAL LETTER Z WITH CARON|6SMALL LETTER Z WITH CARON|CLONG S",
    "CB WITH STROKE|6CAPITAL LETTER B WITH HOOK|LTOPBAR|6SMALL LETTER B WITH TOPBAR",
    "6CAPITAL LETTER TONE SIX|6SMALL LETTER TONE SIX|6CAPITAL LETTER OPEN O|EC WITH HOOK",
    "6SMALL LETTER C WITH HOOK|6CAPITAL LETTER AFRICAN D|ED WITH HOOK|LTOPBAR|6SMALL LETTER D WITH TOPBAR",
    "CTURNED DELTA|6CAPITAL LETTER REVERSED E|ESCHWA|EOPEN E|EF WITH HOOK|6SMALL LETTER F WITH HOOK",
    "6CAPITAL LETTER G WITH HOOK|FAMMA|6SMALL LETTER HV|6CAPITAL LETTER IOTA|F WITH STROKE|EK WITH HOOK",
    "6SMALL LETTER K WITH HOOK|CL WITH BAR|DAMBDA WITH STROKE|6CAPITAL LETTER TURNED M|EN WITH LEFT HOOK",
    "6SMALL LETTER N WITH LONG RIGHT LEG|6CAPITAL LETTER O WITH MIDDLE TILDE|LHORN",
    "6SMALL LETTER O WITH HORN|6CAPITAL LETTER OI|6SMALL LETTER OI|6CAPITAL LETTER P WITH HOOK",
    "6SMALL LETTER P WITH HOOK|6LETTER YR|6CAPITAL LETTER TONE TWO|6SMALL LETTER TONE TWO",
    "6CAPITAL LETTER ESH|6LETTER REVERSED ESH LOOP|6SMALL LETTER T WITH PALATAL HOOK",
    "6CAPITAL LETTER T WITH HOOK|6SMALL LETTER T WITH HOOK|6CAPITAL LETTER T WITH RETROFLEX HOOK",
    "EU WITH HORN|6SMALL LETTER U WITH HORN|6CAPITAL LETTER UPSILON|EV WITH HOOK|EY WITH HOOK",
    "6SMALL LETTER Y WITH HOOK|6CAPITAL LETTER Z WITH STROKE|6SMALL LETTER Z WITH STROKE",
    "6CAPITAL LETTER EZH|H REVERSED|6SMALL LETTER EZH REVERSED|GWITH TAIL|6LETTER TWO WITH STROKE",
    "6CAPITAL LETTER TONE FIVE|6SMALL LETTER TONE FIVE|6LETTER INVERTED GLOTTAL STOP WITH STROKE|=WYNN",
    "=DENTAL CLICK|=LATERAL CLICK|=ALVEOLAR CLICK|=RETROFLEX CLICK|6CAPITAL LETTER DZ WITH CARON",
    "F WITH SMALL LETTER Z WITH CARON|6SMALL LETTER DZ WITH CARON|6CAPITAL LETTER LJ",
    "F WITH SMALL LETTER J|6SMALL LETTER LJ|6CAPITAL LETTER NJ|F WITH SMALL LETTER J|6SMALL LETTER NJ",
    "6CAPITAL LETTER A WITH CARON|6SMALL LETTER A WITH CARON|6CAPITAL LETTER I WITH CARON",
    "6SMALL LETTER I WITH CARON|6CAPITAL LETTER O WITH CARON|6SMALL LETTER O WITH CARON",
    "6CAPITAL LETTER U WITH CARON|6SMALL LETTER U WITH CARON|6CAPITAL LETTER U WITH DIAERESIS AND MACRON",
    "6SMALL LETTER U WITH DIAERESIS AND MACRON|6CAPITAL LETTER U WITH DIAERESIS AND ACUTE",
    "6SMALL LETTER U WITH DIAERESIS AND ACUTE|6CAPITAL LETTER U WITH DIAERESIS AND CARON",
    "6SMALL LETTER U WITH DIAERESIS AND CARON|6CAPITAL LETTER U WITH DIAERESIS AND GRAVE",
    "6SMALL LETTER U WITH DIAERESIS AND GRAVE|CTURNED E|6CAPITAL LETTER A WITH DIAERESIS AND MACRON",
    "6SMALL LETTER A WITH DIAERESIS AND MACRON|6CAPITAL LETTER A WITH DOT ABOVE AND MACRON",
    "6SMALL LETTER A WITH DOT ABOVE AND MACRON|6CAPITAL LETTER AE WITH MACRON",
    "6SMALL LETTER AE WITH MACRON|6CAPITAL LETTER G WITH STROKE|6SMALL LETTER G WITH STROKE",
    "6CAPITAL LETTER G WITH CARON|6SMALL LETTER G WITH CARON|6CAPITAL LETTER K WITH CARON",
    "6SMALL LETTER K WITH CARON|6CAPITAL LETTER O WITH OGONEK|6SMALL LETTER O WITH OGONEK",
    "6CAPITAL LETTER O WITH OGONEK AND MACRON|6SMALL LETTER O WITH OGONEK AND MACRON",
    "6CAPITAL LETTER EZH WITH CARON|6SMALL LETTER EZH WITH CARON|CJ WITH CARON|6CAPITAL LETTER DZ",
    "F WITH SMALL LETTER Z|6SMALL LETTER DZ|6CAPITAL LETTER G WITH ACUTE|6SMALL LETTER G WITH ACUTE",
    "6CAPITAL LETTER HWAIR|EWYNN|EN WITH GRAVE|6SMALL LETTER N WITH GRAVE",
    "6CAPITAL LETTER A WITH RING ABOVE AND ACUTE|6SMALL LETTER A WITH RING ABOVE AND ACUTE",
    "6CAPITAL LETTER AE WITH ACUTE|6SMALL LETTER AE WITH ACUTE|6CAPITAL LETTER O WITH STROKE AND ACUTE",
    "6SMALL LETTER O WITH STROKE AND ACUTE|6CAPITAL LETTER A WITH DOUBLE GRAVE",
    "6SMALL LETTER A WITH DOUBLE GRAVE|6CAPITAL LETTER A WITH INVERTED BREVE",
    "6SMALL LETTER A WITH INVERTED BREVE|6CAPITAL LETTER E WITH DOUBLE GRAVE",
    "6SMALL LETTER E WITH DOUBLE GRAVE|6CAPITAL LETTER E WITH INVERTED BREVE",
    "6SMALL LETTER E WITH INVERTED BREVE|6CAPITAL LETTER I WITH DOUBLE GRAVE",
    "6SMALL LETTER I WITH DOUBLE GRAVE|6CAPITAL LETTER I WITH INVERTED BREVE",
    "6SMALL LETTER I WITH INVERTED BREVE|6CAPITAL LETTER O WITH DOUBLE GRAVE",
    "6SMALL LETTER O WITH DOUBLE GRAVE|6CAPITAL LETTER O WITH INVERTED BREVE",
    "6SMALL LETTER O WITH INVERTED BREVE|6CAPITAL LETTER R WITH DOUBLE GRAVE",
    "6SMALL LETTER R WITH DOUBLE GRAVE|6CAPITAL LETTER R WITH INVERTED BREVE",
    "6SMALL LETTER R WITH INVERTED BREVE|6CAPITAL LETTER U WITH DOUBLE GRAVE",
    "6SMALL LETTER U WITH DOUBLE GRAVE|6CAPITAL LETTER U WITH INVERTED BREVE",
    "6SMALL LETTER U WITH INVERTED BREVE|6CAPITAL LETTER S WITH COMMA BELOW",
    "6SMALL LETTER S WITH COMMA BELOW|6CAPITAL LETTER T WITH COMMA BELOW|6SMALL LETTER T WITH COMMA BELOW",
    "6CAPITAL LETTER YOGH|6SMALL LETTER YOGH|6CAPITAL LETTER H WITH CARON|6SMALL LETTER H WITH CARON",
    "6CAPITAL LETTER N WITH LONG RIGHT LEG|6SMALL LETTER D WITH CURL|6CAPITAL LETTER OU|6SMALL LETTER OU",
    "6CAPITAL LETTER Z WITH HOOK|6SMALL LETTER Z WITH HOOK|6CAPITAL LETTER A WITH DOT ABOVE",
    "6SMALL LETTER A WITH DOT ABOVE|6CAPITAL LETTER E WITH CEDILLA|6SMALL LETTER E WITH CEDILLA",
    "6CAPITAL LETTER O WITH DIAERESIS AND MACRON|6SMALL LETTER O WITH DIAERESIS AND MACRON",
    "6CAPITAL LETTER O WITH TILDE AND MACRON|6SMALL LETTER O WITH TILDE AND MACRON",
    "6CAPITAL LETTER O WITH DOT ABOVE|6SMALL LETTER O WITH DOT ABOVE",
    "6CAPITAL LETTER O WITH DOT ABOVE AND MACRON|6SMALL LETTER O WITH DOT ABOVE AND MACRON",
    "6CAPITAL LETTER Y WITH MACRON|6SMALL LETTER Y WITH MACRON|CL WITH CURL|CN WITH CURL|CT WITH CURL",
    "CDOTLESS J|DB DIGRAPH|CQP DIGRAPH|6CAPITAL LETTER A WITH STROKE|EC WITH STROKE",
    "6SMALL LETTER C WITH STROKE|6CAPITAL LETTER L WITH BAR|ET WITH DIAGONAL STROKE",
    "6SMALL LETTER S WITH SWASH TAIL|CZ WITH SWASH TAIL|6CAPITAL LETTER GLOTTAL STOP",
    "6SMALL LETTER GLOTTAL STOP|6CAPITAL LETTER B WITH STROKE|EU BAR|ETURNED V|EE WITH STROKE",
    "6SMALL LETTER E WITH STROKE|6CAPITAL LETTER J WITH STROKE|6SMALL LETTER J WITH STROKE",
    "6CAPITAL LETTER SMALL Q WITH HOOK TAIL|6SMALL LETTER Q WITH HOOK TAIL|6CAPITAL LETTER R WITH STROKE",
    "6SMALL LETTER R WITH STROKE|6CAPITAL LETTER Y WITH STROKE|6SMALL LETTER Y WITH STROKE|CTURNED A",
    "CALPHA|CTURNED ALPHA|CB WITH HOOK|COPEN O|CC WITH CURL|CD WITH TAIL|JHOOK|CREVERSED E|CSCHWA",
    "H WITH HOOK|COPEN E|CREVERSED OPEN E|R WITH HOOK|CCLOSED REVERSED OPEN E|CDOTLESS J WITH STROKE",
    "CG WITH HOOK|CSCRIPT G|6LETTER SMALL CAPITAL G|6SMALL LETTER GAMMA|CRAMS HORN|CTURNED H|CH WITH HOOK",
    "DENG WITH HOOK|CI WITH STROKE|DOTA|6LETTER SMALL CAPITAL I|6SMALL LETTER L WITH MIDDLE TILDE|JBELT",
    "JRETROFLEX HOOK|DEZH|CTURNED M|K WITH LONG LEG|CM WITH HOOK|CN WITH LEFT HOOK|JRETROFLEX HOOK",
    "6LETTER SMALL CAPITAL N|6SMALL LETTER BARRED O|6LETTER SMALL CAPITAL OE|6SMALL LETTER CLOSED OMEGA",
    "CPHI|CTURNED R|K WITH LONG LEG|QHOOK|CR WITH LONG LEG|JTAIL|JFISHHOOK|DEVERSED R WITH FISHHOOK",
    "6LETTER SMALL CAPITAL R|KINVERTED R|6SMALL LETTER S WITH HOOK|CESH|CDOTLESS J WITH STROKE AND HOOK",
    "CSQUAT REVERSED ESH|CESH WITH CURL|CTURNED T|D WITH RETROFLEX HOOK|CU BAR|DPSILON|CV WITH HOOK",
    "CTURNED V|JW|JY|6LETTER SMALL CAPITAL Y|6SMALL LETTER Z WITH RETROFLEX HOOK|JCURL|CEZH|F WITH CURL",
    "6LETTER GLOTTAL STOP|=PHARYNGEAL VOICED FRICATIVE|=INVERTED GLOTTAL STOP|=STRETCHED C",
    "=BILABIAL CLICK|=SMALL CAPITAL B|6SMALL LETTER CLOSED OPEN E|6LETTER SMALL CAPITAL G WITH HOOK|KH",
    "6SMALL LETTER J WITH CROSSED-TAIL|CTURNED K|6LETTER SMALL CAPITAL L|6SMALL LETTER Q WITH HOOK",
    "6LETTER GLOTTAL STOP WITH STROKE|=REVERSED GLOTTAL STOP WITH STROKE|6SMALL LETTER DZ DIGRAPH",
    "DEZH DIGRAPH|DZ DIGRAPH WITH CURL|CTS DIGRAPH|DESH DIGRAPH|DC DIGRAPH WITH CURL|CFENG DIGRAPH",
    "CLS DIGRAPH|DZ DIGRAPH|6LETTER BILABIAL PERCUSSIVE|?DENTAL PERCUSSIVE",
    "6SMALL LETTER TURNED H WITH FISHHOOK|Y AND TAIL|0MODIFIER LETTER SMALL H|G WITH HOOK|FJ|FR|FTURNED R",
    "N WITH HOOK|FCAPITAL INVERTED R|FW|FY|@PRIME|@DOUBLE PRIME|@TURNED COMMA|@APOSTROPHE|@REVERSED COMMA",
    "AIGHT HALF RING|@LEFT HALF RING|@GLOTTAL STOP|@REVERSED GLOTTAL STOP|@LEFT ARROWHEAD",
    "@RIGHT ARROWHEAD|@UP ARROWHEAD|@DOWN ARROWHEAD|@CIRCUMFLEX ACCENT|0CARON",
    "0MODIFIER LETTER VERTICAL LINE|@MACRON|@ACUTE ACCENT|@GRAVE ACCENT|@LOW VERTICAL LINE|DMACRON",
    "DGRAVE ACCENT|DACUTE ACCENT|@TRIANGULAR COLON|@HALF TRIANGULAR COLON|@CENTRED RIGHT HALF RING",
    "HLEFT HALF RING|@UP TACK|@DOWN TACK|@PLUS SIGN|@MINUS SIGN|0BREVE|0DOT ABOVE|0RING ABOVE|0OGONEK",
    "0SMALL TILDE|0DOUBLE ACUTE ACCENT|0MODIFIER LETTER RHOTIC HOOK|@CROSS ACCENT|@SMALL GAMMA|FL|FS|FX",
    "FREVERSED GLOTTAL STOP|@EXTRA-HIGH TONE BAR|@HIGH TONE BAR|@MID TONE BAR|@LOW TONE BAR",
    "@EXTRA-LOW TONE BAR|@YIN DEPARTING TONE MARK|AANG DEPARTING TONE MARK|@VOICING|@UNASPIRATED",
    "@DOUBLE APOSTROPHE|@LOW DOWN ARROWHEAD|DUP ARROWHEAD|DLEFT ARROWHEAD|DRIGHT ARROWHEAD|FNG",
    "@MIDDLE GRAVE ACCENT|GDOUBLE GRAVE ACCENT|NACUTE ACCENT|@LOW TILDE|@RAISED COLON|@BEGIN HIGH TONE",
    "@END HIGH TONE|@BEGIN LOW TONE|@END LOW TONE|@SHELF|@OPEN SHELF|@LOW LEFT ARROW",
    "0COMBINING GRAVE ACCENT|:ACUTE ACCENT|:CIRCUMFLEX ACCENT|:TILDE|:MACRON|:OVERLINE|:BREVE|:DOT ABOVE",
    ";IAERESIS|:HOOK ABOVE|:RING ABOVE|:DOUBLE ACUTE ACCENT|:CARON|:VERTICAL LINE ABOVE",
    ":DOUBLE VERTICAL LINE ABOVE|AGRAVE ACCENT|:CANDRABINDU|:INVERTED BREVE|:TURNED COMMA ABOVE",
    ":COMMA ABOVE|:REVERSED COMMA ABOVE|:COMMA ABOVE RIGHT|:GRAVE ACCENT BELOW|:ACUTE ACCENT BELOW",
    ":LEFT TACK BELOW|:RIGHT TACK BELOW|:LEFT ANGLE ABOVE|:HORN|:LEFT HALF RING BELOW|:UP TACK BELOW",
    ":DOWN TACK BELOW|:PLUS SIGN BELOW|:MINUS SIGN BELOW|:PALATALIZED HOOK BELOW|:RETROFLEX HOOK BELOW",
    ":DOT BELOW|;IAERESIS BELOW|:RING BELOW|:COMMA BELOW|;EDILLA|:OGONEK|:VERTICAL LINE BELOW",
    ":BRIDGE BELOW|:INVERTED DOUBLE ARCH BELOW|:CARON BELOW|;IRCUMFLEX ACCENT BELOW|:BREVE BELOW",
    ":INVERTED BREVE BELOW|:TILDE BELOW|:MACRON BELOW|:LOW LINE|:DOUBLE LOW LINE|:TILDE OVERLAY",
    ":SHORT STROKE OVERLAY|:LONG STROKE OVERLAY|:SHORT SOLIDUS OVERLAY|:LONG SOLIDUS OVERLAY",
    ":RIGHT HALF RING BELOW|:INVERTED BRIDGE BELOW|:SQUARE BELOW|;EAGULL BELOW|:X ABOVE|:VERTICAL TILDE",
    ":DOUBLE OVERLINE|:GRAVE TONE MARK|:ACUTE TONE MARK|:GREEK PERISPOMENI|@KORONIS|@DIALYTIKA TONOS",
    "@YPOGEGRAMMENI|:BRIDGE ABOVE|:EQUALS SIGN BELOW|:DOUBLE VERTICAL LINE BELOW|:LEFT ANGLE BELOW",
    ":NOT TILDE ABOVE|:HOMOTHETIC ABOVE|:ALMOST EQUAL TO ABOVE|:LEFT RIGHT ARROW BELOW",
    ":UPWARDS ARROW BELOW|:GRAPHEME JOINER|:RIGHT ARROWHEAD ABOVE|:LEFT HALF RING ABOVE|:FERMATA|:X BELOW",
    ":LEFT ARROWHEAD BELOW|:RIGHT ARROWHEAD BELOW|JAND UP ARROWHEAD BELOW|@HALF RING ABOVE",
    ":DOT ABOVE RIGHT|:ASTERISK BELOW|:DOUBLE RING BELOW|:ZIGZAG ABOVE|:DOUBLE BREVE BELOW|EE|AMACRON",
    "G BELOW|ATILDE|AINVERTED BREVE|ARIGHTWARDS ARROW BELOW|:LATIN SMALL LETTER A|ME|MI|MO|MU|MC|MD|MH|MM",
    "MR|MT|MV|MX|0GREEK CAPITAL LETTER HETA|6SMALL LETTER HETA|6CAPITAL LETTER ARCHAIC SAMPI",
    "6SMALL LETTER ARCHAIC SAMPI|6NUMERAL SIGN|6LOWER NUMERAL SIGN|6CAPITAL LETTER PAMPHYLIAN DIGAMMA",
    "6SMALL LETTER PAMPHYLIAN DIGAMMA|||6YPOGEGRAMMENI|6SMALL REVERSED LUNATE SIGMA SYMBOL",
    "<DOTTED LUNATE SIGMA SYMBOL|<REVERSED DOTTED LUNATE SIGMA SYMBOL|6QUESTION MARK|6CAPITAL LETTER YOT|",
    "|||6TONOS|6DIALYTIKA TONOS|6CAPITAL LETTER ALPHA WITH TONOS|6ANO TELEIA",
    "6CAPITAL LETTER EPSILON WITH TONOS|FTA WITH TONOS|EIOTA WITH TONOS||EOMICRON WITH TONOS|",
    "EUPSILON WITH TONOS|EOMEGA WITH TONOS|6SMALL LETTER IOTA WITH DIALYTIKA AND TONOS",
    "6CAPITAL LETTER ALPHA|EBETA|EGAMMA|EDELTA|EEPSILON|EZETA|EETA|ETHETA|EIOTA|EKAPPA|ELAMDA|EMU|ENU|EXI",
    "EOMICRON|EPI|ERHO||ESIGMA|ETAU|EUPSILON|EPHI|ECHI|EPSI|EOMEGA|EIOTA WITH DIALYTIKA",
    "EUPSILON WITH DIALYTIKA|6SMALL LETTER ALPHA WITH TONOS|CEPSILON WITH TONOS|DTA WITH TONOS",
    "CIOTA WITH TONOS|CUPSILON WITH DIALYTIKA AND TONOS|CALPHA|CBETA|CGAMMA|CDELTA|CEPSILON|CZETA|CETA",
    "CTHETA|CIOTA|CKAPPA|CLAMDA|CMU|CNU|CXI|COMICRON|CPI|CRHO|CFINAL SIGMA|CSIGMA|CTAU|CUPSILON|CPHI|CCHI",
    "CPSI|COMEGA|CIOTA WITH DIALYTIKA|CUPSILON WITH DIALYTIKA|COMICRON WITH TONOS|CUPSILON WITH TONOS",
    "COMEGA WITH TONOS|6CAPITAL KAI SYMBOL|6BETA SYMBOL|6THETA SYMBOL|6UPSILON WITH HOOK SYMBOL",
    "CACUTE AND HOOK SYMBOL|CDIAERESIS AND HOOK SYMBOL|6PHI SYMBOL|7I SYMBOL|6KAI SYMBOL",
    "6LETTER ARCHAIC KOPPA|6SMALL LETTER ARCHAIC KOPPA|6LETTER STIGMA|6SMALL LETTER STIGMA",
    "6LETTER DIGAMMA|6SMALL LETTER DIGAMMA|6LETTER KOPPA|6SMALL LETTER KOPPA|6LETTER SAMPI",
    "6SMALL LETTER SAMPI|0COPTIC CAPITAL LETTER SHEI|7SMALL LETTER SHEI|7CAPITAL LETTER FEI",
    "7SMALL LETTER FEI|7CAPITAL LETTER KHEI|7SMALL LETTER KHEI|7CAPITAL LETTER HORI|7SMALL LETTER HORI",
    "7CAPITAL LETTER GANGIA|7SMALL LETTER GANGIA|7CAPITAL LETTER SHIMA|7SMALL LETTER SHIMA",
    "7CAPITAL LETTER DEI|7SMALL LETTER DEI|0GREEK KAPPA SYMBOL|6RHO SYMBOL|6LUNATE SIGMA SYMBOL",
    "7ETTER YOT|6CAPITAL THETA SYMBOL|6LUNATE EPSILON SYMBOL|6REVERSED LUNATE EPSILON SYMBOL",
    "6CAPITAL LETTER SHO|6SMALL LETTER SHO|6CAPITAL LUNATE SIGMA SYMBOL|?ETTER SAN|6SMALL LETTER SAN",
    "6RHO WITH STROKE SYMBOL|6CAPITAL REVERSED LUNATE SIGMA SYMBOL|>DOTTED LUNATE SIGMA SYMBOL",
    ">REVERSED DOTTED LUNATE SIGMA SYMBOL|0CYRILLIC CAPITAL LETTER IE WITH GRAVE|IO|HDJE|HGJE",
    "HUKRAINIAN IE|HDZE|HBYELORUSSIAN-UKRAINIAN I|HYI|HJE|HLJE|HNJE|HTSHE|HKJE|HI WITH GRAVE|HSHORT U",
    "HDZHE|HA|HBE|HVE|HGHE|HDE|HIE|HZHE|IE|HI|HSHORT I|HKA|HEL|IM|IN|HO|HPE|HER|IS|HTE|HU|HEF|HHA|HTSE",
    "HCHE|HSHA|JCHA|HHARD SIGN|HYERU|HSOFT SIGN|HE|HYU|IA|9SMALL LETTER A|FBE|FVE|FGHE|FDE|FIE|FZHE|GE|FI",
    "FSHORT I|FKA|FEL|GM|GN|FO|FPE|FER|GS|FTE|FU|FEF|FHA|FTSE|FCHE|FSHA|HCHA|FHARD SIGN|FYERU|FSOFT SIGN",
    "FE|FYU|GA|FIE WITH GRAVE|GO|FDJE|FGJE|FUKRAINIAN IE|FDZE|FBYELORUSSIAN-UKRAINIAN I|FYI|FJE|FLJE|FNJE",
    "FTSHE|FKJE|FI WITH GRAVE|FSHORT U|FDZHE|9CAPITAL LETTER OMEGA|9SMALL LETTER OMEGA",
    "9CAPITAL LETTER YAT|9SMALL LETTER YAT|9CAPITAL LETTER IOTIFIED E|9SMALL LETTER IOTIFIED E",
    "9CAPITAL LETTER LITTLE YUS|9SMALL LETTER LITTLE YUS|9CAPITAL LETTER IOTIFIED LITTLE YUS",
    "9SMALL LETTER IOTIFIED LITTLE YUS|9CAPITAL LETTER BIG YUS|9SMALL LETTER BIG YUS",
    "9CAPITAL LETTER IOTIFIED BIG YUS|9SMALL LETTER IOTIFIED BIG YUS|9CAPITAL LETTER KSI",
    "9SMALL LETTER KSI|9CAPITAL LETTER PSI|9SMALL LETTER PSI|9CAPITAL LETTER FITA|9SMALL LETTER FITA",
    "9CAPITAL LETTER IZHITSA|9SMALL LETTER IZHITSA|9CAPITAL LETTER IZHITSA WITH DOUBLE GRAVE ACCENT",
    "9SMALL LETTER IZHITSA WITH DOUBLE GRAVE ACCENT|9CAPITAL LETTER UK|9SMALL LETTER UK",
    "9CAPITAL LETTER ROUND OMEGA|9SMALL LETTER ROUND OMEGA|9CAPITAL LETTER OMEGA WITH TITLO",
    "9SMALL LETTER OMEGA WITH TITLO|9CAPITAL LETTER OT|9SMALL LETTER OT|9CAPITAL LETTER KOPPA",
    "9SMALL LETTER KOPPA|9THOUSANDS SIGN|1OMBINING CYRILLIC TITLO|CPALATALIZATION|CDASIA PNEUMATA",
    "CPSILI PNEUMATA|DOKRYTIE|CHUNDRED THOUSANDS SIGN|CMILLIONS SIGN",
    "1YRILLIC CAPITAL LETTER SHORT I WITH TAIL|9SMALL LETTER SHORT I WITH TAIL",
    "9CAPITAL LETTER SEMISOFT SIGN|9SMALL LETTER SEMISOFT SIGN|9CAPITAL LETTER ER WITH TICK",
    "9SMALL LETTER ER WITH TICK|9CAPITAL LETTER GHE WITH UPTURN|9SMALL LETTER GHE WITH UPTURN",
    "9CAPITAL LETTER GHE WITH STROKE|9SMALL LETTER GHE WITH STROKE|9CAPITAL LETTER GHE WITH MIDDLE HOOK",
    "9SMALL LETTER GHE WITH MIDDLE HOOK|9CAPITAL LETTER ZHE WITH DESCENDER",
    "9SMALL LETTER ZHE WITH DESCENDER|9CAPITAL LETTER ZE WITH DESCENDER|9SMALL LETTER ZE WITH DESCENDER",
    "9CAPITAL LETTER KA WITH DESCENDER|9SMALL LETTER KA WITH DESCENDER",
    "9CAPITAL LETTER KA WITH VERTICAL STROKE|9SMALL LETTER KA WITH VERTICAL STROKE",
    "9CAPITAL LETTER KA WITH STROKE|9SMALL LETTER KA WITH STROKE|9CAPITAL LETTER BASHKIR KA",
    "9SMALL LETTER BASHKIR KA|9CAPITAL LETTER EN WITH DESCENDER|9SMALL LETTER EN WITH DESCENDER",
    "9CAPITAL LIGATURE EN GHE|9SMALL LIGATURE EN GHE|9CAPITAL LETTER PE WITH MIDDLE HOOK",
    "9SMALL LETTER PE WITH MIDDLE HOOK|9CAPITAL LETTER ABKHASIAN HA|9SMALL LETTER ABKHASIAN HA",
    "9CAPITAL LETTER ES WITH DESCENDER|9SMALL LETTER ES WITH DESCENDER|9CAPITAL LETTER TE WITH DESCENDER",
    "9SMALL LETTER TE WITH DESCENDER|9CAPITAL LETTER STRAIGHT U|9SMALL LETTER STRAIGHT U",
    "9CAPITAL LETTER STRAIGHT U WITH STROKE|9SMALL LETTER STRAIGHT U WITH STROKE",
    "9CAPITAL LETTER HA WITH DESCENDER|9SMALL LETTER HA WITH DESCENDER|9CAPITAL LIGATURE TE TSE",
    "9SMALL LIGATURE TE TSE|9CAPITAL LETTER CHE WITH DESCENDER|9SMALL LETTER CHE WITH DESCENDER",
    "9CAPITAL LETTER CHE WITH VERTICAL STROKE|9SMALL LETTER CHE WITH VERTICAL STROKE|9CAPITAL LETTER SHHA",
    "9SMALL LETTER SHHA|9CAPITAL LETTER ABKHASIAN CHE|9SMALL LETTER ABKHASIAN CHE",
    "9CAPITAL LETTER ABKHASIAN CHE WITH DESCENDER|9SMALL LETTER ABKHASIAN CHE WITH DESCENDER",
    "9LETTER PALOCHKA|9CAPITAL LETTER ZHE WITH BREVE|9SMALL LETTER ZHE WITH BREVE",
    "9CAPITAL LETTER KA WITH HOOK|9SMALL LETTER KA WITH HOOK|9CAPITAL LETTER EL WITH TAIL",
    "9SMALL LETTER EL WITH TAIL|9CAPITAL LETTER EN WITH HOOK|9SMALL LETTER EN WITH HOOK",
    "9CAPITAL LETTER EN WITH TAIL|9SMALL LETTER EN WITH TAIL|9CAPITAL LETTER KHAKASSIAN CHE",
    "9SMALL LETTER KHAKASSIAN CHE|9CAPITAL LETTER EM WITH TAIL|9SMALL LETTER EM WITH TAIL|FPALOCHKA",
    "9CAPITAL LETTER A WITH BREVE|9SMALL LETTER A WITH BREVE|9CAPITAL LETTER A WITH DIAERESIS",
    "9SMALL LETTER A WITH DIAERESIS|9CAPITAL LIGATURE A IE|9SMALL LIGATURE A IE",
    "9CAPITAL LETTER IE WITH BREVE|9SMALL LETTER IE WITH BREVE|9CAPITAL LETTER SCHWA|9SMALL LETTER SCHWA",
    "9CAPITAL LETTER SCHWA WITH DIAERESIS|9SMALL LETTER SCHWA WITH DIAERESIS",
    "9CAPITAL LETTER ZHE WITH DIAERESIS|9SMALL LETTER ZHE WITH DIAERESIS",
    "9CAPITAL LETTER ZE WITH DIAERESIS|9SMALL LETTER ZE WITH DIAERESIS|9CAPITAL LETTER ABKHASIAN DZE",
    "9SMALL LETTER ABKHASIAN DZE|9CAPITAL LETTER I WITH MACRON|9SMALL LETTER I WITH MACRON",
    "9CAPITAL LETTER I WITH DIAERESIS|9SMALL LETTER I WITH DIAERESIS|9CAPITAL LETTER O WITH DIAERESIS",
    "9SMALL LETTER O WITH DIAERESIS|9CAPITAL LETTER BARRED O|9SMALL LETTER BARRED O",
    "9CAPITAL LETTER BARRED O WITH DIAERESIS|9SMALL LETTER BARRED O WITH DIAERESIS",
    "9CAPITAL LETTER E WITH DIAERESIS|9SMALL LETTER E WITH DIAERESIS|9CAPITAL LETTER U WITH MACRON",
    "9SMALL LETTER U WITH MACRON|9CAPITAL LETTER U WITH DIAERESIS|9SMALL LETTER U WITH DIAERESIS",
    "9CAPITAL LETTER U WITH DOUBLE ACUTE|9SMALL LETTER U WITH DOUBLE ACUTE",
    "9CAPITAL LETTER CHE WITH DIAERESIS|9SMALL LETTER CHE WITH DIAERESIS",
    "9CAPITAL LETTER GHE WITH DESCENDER|9SMALL LETTER GHE WITH DESCENDER",
    "9CAPITAL LETTER YERU WITH DIAERESIS|9SMALL LETTER YERU WITH DIAERESIS",
    "9CAPITAL LETTER GHE WITH STROKE AND HOOK|9SMALL LETTER GHE WITH STROKE AND HOOK",
    "9CAPITAL LETTER HA WITH HOOK|9SMALL LETTER HA WITH HOOK|9CAPITAL LETTER HA WITH STROKE",
    "9SMALL LETTER HA WITH STROKE|9CAPITAL LETTER KOMI DE|9SMALL LETTER KOMI DE|9CAPITAL LETTER KOMI DJE",
    "9SMALL LETTER KOMI DJE|9CAPITAL LETTER KOMI ZJE|9SMALL LETTER KOMI ZJE|9CAPITAL LETTER KOMI DZJE",
    "9SMALL LETTER KOMI DZJE|9CAPITAL LETTER KOMI LJE|9SMALL LETTER KOMI LJE|9CAPITAL LETTER KOMI NJE",
    "9SMALL LETTER KOMI NJE|9CAPITAL LETTER KOMI SJE|9SMALL LETTER KOMI SJE|9CAPITAL LETTER KOMI TJE",
    "9SMALL LETTER KOMI TJE|9CAPITAL LETTER REVERSED ZE|9SMALL LETTER REVERSED ZE",
    "9CAPITAL LETTER EL WITH HOOK|9SMALL LETTER EL WITH HOOK|9CAPITAL LETTER LHA|9SMALL LETTER LHA",
    "9CAPITAL LETTER RHA|9SMALL LETTER RHA|9CAPITAL LETTER YAE|9SMALL LETTER YAE|9CAPITAL LETTER QA",
    "9SMALL LETTER QA|9CAPITAL LETTER WE|9SMALL LETTER WE|9CAPITAL LETTER ALEUT KA|9SMALL LETTER ALEUT KA",
    "9CAPITAL LETTER EL WITH MIDDLE HOOK|9SMALL LETTER EL WITH MIDDLE HOOK",
    "9CAPITAL LETTER EN WITH MIDDLE HOOK|9SMALL LETTER EN WITH MIDDLE HOOK",
    "9CAPITAL LETTER PE WITH DESCENDER|9SMALL LETTER PE WITH DESCENDER",
    "9CAPITAL LETTER SHHA WITH DESCENDER|9SMALL LETTER SHHA WITH DESCENDER",
    "9CAPITAL LETTER EN WITH LEFT HOOK|9SMALL LETTER EN WITH LEFT HOOK|9CAPITAL LETTER DZZHE",
    "9SMALL LETTER DZZHE|9CAPITAL LETTER DCHE|9SMALL LETTER DCHE|9CAPITAL LETTER EL WITH DESCENDER",
    "9SMALL LETTER EL WITH DESCENDER||0ARMENIAN CAPITAL LETTER AYB|HBEN|HGIM|HDA|HECH|HZA|HEH|IT|HTO|HZHE",
    "HINI|HLIWN|HXEH|HCA|HKEN|HHO|HJA|HGHAD|HCHEH|HMEN|HYI|HNOW|HSHA|HVO|HCHA|HPEH|HJHEH|HRA|HSEH|HVEW",
    "HTIWN|HREH|HCO|HYIWN|HPIWR|HKEH|HOH|HFEH|||9MODIFIER LETTER LEFT HALF RING|9APOSTROPHE",
    "9EMPHASIS MARK|:XCLAMATION MARK|9COMMA|9QUESTION MARK|9ABBREVIATION MARK|9SMALL LETTER TURNED AYB",
    "FAYB|FBEN|FGIM|FDA|FECH|FZA|FEH|GT|FTO|FZHE|FINI|FLIWN|FXEH|FCA|FKEN|FHO|FJA|FGHAD|FCHEH|FMEN|FYI",
    "FNOW|FSHA|FVO|FCHA|FPEH|FJHEH|FRA|FSEH|FVEW|FTIWN|FREH|FCO|FYIWN|FPIWR|FKEH|FOH|FFEH",
    "@IGATURE ECH YIWN|@ETTER YI WITH STROKE|9FULL STOP|9HYPHEN|||0RIGHT-FACING ARMENIAN ETERNITY SIGN",
    "0LEFT-FACING ARMENIAN ETERNITY SIGN|0ARMENIAN DRAM SIGN||0HEBREW ACCENT ETNAHTA|>SEGOL|?HALSHELET",
    ">ZAQEF QATAN|DGADOL|>TIPEHA|>REVIA|>ZARQA|>PASHTA|>YETIV|>TEVIR|>GERESH|D MUQDAM|ASHAYIM",
    ">QARNEY PARA|>TELISHA GEDOLA|>PAZER|>ATNAH HAFUKH|>MUNAH|?AHAPAKH|?ERKHA|D KEFULA|>DARGA|>QADMA",
    ">TELISHA QETANA|>YERAH BEN YOMO|>OLE|>ILUY|>DEHI|>ZINOR|7MARK MASORA CIRCLE|7POINT SHEVA",
    "=HATAF SEGOL|CPATAH|CQAMATS|>IRIQ|=TSERE|=SEGOL|=PATAH|=QAMATS|=HOLAM|B HASER FOR VAV|=QUBUTS",
    "=DAGESH OR MAPIQ|=METEG|8UNCTUATION MAQAF|8OINT RAFE|8UNCTUATION PASEQ|8OINT SHIN DOT|>IN DOT",
    "8UNCTUATION SOF PASUQ|7MARK UPPER DOT|<LOWER DOT|7PUNCTUATION NUN HAFUKHA|8OINT QAMATS QATAN"]),
  (0x5d0, ["0HEBREW LETTER ALEF|>BET|>GIMEL|>DALET|>HE|>VAV|>ZAYIN|>HET|>TET|>YOD|>FINAL KAF|>KAF|>LAMED",
    ">FINAL MEM|>MEM|>FINAL NUN|>NUN|>SAMEKH|>AYIN|>FINAL PE|>PE|>FINAL TSADI|>TSADI|>QOF|>RESH|>SHIN",
    ">TAV|||||7YOD TRIANGLE|7LIGATURE YIDDISH DOUBLE VAV|HVAV YOD|HDOUBLE YOD|7PUNCTUATION GERESH|FSHAYIM"]),
  (0x600, ["0ARABIC NUMBER SIGN|7SIGN SANAH|7FOOTNOTE MARKER|7SIGN SAFHA|>MVAT|7NUMBER MARK ABOVE",
    "6-INDIC CUBE ROOT|=FOURTH ROOT|6 RAY|6-INDIC PER MILLE SIGN|ATEN THOUSAND SIGN|1FGHANI SIGN",
    "1RABIC COMMA|7DATE SEPARATOR|7POETIC VERSE SIGN|7SIGN MISRA|<SALLALLAHOU ALAYHE WASSALLAM",
    "<ALAYHE ASSALLAM|<RAHMATULLAH ALAYHE|>DI ALLAHOU ANHU|<TAKHALLUS|8MALL HIGH TAH",
    "BLIGATURE ALEF WITH LAM WITH YEH|BZAIN|=FATHA|=DAMMA|=KASRA|8EMICOLON|7LETTER MARK|7END OF TEXT MARK",
    "7TRIPLE DOT PUNCTUATION MARK|7QUESTION MARK|7LETTER KASHMIRI YEH|>HAMZA|>ALEF WITH MADDA ABOVE",
    "HHAMZA ABOVE|>WAW WITH HAMZA ABOVE|>ALEF WITH HAMZA BELOW|>YEH WITH HAMZA ABOVE|>ALEF|>BEH",
    ">TEH MARBUTA|@H|?HEH|>JEEM|>HAH|>KHAH|>DAL|>THAL|>REH|>ZAIN|>SEEN|?HEEN|?AD|>DAD|>TAH|>ZAH|>AIN",
    ">GHAIN|>KEHEH WITH TWO DOTS ABOVE|JHREE DOTS BELOW|>FARSI YEH WITH INVERTED V|MTWO DOTS ABOVE",
    "NHREE DOTS ABOVE|7TATWEEL|7LETTER FEH|>QAF|>KAF|>LAM|>MEEM|>NOON|>HEH|>WAW|>ALEF MAKSURA|>YEH",
    "7FATHATAN|7DAMMATAN|7KASRATAN|7FATHA|7DAMMA|7KASRA|7SHADDA|8UKUN|7MADDAH ABOVE|7HAMZA ABOVE|=BELOW",
    "7SUBSCRIPT ALEF|7INVERTED DAMMA|7MARK NOON GHUNNA|7ZWARAKAY|7VOWEL SIGN SMALL V ABOVE",
    "BINVERTED SMALL V ABOVE|BDOT BELOW|7REVERSED DAMMA|7FATHA WITH TWO DOTS|7WAVY HAMZA BELOW",
    "6-INDIC DIGIT ZERO|CONE|CTWO|DHREE|CFOUR|DIVE|CSIX|DEVEN|CEIGHT|CNINE|6 PERCENT SIGN",
    "7DECIMAL SEPARATOR|7THOUSANDS SEPARATOR|7FIVE POINTED STAR|7LETTER DOTLESS BEH|FQAF",
    ">SUPERSCRIPT ALEF|>ALEF WASLA|DITH WAVY HAMZA ABOVE|SBELOW|>HIGH HAMZA|H ALEF|IWAW",
    ">U WITH HAMZA ABOVE|>HIGH HAMZA YEH|>TTEH|BEH|>BEEH|>TEH WITH RING|GTHREE DOTS ABOVE DOWNWARDS|>PEH",
    ">TEHEH|>BEHEH|>HAH WITH HAMZA ABOVE|GTWO DOTS VERTICAL ABOVE|>NYEH|>DYEH|>HAH WITH THREE DOTS ABOVE",
    ">TCHEH|CEH|>DDAL|?AL WITH RING|GDOT BELOW|P AND SMALL TAH|@HAL|?DAHAL|?UL",
    "?AL WITH THREE DOTS ABOVE DOWNWARDS|GFOUR DOTS ABOVE|>RREH|?EH WITH SMALL V|GRING|GDOT BELOW",
    "GSMALL V BELOW|GDOT BELOW AND DOT ABOVE|GTWO DOTS ABOVE|>JEH|>REH WITH FOUR DOTS ABOVE",
    ">SEEN WITH DOT BELOW AND DOT ABOVE|HTHREE DOTS BELOW|X AND THREE DOTS ABOVE|?AD WITH TWO DOTS BELOW",
    "HHREE DOTS ABOVE|>TAH WITH THREE DOTS ABOVE|>AIN WITH THREE DOTS ABOVE|>DOTLESS FEH",
    ">FEH WITH DOT MOVED BELOW|KBELOW|>VEH|>FEH WITH THREE DOTS BELOW|>PEHEH|>QAF WITH DOT ABOVE",
    "GTHREE DOTS ABOVE|>KEHEH|>SWASH KAF|>KAF WITH RING|GDOT ABOVE|>NG|>KAF WITH THREE DOTS BELOW|>GAF",
    "A WITH RING|>NGOEH|>GAF WITH TWO DOTS BELOW|?UEH|?AF WITH THREE DOTS ABOVE|>LAM WITH SMALL V",
    "GDOT ABOVE|GTHREE DOTS ABOVE|RBELOW|>NOON WITH DOT BELOW|CGHUNNA|>RNOON|>NOON WITH RING",
    "HTHREE DOTS ABOVE|>HEH DOACHASHMEE|>TCHEH WITH DOT ABOVE|>HEH WITH YEH ABOVE|BGOAL",
    "F WITH HAMZA ABOVE|>TEH MARBUTA GOAL|>WAW WITH RING|>KIRGHIZ OE|>OE|>U|>YU|>KIRGHIZ YU",
    ">WAW WITH TWO DOTS ABOVE|>VE|>FARSI YEH|>YEH WITH TAIL|GSMALL V|>WAW WITH DOT ABOVE|>E",
    ">YEH WITH THREE DOTS BELOW|BBARREE|H WITH HAMZA ABOVE|7FULL STOP|7LETTER AE",
    "7SMALL HIGH LIGATURE SAD WITH LAM WITH ALEF MAKSURA|KQAF WITH LAM WITH ALEF MAKSURA",
    "BMEEM INITIAL FORM|BLAM ALEF|BJEEM|BTHREE DOTS|BSEEN|7END OF AYAH|7START OF RUB EL HIZB",
    "8MALL HIGH ROUNDED ZERO|BUPRIGHT RECTANGULAR ZERO|BDOTLESS HEAD OF KHAH|BMEEM ISOLATED FORM",
    "=LOW SEEN|=HIGH MADDA|=WAW|=YEH|=HIGH YEH|BNOON|7PLACE OF SAJDAH|7EMPTY CENTRE LOW STOP|DHIGH STOP",
    "7ROUNDED HIGH STOP WITH FILLED CENTRE|7SMALL LOW MEEM|7LETTER DAL WITH INVERTED V",
    ">REH WITH INVERTED V|0EXTENDED ARABIC-INDIC DIGIT ZERO|LONE|LTWO|MHREE|LFOUR|MIVE|LSIX|MEVEN|LEIGHT",
    "LNINE|0ARABIC LETTER SHEEN WITH DOT BELOW|>DAD WITH DOT BELOW|>GHAIN WITH DOT BELOW",
    "7SIGN SINDHI AMPERSAND|CPOSTPOSITION MEN|7LETTER HEH WITH INVERTED V|0SYRIAC END OF PARAGRAPH",
    "7SUPRALINEAR FULL STOP|9BLINEAR FULL STOP|9PRALINEAR COLON|9BLINEAR COLON|7HORIZONTAL COLON",
    "7COLON SKEWED LEFT|DRIGHT|7SUPRALINEAR COLON SKEWED LEFT|9BLINEAR COLON SKEWED RIGHT|7CONTRACTION",
    "7HARKLEAN OBELUS|@METOBELUS|@ASTERISCUS||7ABBREVIATION MARK|7LETTER ALAPH|>SUPERSCRIPT ALAPH|>BETH",
    ">GAMAL|C GARSHUNI|>DALATH|?OTLESS DALATH RISH|>HE|>WAW|>ZAIN|>HETH|>TETH|B GARSHUNI|>YUDH|B HE|>KAPH",
    ">LAMADH|>MIM|>NUN|>SEMKATH|>FINAL SEMKATH|>E|>PE|>REVERSED PE|>SADHE|>QAPH|>RISH|>SHIN|>TAW",
    ">PERSIAN BHETH|FGHAMAL|FDHALATH|7PTHAHA ABOVE|>BELOW|>DOTTED|7ZQAPHA ABOVE|>BELOW|>DOTTED",
    "7RBASA ABOVE|=BELOW|7DOTTED ZLAMA HORIZONTAL|DANGULAR|7HBASA ABOVE|=BELOW|<-ESASA DOTTED",
    "7ESASA ABOVE|=BELOW|7RWAHA|7FEMININE DOT|7QUSHSHAYA|7RUKKAKHA|7TWO VERTICAL DOTS ABOVE|IBELOW",
    "8HREE DOTS ABOVE|BBELOW|7OBLIQUE LINE ABOVE|DBELOW|7MUSIC|7BARREKH|||7LETTER SOGDIAN ZHAIN|FKHAPH",
    "FFE|0ARABIC LETTER BEH WITH THREE DOTS HORIZONTALLY BELOW|GDOT BELOW AND THREE DOTS ABOVE",
    "GTHREE DOTS POINTING UPWARDS BELOW|h AND TWO DOTS ABOVE|HWO DOTS BELOW AND DOT ABOVE",
    "GINVERTED SMALL V BELOW|GSMALL V|>HAH WITH TWO DOTS ABOVE|HHREE DOTS POINTING UPWARDS BELOW",
    ">DAL WITH TWO DOTS VERTICALLY BELOW AND SMALL TAH|GINVERTED SMALL V BELOW|>REH WITH STROKE",
    ">SEEN WITH FOUR DOTS ABOVE|>AIN WITH TWO DOTS ABOVE|HHREE DOTS POINTING DOWNWARDS ABOVE",
    "HWO DOTS VERTICALLY ABOVE|>FEH WITH TWO DOTS BELOW|HHREE DOTS POINTING UPWARDS BELOW",
    ">KEHEH WITH DOT ABOVE|ITHREE DOTS ABOVE|TPOINTING UPWARDS BELOW|>MEEM WITH DOT ABOVE|LBELOW",
    ">NOON WITH TWO DOTS BELOW|HSMALL TAH|NV|>LAM WITH BAR|>REH WITH TWO DOTS VERTICALLY ABOVE",
    "GHAMZA ABOVE|>SEEN WITH TWO DOTS VERTICALLY ABOVE|>HAH WITH SMALL ARABIC LETTER TAH BELOW",
    "_AND TWO DOTS|>SEEN WITH SMALL ARABIC LETTER TAH AND TWO DOTS",
    ">REH WITH SMALL ARABIC LETTER TAH AND TWO DOTS|>HAH WITH SMALL ARABIC LETTER TAH ABOVE",
    ">ALEF WITH EXTENDED ARABIC-INDIC DIGIT TWO ABOVE|eHREE ABOVE",
    ">FARSI YEH WITH EXTENDED ARABIC-INDIC DIGIT TWO ABOVE|jHREE ABOVE|iFOUR BELOW",
    ">WAW WITH EXTENDED ARABIC-INDIC DIGIT TWO ABOVE|dHREE ABOVE",
    ">YEH BARREE WITH EXTENDED ARABIC-INDIC DIGIT TWO ABOVE|kHREE ABOVE",
    ">HAH WITH EXTENDED ARABIC-INDIC DIGIT FOUR BELOW|>SEEN WITH EXTENDED ARABIC-INDIC DIGIT FOUR ABOVE",
    "HINVERTED V|>KAF WITH TWO DOTS ABOVE|0THAANA LETTER HAA|>SHAVIYANI|>NOONU|>RAA|>BAA|>LHAVIYANI",
    ">KAAFU|>ALIFU|>VAAVU|>MEEMU|>FAAFU|>DHAALU|>THAA|>LAAMU|>GAAFU|?NAVIYANI|>SEENU|>DAVIYANI|>ZAVIYANI",
    ">TAVIYANI|>YAA|>PAVIYANI|>JAVIYANI|>CHAVIYANI|>TTAA|>HHAA|>KHAA|>THAALU|>ZAA|>SHEENU|?AADHU|>DAADHU",
    ">TO|>ZO|>AINU|>GHAINU|>QAAFU|>WAAVU|7ABAFILI|8ABAAFILI|7IBIFILI|7EEBEEFILI|7UBUFILI|7OOBOOFILI",
    "7EBEFILI|8YBEYFILI|7OBOFILI|8ABOAFILI|7SUKUN|7LETTER NAA"]),
  (0x7c0, ["0NKO DIGIT ZERO|:ONE|:TWO|;HREE|:FOUR|;IVE|:SIX|;EVEN|:EIGHT|:NINE|4LETTER A|;EE|;I|;E|;U|;OO|;O",
    ";DAGBASINNA|;N|;BA|;PA|;TA|;JA|;CHA|;DA|;RA|<RA|;SA|;GBA|;FA|;KA|;LA|;NA WOLOSO|;MA|;NYA|<A|;HA|;WA",
    ";YA|;NYA WOLOSO|;JONA JA|@CHA|@RA|4COMBINING SHORT HIGH TONE|DLOW TONE|DRISING TONE",
    ">LONG DESCENDING TONE|CHIGH TONE|CLOW TONE|CRISING TONE|>NASALIZATION MARK|>DOUBLE DOT ABOVE",
    "4HIGH TONE APOSTROPHE|4LOW TONE APOSTROPHE|4SYMBOL OO DENNEN|;GBAKURUNEN|4COMMA|4EXCLAMATION MARK",
    "4LAJANYALAN|||4DANTAYALAN|5OROME SIGN|4TAMAN SIGN|0SAMARITAN LETTER ALAF|ABIT|AGAMAN|ADALAT|AIY|ABAA",
    "AZEN|AIT|ATIT|AYUT|AKAAF|ALABAT|AMIM|ANUN|ASINGAAT|AIN|AFI|ATSAADIY|AQUF|ARISH|ASHAN|ATAAF|:MARK IN",
    "A-ALAF|?OCCLUSION|?DAGESH|;ODIFIER LETTER EPENTHETIC YUT|;ARK EPENTHETIC YUT|:VOWEL SIGN LONG E|EE",
    "EOVERLONG AA|ELONG AA|EAA|EOVERLONG A|ELONG A|EA|:MODIFIER LETTER SHORT A|:VOWEL SIGN SHORT A",
    "ELONG U|EU|:MODIFIER LETTER I|:VOWEL SIGN LONG I|EI|EO|ESUKUN|:MARK NEQUDAA|||:PUNCTUATION NEQUDAA",
    "FAFSAAQ|GNGED|FBAU|FATMAAU|FSHIYYAALAA|:ABBREVIATION MARK|:PUNCTUATION MELODIC QITSA|FZIQAA|FQITSA",
    "FZAEF|FTURU|FARKAANU|FSOF MASHFAAT|FANNAAU||0MANDAIC LETTER HALQA|?AB|@G|@D|@H|?USHENNA|?AZ|?IT|?ATT",
    "@KSA|@K|@L|@M|@N|@S|?IN|?AP|@SZ|@Q|@R|@SH|@T|?DUSHENNA|?KAD|?AIN|8AFFRICATION MARK",
    "8VOCALIZATION MARK|8GEMINATION MARK|||8PUNCTUATION||0SYRIAC LETTER MALAYALAM NGA|HJA|HNYA|HTTA|HNNA",
    "JNA|HBHA|HRA|HLLA|JLA|HSSA||||||0ARABIC LETTER ALEF WITH ATTACHED FATHA|QTOP RIGHT FATHA",
    "HRIGHT MIDDLE STROKE|HLEFT MIDDLE STROKE|HATTACHED KASRA|QBOTTOM RIGHT KASRA|QROUND DOT ABOVE",
    "RIGHT ROUND DOT|QLEFT ROUND DOT|QROUND DOT BELOW|HDOT ABOVE|HATTACHED TOP RIGHT FATHA AND DOT ABOVE",
    "HRIGHT MIDDLE STROKE AND DOT ABOVE|HATTACHED BOTTOM RIGHT KASRA AND DOT ABOVE",
    "QTOP RIGHT FATHA AND LEFT RING|HRIGHT MIDDLE STROKE AND LEFT RING",
    "HATTACHED BOTTOM RIGHT KASRA AND LEFT RING|QRIGHT HAMZA|QLEFT HAMZA|7TATWEEL WITH OVERSTRUCK HAMZA",
    "OWAW|DTWO DOTS BELOW|7LETTER THIN YEH|7BASELINE ROUND DOT|7RAISED ROUND DOT",
    "7LETTER NOON WITH INVERTED SMALL V|>HAH WITH INVERTED SMALL V BELOW|>TAH WITH DOT BELOW",
    "GTHREE DOTS BELOW|>KEHEH WITH TWO DOTS VERTICALLY BELOW|7VERTICAL TAIL||7POUND MARK ABOVE",
    "8IASTRE MARK ABOVE|||||||7SMALL HIGH WORD AL-JUZ|=LOW WORD ISHMAAM|GMAALA|FTASHEEL|7MADDA WAAJIB",
    "7SUPERSCRIPT ALEF MOKHASSAS|7DOUBLED MADDA|7HALF MADDA OVER MADDA|7LETTER BEH WITH SMALL V BELOW",
    "GHAMZA ABOVE|>JEEM WITH TWO DOTS ABOVE|>TAH WITH TWO DOTS ABOVE",
    ">FEH WITH DOT BELOW AND THREE DOTS ABOVE|>QAF WITH DOT BELOW|>LAM WITH DOUBLE BAR",
    ">MEEM WITH THREE DOTS ABOVE|>YEH WITH TWO DOTS BELOW AND HAMZA ABOVE|ZDOT ABOVE|>REH WITH LOOP",
    ">WAW WITH DOT WITHIN|>ROHINGYA YEH|>LOW ALEF|>DAL WITH THREE DOTS BELOW|>SAD WITH THREE DOTS BELOW",
    ">GAF WITH INVERTED STROKE|>STRAIGHT WAW|>ZAIN WITH INVERTED V ABOVE|>AIN WITH THREE DOTS BELOW",
    ">KAF WITH DOT BELOW|>QAF WITH DOT BELOW AND NO DOTS ABOVE|>BEH WITH SMALL MEEM ABOVE",
    ">PEH WITH SMALL MEEM ABOVE|>TEH WITH SMALL TEH ABOVE|>REH WITH SMALL NOON ABOVE",
    ">YEH WITH TWO DOTS BELOW AND SMALL NOON ABOVE|>AFRICAN FEH|FQAF|FNOON|>PEH WITH SMALL V",
    ">TEH WITH SMALL V|?TEH WITH SMALL V|?CHEH WITH SMALL V|>KEHEH WITH SMALL V",
    ">GHAIN WITH THREE DOTS ABOVE|>AFRICAN QAF WITH THREE DOTS ABOVE|>JEEM WITH THREE DOTS ABOVE|SBELOW",
    ">LAM WITH SMALL ARABIC LETTER TAH ABOVE|>GRAF|7SMALL FARSI YEH|=HIGH FARSI YEH",
    "BYEH BARREE WITH TWO DOTS BELOW|BWORD SAH|BZAH|7LARGE ROUND DOT ABOVE|GBELOW|7SUKUN BELOW",
    "7LARGE CIRCLE BELOW|=ROUND DOT INSIDE CIRCLE BELOW|7SMALL LOW WAW|=HIGH WORD AR-RUB|BSAD|BAIN|BQAF",
    "BNOON WITH KASRA|=LOW NOON WITH KASRA|=HIGH WORD ATH-THALATHA|HS-SAJDA|HN-NISF|GSAKTA|GQIF|GWAQFA",
    "BFOOTNOTE MARKER|BSIGN SAFHA|7DISPUTED END OF AYAH|7TURNED DAMMA BELOW|7CURLY FATHA|=DAMMA|=KASRA",
    "=FATHATAN|=DAMMATAN|=KASRATAN|7TONE ONE DOT ABOVE|<TWO DOTS ABOVE|<LOOP ABOVE|<ONE DOT BELOW",
    "<TWO DOTS BELOW|<LOOP BELOW|7OPEN FATHATAN|<DAMMATAN|<KASRATAN|7SMALL HIGH WAW|7FATHA WITH RING",
    "BDOT ABOVE|7KASRA WITH DOT BELOW|7LEFT ARROWHEAD ABOVE|7RIGHT ARROWHEAD ABOVE|7LEFT ARROWHEAD BELOW",
    "7RIGHT ARROWHEAD BELOW|7DOUBLE RIGHT ARROWHEAD ABOVE|S WITH DOT|7RIGHT ARROWHEAD ABOVE WITH DOT",
    "7DAMMA WITH DOT|7MARK SIDEWAYS NOON GHUNNA"])]

end AccessorForge.Text.CharName.Alphabets

/-! Names of characters: punctuation, arrows, mathematical and technical signs. -/
namespace AccessorForge.Text.CharName.Punctuation

def runs : List (Nat × List String) := [
  (0x2000, ["0EN QUAD|1M QUAD|1N SPACE|1M SPACE|0THREE-PER-EM SPACE|0FOUR-PER-EM SPACE|0SIX-PER-EM SPACE",
    "0FIGURE SPACE|0PUNCTUATION SPACE|0THIN SPACE|0HAIR SPACE|0ZERO WIDTH SPACE|;NON-JOINER|;JOINER",
    "0LEFT-TO-RIGHT MARK|0RIGHT-TO-LEFT MARK|0HYPHEN|0NON-BREAKING HYPHEN|0FIGURE DASH|0EN DASH|1M DASH",
    "0HORIZONTAL BAR|0DOUBLE VERTICAL LINE|7LOW LINE|0LEFT SINGLE QUOTATION MARK",
    "0RIGHT SINGLE QUOTATION MARK|0SINGLE LOW-9 QUOTATION MARK|7HIGH-REVERSED-9 QUOTATION MARK",
    "0LEFT DOUBLE QUOTATION MARK|0RIGHT DOUBLE QUOTATION MARK|0DOUBLE LOW-9 QUOTATION MARK",
    "7HIGH-REVERSED-9 QUOTATION MARK|1AGGER|1OUBLE DAGGER|0BULLET|0TRIANGULAR BULLET|0ONE DOT LEADER",
    "0TWO DOT LEADER|0HORIZONTAL ELLIPSIS|1YPHENATION POINT|0LINE SEPARATOR|0PARAGRAPH SEPARATOR",
    "0LEFT-TO-RIGHT EMBEDDING|0RIGHT-TO-LEFT EMBEDDING|0POP DIRECTIONAL FORMATTING",
    "0LEFT-TO-RIGHT OVERRIDE|0RIGHT-TO-LEFT OVERRIDE|0NARROW NO-BREAK SPACE|0PER MILLE SIGN",
    "4TEN THOUSAND SIGN|1RIME|0DOUBLE PRIME|0TRIPLE PRIME|0REVERSED PRIME|9DOUBLE PRIME|9TRIPLE PRIME",
    "0CARET|0SINGLE LEFT-POINTING ANGLE QUOTATION MARK|7RIGHT-POINTING ANGLE QUOTATION MARK",
    "0REFERENCE MARK|0DOUBLE EXCLAMATION MARK|0INTERROBANG|0OVERLINE|0UNDERTIE|0CHARACTER TIE",
    "1ARET INSERTION POINT|0ASTERISM|0HYPHEN BULLET|0FRACTION SLASH|0LEFT SQUARE BRACKET WITH QUILL",
    "0RIGHT SQUARE BRACKET WITH QUILL|0DOUBLE QUESTION MARK|0QUESTION EXCLAMATION MARK",
    "0EXCLAMATION QUESTION MARK|0TIRONIAN SIGN ET|0REVERSED PILCROW SIGN|0BLACK LEFTWARDS BULLET",
    "6RIGHTWARDS BULLET|0LOW ASTERISK|0REVERSED SEMICOLON|0CLOSE UP|0TWO ASTERISKS ALIGNED VERTICALLY",
    "0COMMERCIAL MINUS SIGN|0SWUNG DASH|0INVERTED UNDERTIE|0FLOWER PUNCTUATION MARK",
    "0THREE DOT PUNCTUATION|0QUADRUPLE PRIME|0FOUR DOT PUNCTUATION|1IVE DOT PUNCTUATION",
    "0TWO DOT PUNCTUATION|0FOUR DOT MARK|0DOTTED CROSS|0TRICOLON|0VERTICAL FOUR DOTS",
    "0MEDIUM MATHEMATICAL SPACE|0WORD JOINER|0FUNCTION APPLICATION|0INVISIBLE TIMES|:SEPARATOR|:PLUS|",
    "0LEFT-TO-RIGHT ISOLATE|0RIGHT-TO-LEFT ISOLATE|0FIRST STRONG ISOLATE|0POP DIRECTIONAL ISOLATE",
    "0INHIBIT SYMMETRIC SWAPPING|0ACTIVATE SYMMETRIC SWAPPING|0INHIBIT ARABIC FORM SHAPING",
    "0ACTIVATE ARABIC FORM SHAPING|0NATIONAL DIGIT SHAPES|1OMINAL DIGIT SHAPES|0SUPERSCRIPT ZERO",
    "<LATIN SMALL LETTER I|||<FOUR|=IVE|<SIX|=EVEN|<EIGHT|<NINE|<PLUS SIGN|<MINUS|<EQUALS SIGN",
    "<LEFT PARENTHESIS|<RIGHT PARENTHESIS|<LATIN SMALL LETTER N|2BSCRIPT ZERO|:ONE|:TWO|;HREE|:FOUR|;IVE",
    ":SIX|;EVEN|:EIGHT|:NINE|:PLUS SIGN|:MINUS|:EQUALS SIGN|:LEFT PARENTHESIS|:RIGHT PARENTHESIS|",
    "0LATIN SUBSCRIPT SMALL LETTER A|ME|MO|MX|MSCHWA|MH|MK|ML|MM|MN|MP|MS|MT||||0EURO-CURRENCY SIGN",
    "0COLON SIGN|1RUZEIRO SIGN|0FRENCH FRANC SIGN|0LIRA SIGN|0MILL SIGN|0NAIRA SIGN|0PESETA SIGN",
    "0RUPEE SIGN|0WON SIGN|0NEW SHEQEL SIGN|0DONG SIGN|0EURO SIGN|0KIP SIGN|0TUGRIK SIGN|0DRACHMA SIGN",
    "0GERMAN PENNY SIGN|0PESO SIGN|0GUARANI SIGN|0AUSTRAL SIGN|0HRYVNIA SIGN|0CEDI SIGN",
    "0LIVRE TOURNOIS SIGN|0SPESMILO SIGN|0TENGE SIGN|0INDIAN RUPEE SIGN|0TURKISH LIRA SIGN",
    "0NORDIC MARK SIGN|0MANAT SIGN|0RUBLE SIGN|0LARI SIGN|0BITCOIN SIGN|0SOM SIGN"]),
  (0x20d0, ["0COMBINING LEFT HARPOON ABOVE|:RIGHT HARPOON ABOVE|:LONG VERTICAL LINE OVERLAY",
    ":SHORT VERTICAL LINE OVERLAY|:ANTICLOCKWISE ARROW ABOVE|:CLOCKWISE ARROW ABOVE|:LEFT ARROW ABOVE",
    ":RIGHT ARROW ABOVE|<NG OVERLAY|:CLOCKWISE RING OVERLAY|:ANTICLOCKWISE RING OVERLAY|:THREE DOTS ABOVE",
    ":FOUR DOTS ABOVE|:ENCLOSING CIRCLE|DSQUARE|DDIAMOND|DCIRCLE BACKSLASH|:LEFT RIGHT ARROW ABOVE",
    ":ENCLOSING SCREEN|DKEYCAP|DUPWARD POINTING TRIANGLE|:REVERSE SOLIDUS OVERLAY",
    ":DOUBLE VERTICAL STROKE OVERLAY|:ANNUITY SYMBOL|:TRIPLE UNDERDOT|:WIDE BRIDGE ABOVE",
    ":LEFTWARDS ARROW OVERLAY|;ONG DOUBLE SOLIDUS OVERLAY|:RIGHTWARDS HARPOON WITH BARB DOWNWARDS",
    ":LEFTWARDS HARPOON WITH BARB DOWNWARDS|> ARROW BELOW|:RIGHT ARROW BELOW|:ASTERISK ABOVE"]),
  (0x2100, ["0ACCOUNT OF|1DDRESSED TO THE SUBJECT|0DOUBLE-STRUCK CAPITAL C|1EGREE CELSIUS|0CENTRE LINE SYMBOL",
    "1ARE OF|2DA UNA|0EULER CONSTANT|0SCRUPLE|0DEGREE FAHRENHEIT|0SCRIPT SMALL G|7CAPITAL H",
    "0BLACK-LETTER CAPITAL H|0DOUBLE-STRUCK CAPITAL H|0PLANCK CONSTANT|? OVER TWO PI|0SCRIPT CAPITAL I",
    "0BLACK-LETTER CAPITAL I|0SCRIPT CAPITAL L|7SMALL L|0L B BAR SYMBOL|0DOUBLE-STRUCK CAPITAL N",
    "0NUMERO SIGN|0SOUND RECORDING COPYRIGHT|1CRIPT CAPITAL P|0DOUBLE-STRUCK CAPITAL P|FQ",
    "0SCRIPT CAPITAL R|0BLACK-LETTER CAPITAL R|0DOUBLE-STRUCK CAPITAL R|0PRESCRIPTION TAKE|0RESPONSE",
    "0SERVICE MARK|0TELEPHONE SIGN|1RADE MARK SIGN|0VERSICLE|0DOUBLE-STRUCK CAPITAL Z|0OUNCE SIGN",
    "1HM SIGN|0INVERTED OHM SIGN|0BLACK-LETTER CAPITAL Z|0TURNED GREEK SMALL LETTER IOTA|0KELVIN SIGN",
    "0ANGSTROM SIGN|0SCRIPT CAPITAL B|0BLACK-LETTER CAPITAL C|0ESTIMATED SYMBOL|0SCRIPT SMALL E",
    "7CAPITAL E|?F|0TURNED CAPITAL F|0SCRIPT CAPITAL M|7SMALL O|0ALEF SYMBOL|0BET SYMBOL|0GIMEL SYMBOL",
    "0DALET SYMBOL|0INFORMATION SOURCE|0ROTATED CAPITAL Q|0FACSIMILE SIGN|0DOUBLE-STRUCK SMALL PI|DGAMMA",
    ">CAPITAL GAMMA|FPI|>N-ARY SUMMATION|0TURNED SANS-SERIF CAPITAL G|JL|0REVERSED SANS-SERIF CAPITAL L",
    "0TURNED SANS-SERIF CAPITAL Y|0DOUBLE-STRUCK ITALIC CAPITAL D|ESMALL D|KE|KI|KJ|0PROPERTY LINE",
    "0TURNED AMPERSAND|0PER SIGN|0AKTIESELSKAB|0TURNED SMALL F|0SYMBOL FOR SAMARITAN SOURCE",
    "0VULGAR FRACTION ONE SEVENTH|DNINTH|DTENTH|EHIRD|@TWO THIRDS|@ONE FIFTH|@TWO FIFTHS|AHREE FIFTHS",
    "@FOUR FIFTHS|@ONE SIXTH|@FIVE SIXTHS|@ONE EIGHTH|@THREE EIGHTHS|@FIVE EIGHTHS|@SEVEN EIGHTHS",
    "0FRACTION NUMERATOR ONE|0ROMAN NUMERAL ONE|>TWO|?HREE|>FOUR|?IVE|>SIX|?EVEN|>EIGHT|>NINE|>TEN",
    ">ELEVEN|>TWELVE|>FIFTY|>ONE HUNDRED|>FIVE HUNDRED|>ONE THOUSAND|0SMALL ROMAN NUMERAL ONE|DTWO|EHREE",
    "DFOUR|EIVE|DSIX|EEVEN|DEIGHT|DNINE|DTEN|DELEVEN|DTWELVE|DFIFTY|DONE HUNDRED|DFIVE HUNDRED",
    "DONE THOUSAND|0ROMAN NUMERAL ONE THOUSAND C D|>FIVE THOUSAND|>TEN THOUSAND|>REVERSED ONE HUNDRED",
    "0LATIN SMALL LETTER REVERSED C|0ROMAN NUMERAL SIX LATE FORM|>FIFTY EARLY FORM|DTHOUSAND",
    ">ONE HUNDRED THOUSAND|0VULGAR FRACTION ZERO THIRDS|0TURNED DIGIT TWO|>HREE|||||0LEFTWARDS ARROW",
    "0UPWARDS ARROW|0RIGHTWARDS ARROW|0DOWNWARDS ARROW|0LEFT RIGHT ARROW|0UP DOWN ARROW|0NORTH WEST ARROW",
    "6EAST ARROW|0SOUTH EAST ARROW|6WEST ARROW|0LEFTWARDS ARROW WITH STROKE|0RIGHTWARDS ARROW WITH STROKE",
    "0LEFTWARDS WAVE ARROW|0RIGHTWARDS WAVE ARROW|0LEFTWARDS TWO HEADED ARROW|0UPWARDS TWO HEADED ARROW",
    "0RIGHTWARDS TWO HEADED ARROW|0DOWNWARDS TWO HEADED ARROW|0LEFTWARDS ARROW WITH TAIL",
    "0RIGHTWARDS ARROW WITH TAIL|0LEFTWARDS ARROW FROM BAR|0UPWARDS ARROW FROM BAR",
    "0RIGHTWARDS ARROW FROM BAR|0DOWNWARDS ARROW FROM BAR|0UP DOWN ARROW WITH BASE",
    "0LEFTWARDS ARROW WITH HOOK|0RIGHTWARDS ARROW WITH HOOK|0LEFTWARDS ARROW WITH LOOP",
    "0RIGHTWARDS ARROW WITH LOOP|0LEFT RIGHT WAVE ARROW|;ARROW WITH STROKE|0DOWNWARDS ZIGZAG ARROW",
    "0UPWARDS ARROW WITH TIP LEFTWARDS|GRIGHTWARDS|0DOWNWARDS ARROW WITH TIP LEFTWARDS|IRIGHTWARDS",
    "0RIGHTWARDS ARROW WITH CORNER DOWNWARDS|0DOWNWARDS ARROW WITH CORNER LEFTWARDS",
    "0ANTICLOCKWISE TOP SEMICIRCLE ARROW|0CLOCKWISE TOP SEMICIRCLE ARROW|0NORTH WEST ARROW TO LONG BAR",
    "0LEFTWARDS ARROW TO BAR OVER RIGHTWARDS ARROW TO BAR|0ANTICLOCKWISE OPEN CIRCLE ARROW",
    "0CLOCKWISE OPEN CIRCLE ARROW|0LEFTWARDS HARPOON WITH BARB UPWARDS|LDOWNWARDS",
    "0UPWARDS HARPOON WITH BARB RIGHTWARDS|JLEFTWARDS|0RIGHTWARDS HARPOON WITH BARB UPWARDS|MDOWNWARDS",
    "0DOWNWARDS HARPOON WITH BARB RIGHTWARDS|LLEFTWARDS|0RIGHTWARDS ARROW OVER LEFTWARDS ARROW",
    "0UPWARDS ARROW LEFTWARDS OF DOWNWARDS ARROW|0LEFTWARDS ARROW OVER RIGHTWARDS ARROW|:PAIRED ARROWS",
    "0UPWARDS PAIRED ARROWS|0RIGHTWARDS PAIRED ARROWS|0DOWNWARDS PAIRED ARROWS",
    "0LEFTWARDS HARPOON OVER RIGHTWARDS HARPOON|0RIGHTWARDS HARPOON OVER LEFTWARDS HARPOON",
    "0LEFTWARDS DOUBLE ARROW WITH STROKE|4 RIGHT DOUBLE ARROW WITH STROKE",
    "0RIGHTWARDS DOUBLE ARROW WITH STROKE|0LEFTWARDS DOUBLE ARROW|0UPWARDS DOUBLE ARROW",
    "0RIGHTWARDS DOUBLE ARROW|0DOWNWARDS DOUBLE ARROW|0LEFT RIGHT DOUBLE ARROW|0UP DOWN DOUBLE ARROW",
    "0NORTH WEST DOUBLE ARROW|6EAST DOUBLE ARROW|0SOUTH EAST DOUBLE ARROW|6WEST DOUBLE ARROW",
    "0LEFTWARDS TRIPLE ARROW|0RIGHTWARDS TRIPLE ARROW|0LEFTWARDS SQUIGGLE ARROW",
    "0RIGHTWARDS SQUIGGLE ARROW|0UPWARDS ARROW WITH DOUBLE STROKE|0DOWNWARDS ARROW WITH DOUBLE STROKE",
    "0LEFTWARDS DASHED ARROW|0UPWARDS DASHED ARROW|0RIGHTWARDS DASHED ARROW|0DOWNWARDS DASHED ARROW",
    "0LEFTWARDS ARROW TO BAR|0RIGHTWARDS ARROW TO BAR|0LEFTWARDS WHITE ARROW|0UPWARDS WHITE ARROW",
    "0RIGHTWARDS WHITE ARROW|0DOWNWARDS WHITE ARROW|0UPWARDS WHITE ARROW FROM BAR|DON PEDESTAL",
    "O WITH HORIZONTAL BAR|UVERTICAL BAR|>DOUBLE ARROW|J ON PEDESTAL|0RIGHTWARDS WHITE ARROW FROM WALL",
    "0NORTH WEST ARROW TO CORNER|0SOUTH EAST ARROW TO CORNER|0UP DOWN WHITE ARROW",
    "0RIGHT ARROW WITH SMALL CIRCLE|0DOWNWARDS ARROW LEFTWARDS OF UPWARDS ARROW|0THREE RIGHTWARDS ARROWS",
    "0LEFTWARDS ARROW WITH VERTICAL STROKE|0RIGHTWARDS ARROW WITH VERTICAL STROKE",
    "0LEFT RIGHT ARROW WITH VERTICAL STROKE|4WARDS ARROW WITH DOUBLE VERTICAL STROKE",
    "0RIGHTWARDS ARROW WITH DOUBLE VERTICAL STROKE|0LEFT RIGHT ARROW WITH DOUBLE VERTICAL STROKE",
    "4WARDS OPEN-HEADED ARROW|0RIGHTWARDS OPEN-HEADED ARROW|0LEFT RIGHT OPEN-HEADED ARROW|0FOR ALL",
    "0COMPLEMENT|0PARTIAL DIFFERENTIAL|0THERE EXISTS|6DOES NOT EXIST|0EMPTY SET|0INCREMENT|0NABLA",
    "0ELEMENT OF|0NOT AN ELEMENT OF|0SMALL ELEMENT OF|0CONTAINS AS MEMBER|0DOES NOT CONTAIN AS MEMBER",
    "0SMALL CONTAINS AS MEMBER|0END OF PROOF|0N-ARY PRODUCT|6COPRODUCT|6SUMMATION|0MINUS SIGN",
    "5-OR-PLUS SIGN|0DOT PLUS|1IVISION SLASH|0SET MINUS|0ASTERISK OPERATOR|0RING OPERATOR",
    "0BULLET OPERATOR|0SQUARE ROOT|0CUBE ROOT|0FOURTH ROOT|0PROPORTIONAL TO|0INFINITY|0RIGHT ANGLE|0ANGLE",
    "0MEASURED ANGLE|0SPHERICAL ANGLE|0DIVIDES|1OES NOT DIVIDE|0PARALLEL TO|0NOT PARALLEL TO|0LOGICAL AND",
    "8OR|0INTERSECTION|0UNION|0INTEGRAL|0DOUBLE INTEGRAL|0TRIPLE INTEGRAL|0CONTOUR INTEGRAL",
    "0SURFACE INTEGRAL|0VOLUME INTEGRAL|0CLOCKWISE INTEGRAL|:CONTOUR INTEGRAL",
    "0ANTICLOCKWISE CONTOUR INTEGRAL|0THEREFORE|0BECAUSE|0RATIO|0PROPORTION|0DOT MINUS|0EXCESS",
    "0GEOMETRIC PROPORTION|0HOMOTHETIC|0TILDE OPERATOR|0REVERSED TILDE|0INVERTED LAZY S|0SINE WAVE",
    "0WREATH PRODUCT|0NOT TILDE|0MINUS TILDE|0ASYMPTOTICALLY EQUAL TO|0NOT ASYMPTOTICALLY EQUAL TO",
    "0APPROXIMATELY EQUAL TO|>BUT NOT ACTUALLY EQUAL TO|0NEITHER APPROXIMATELY NOR ACTUALLY EQUAL TO",
    "0ALMOST EQUAL TO|0NOT ALMOST EQUAL TO|0ALMOST EQUAL OR EQUAL TO|0TRIPLE TILDE|0ALL EQUAL TO",
    "0EQUIVALENT TO|0GEOMETRICALLY EQUIVALENT TO|0DIFFERENCE BETWEEN|0APPROACHES THE LIMIT",
    "0GEOMETRICALLY EQUAL TO|0APPROXIMATELY EQUAL TO OR THE IMAGE OF|0IMAGE OF OR APPROXIMATELY EQUAL TO",
    "0COLON EQUALS|0EQUALS COLON|0RING IN EQUAL TO|5EQUAL TO|0CORRESPONDS TO|0ESTIMATES|1QUIANGULAR TO",
    "0STAR EQUALS|0DELTA EQUAL TO|0EQUAL TO BY DEFINITION|0MEASURED BY|0QUESTIONED EQUAL TO|0NOT EQUAL TO",
    "0IDENTICAL TO|0NOT IDENTICAL TO|0STRICTLY EQUIVALENT TO|0LESS-THAN OR EQUAL TO",
    "0GREATER-THAN OR EQUAL TO|0LESS-THAN OVER EQUAL TO|0GREATER-THAN OVER EQUAL TO",
    "0LESS-THAN BUT NOT EQUAL TO|0GREATER-THAN BUT NOT EQUAL TO|0MUCH LESS-THAN|5GREATER-THAN|0BETWEEN",
    "0NOT EQUIVALENT TO|4LESS-THAN|4GREATER-THAN|1EITHER LESS-THAN NOR EQUAL TO",
    "8GREATER-THAN NOR EQUAL TO|0LESS-THAN OR EQUIVALENT TO|0GREATER-THAN OR EQUIVALENT TO",
    "0NEITHER LESS-THAN NOR EQUIVALENT TO|8GREATER-THAN NOR EQUIVALENT TO|0LESS-THAN OR GREATER-THAN",
    "0GREATER-THAN OR LESS-THAN|0NEITHER LESS-THAN NOR GREATER-THAN|8GREATER-THAN NOR LESS-THAN|0PRECEDES",
    "0SUCCEEDS|0PRECEDES OR EQUAL TO|0SUCCEEDS OR EQUAL TO|0PRECEDES OR EQUIVALENT TO",
    "0SUCCEEDS OR EQUIVALENT TO|0DOES NOT PRECEDE|9SUCCEED|0SUBSET OF|2PERSET OF|0NOT A SUBSET OF",
    "8PERSET OF|0SUBSET OF OR EQUAL TO|2PERSET OF OR EQUAL TO|0NEITHER A SUBSET OF NOR EQUAL TO",
    "<PERSET OF NOR EQUAL TO|0SUBSET OF WITH NOT EQUAL TO|2PERSET OF WITH NOT EQUAL TO|0MULTISET",
    "8 MULTIPLICATION|9UNION|0SQUARE IMAGE OF|7ORIGINAL OF|7IMAGE OF OR EQUAL TO|7ORIGINAL OF OR EQUAL TO",
    "7CAP|8UP|0CIRCLED PLUS|8MINUS|8TIMES|8DIVISION SLASH|9OT OPERATOR|8RING OPERATOR|8ASTERISK OPERATOR",
    "8EQUALS|8DASH|0SQUARED PLUS|8MINUS|8TIMES|8DOT OPERATOR|0RIGHT TACK|0LEFT TACK|0DOWN TACK|0UP TACK",
    "0ASSERTION|0MODELS|0TRUE|0FORCES|0TRIPLE VERTICAL BAR RIGHT TURNSTILE",
    "0DOUBLE VERTICAL BAR DOUBLE RIGHT TURNSTILE|2ES NOT PROVE|0NOT TRUE|0DOES NOT FORCE",
    "0NEGATED DOUBLE VERTICAL BAR DOUBLE RIGHT TURNSTILE|0PRECEDES UNDER RELATION",
    "0SUCCEEDS UNDER RELATION|0NORMAL SUBGROUP OF|0CONTAINS AS NORMAL SUBGROUP",
    "0NORMAL SUBGROUP OF OR EQUAL TO|0CONTAINS AS NORMAL SUBGROUP OR EQUAL TO|0ORIGINAL OF|0IMAGE OF",
    "0MULTIMAP|0HERMITIAN CONJUGATE MATRIX|0INTERCALATE|0XOR|0NAND|1OR|0RIGHT ANGLE WITH ARC|6TRIANGLE",
    "0N-ARY LOGICAL AND|>OR|6INTERSECTION|6UNION|0DIAMOND OPERATOR|1OT OPERATOR|0STAR OPERATOR",
    "0DIVISION TIMES|0BOWTIE|0LEFT NORMAL FACTOR SEMIDIRECT PRODUCT",
    "0RIGHT NORMAL FACTOR SEMIDIRECT PRODUCT|0LEFT SEMIDIRECT PRODUCT|0RIGHT SEMIDIRECT PRODUCT",
    "1EVERSED TILDE EQUALS|0CURLY LOGICAL OR|>AND|0DOUBLE SUBSET|9PERSET|7INTERSECTION|7UNION|0PITCHFORK",
    "0EQUAL AND PARALLEL TO|0LESS-THAN WITH DOT|0GREATER-THAN WITH DOT|0VERY MUCH LESS-THAN|:GREATER-THAN",
    "0LESS-THAN EQUAL TO OR GREATER-THAN|0GREATER-THAN EQUAL TO OR LESS-THAN|0EQUAL TO OR LESS-THAN",
    "<GREATER-THAN|<PRECEDES|<SUCCEEDS|0DOES NOT PRECEDE OR EQUAL|9SUCCEED OR EQUAL",
    "0NOT SQUARE IMAGE OF OR EQUAL TO|;ORIGINAL OF OR EQUAL TO|0SQUARE IMAGE OF OR NOT EQUAL TO",
    "7ORIGINAL OF OR NOT EQUAL TO|0LESS-THAN BUT NOT EQUIVALENT TO|0GREATER-THAN BUT NOT EQUIVALENT TO",
    "0PRECEDES BUT NOT EQUIVALENT TO|0SUCCEEDS BUT NOT EQUIVALENT TO|0NOT NORMAL SUBGROUP OF",
    "0DOES NOT CONTAIN AS NORMAL SUBGROUP|0NOT NORMAL SUBGROUP OF OR EQUAL TO",
    "0DOES NOT CONTAIN AS NORMAL SUBGROUP OR EQUAL|0VERTICAL ELLIPSIS|0MIDLINE HORIZONTAL ELLIPSIS",
    "0UP RIGHT DIAGONAL ELLIPSIS|0DOWN RIGHT DIAGONAL ELLIPSIS|0ELEMENT OF WITH LONG HORIZONTAL STROKE",
    "@VERTICAL BAR AT END OF HORIZONTAL STROKE",
    "0SMALL ELEMENT OF WITH VERTICAL BAR AT END OF HORIZONTAL STROKE|0ELEMENT OF WITH DOT ABOVE|@OVERBAR",
    "0SMALL ELEMENT OF WITH OVERBAR|0ELEMENT OF WITH UNDERBAR|@TWO HORIZONTAL STROKES",
    "0CONTAINS WITH LONG HORIZONTAL STROKE|>VERTICAL BAR AT END OF HORIZONTAL STROKE",
    "0SMALL CONTAINS WITH VERTICAL BAR AT END OF HORIZONTAL STROKE|0CONTAINS WITH OVERBAR",
    "0SMALL CONTAINS WITH OVERBAR|0Z NOTATION BAG MEMBERSHIP|0DIAMETER SIGN|0ELECTRIC ARROW|0HOUSE",
    "0UP ARROWHEAD|0DOWN ARROWHEAD|0PROJECTIVE|1ERSPECTIVE|0WAVY LINE|0LEFT CEILING|0RIGHT CEILING",
    "0LEFT FLOOR|0RIGHT FLOOR|0BOTTOM RIGHT CROP|7LEFT CROP|0TOP RIGHT CROP|4LEFT CROP|0REVERSED NOT SIGN",
    "0SQUARE LOZENGE|0ARC|0SEGMENT|2CTOR|0TELEPHONE RECORDER|0POSITION INDICATOR|0VIEWDATA SQUARE",
    "0PLACE OF INTEREST SIGN|0TURNED NOT SIGN|0WATCH|0HOURGLASS|0TOP LEFT CORNER|4RIGHT CORNER",
    "0BOTTOM LEFT CORNER|7RIGHT CORNER|0TOP HALF INTEGRAL|0BOTTOM HALF INTEGRAL|0FROWN|0SMILE",
    "0UP ARROWHEAD BETWEEN TWO HORIZONTAL BARS|0OPTION KEY|0ERASE TO THE RIGHT|0X IN A RECTANGLE BOX",
    "0KEYBOARD|0LEFT-POINTING ANGLE BRACKET|0RIGHT-POINTING ANGLE BRACKET|0ERASE TO THE LEFT",
    "0BENZENE RING|0CYLINDRICITY|0ALL AROUND-PROFILE|0SYMMETRY|0TOTAL RUNOUT|0DIMENSION ORIGIN",
    "0CONICAL TAPER|0SLOPE|0COUNTERBORE|7SINK|0APL FUNCTIONAL SYMBOL I-BEAM|FSQUISH QUAD|FQUAD EQUAL",
    "KDIVIDE|MAMOND|KJOT|KCIRCLE|FCIRCLE STILE|MJOT|FSLASH BAR|FBACKSLASH BAR|FQUAD SLASH|KBACKSLASH",
    "KLESS-THAN|KGREATER-THAN|FLEFTWARDS VANE|FRIGHTWARDS VANE|FQUAD LEFTWARDS ARROW|KRIGHTWARDS ARROW",
    "FCIRCLE BACKSLASH|FDOWN TACK UNDERBAR|GELTA STILE|FQUAD DOWN CARET|LELTA|FDOWN TACK JOT",
    "FUPWARDS VANE|FQUAD UPWARDS ARROW|FUP TACK OVERBAR|FDEL STILE|FQUAD UP CARET|KDEL|FUP TACK JOT",
    "FDOWNWARDS VANE|FQUAD DOWNWARDS ARROW|HOTE UNDERBAR|FDELTA UNDERBAR|GIAMOND UNDERBAR|FJOT UNDERBAR",
    "FCIRCLE UNDERBAR|FUP SHOE JOT|FQUOTE QUAD|FCIRCLE STAR|FQUAD COLON|FUP TACK DIAERESIS|FDEL DIAERESIS",
    "FSTAR DIAERESIS|FJOT DIAERESIS|FCIRCLE DIAERESIS|FDOWN SHOE STILE|FLEFT SHOE STILE|FTILDE DIAERESIS",
    "FGREATER-THAN DIAERESIS|FCOMMA BAR|FDEL TILDE|FZILDE|FSTILE TILDE|GEMICOLON UNDERBAR|FQUAD NOT EQUAL",
    "KQUESTION|FDOWN CARET TILDE|FUP CARET TILDE|FIOTA|FRHO|FOMEGA|FALPHA UNDERBAR|FEPSILON UNDERBAR",
    "FIOTA UNDERBAR|FOMEGA UNDERBAR|FALPHA|0NOT CHECK MARK|0RIGHT ANGLE WITH DOWNWARDS ZIGZAG ARROW",
    "0SHOULDERED OPEN BOX|0BELL SYMBOL|0VERTICAL LINE WITH MIDDLE DOT|0INSERTION SYMBOL",
    "0CONTINUOUS UNDERLINE SYMBOL|0DISCONTINUOUS UNDERLINE SYMBOL|0EMPHASIS SYMBOL|0COMPOSITION SYMBOL",
    "0WHITE SQUARE WITH CENTRE VERTICAL LINE|0ENTER SYMBOL|0ALTERNATIVE KEY SYMBOL|0HELM SYMBOL",
    "0CIRCLED HORIZONTAL BAR WITH NOTCH|8TRIANGLE DOWN|0BROKEN CIRCLE WITH NORTHWEST ARROW|0UNDO SYMBOL",
    "0MONOSTABLE SYMBOL|0HYSTERESIS SYMBOL|0OPEN-CIRCUIT-OUTPUT H-TYPE SYMBOL|DL-TYPE SYMBOL",
    "0PASSIVE-PULL-DOWN-OUTPUT SYMBOL|=UP-OUTPUT SYMBOL|0DIRECT CURRENT SYMBOL FORM TWO",
    "0SOFTWARE-FUNCTION SYMBOL|0APL FUNCTIONAL SYMBOL QUAD|0DECIMAL SEPARATOR KEY SYMBOL|0PREVIOUS PAGE",
    "0NEXT PAGE|0PRINT SCREEN SYMBOL|0CLEAR SCREEN SYMBOL|0LEFT PARENTHESIS UPPER HOOK|AEXTENSION",
    "ALOWER HOOK|0RIGHT PARENTHESIS UPPER HOOK|BEXTENSION|BLOWER HOOK|0LEFT SQUARE BRACKET UPPER CORNER",
    "DEXTENSION|DLOWER CORNER|0RIGHT SQUARE BRACKET UPPER CORNER|EEXTENSION|ELOWER CORNER",
    "0LEFT CURLY BRACKET UPPER HOOK|CMIDDLE PIECE|CLOWER HOOK|0CURLY BRACKET EXTENSION",
    "0RIGHT CURLY BRACKET UPPER HOOK|DMIDDLE PIECE|DLOWER HOOK|0INTEGRAL EXTENSION",
    "0HORIZONTAL LINE EXTENSION|0UPPER LEFT OR LOWER RIGHT CURLY BRACKET SECTION",
    "6RIGHT OR LOWER LEFT CURLY BRACKET SECTION|0SUMMATION TOP|:BOTTOM|0TOP SQUARE BRACKET",
    "0BOTTOM SQUARE BRACKET|E OVER TOP SQUARE BRACKET|0RADICAL SYMBOL BOTTOM|0LEFT VERTICAL BOX LINE",
    "0RIGHT VERTICAL BOX LINE|0HORIZONTAL SCAN LINE-1|E3|E7|E9",
    "0DENTISTRY SYMBOL LIGHT VERTICAL AND TOP RIGHT|TBOTTOM RIGHT|PWITH CIRCLE",
    "GDOWN AND HORIZONTAL WITH CIRCLE|GUP AND HORIZONTAL WITH CIRCLE|GVERTICAL WITH TRIANGLE",
    "GDOWN AND HORIZONTAL WITH TRIANGLE|GUP AND HORIZONTAL WITH TRIANGLE|GVERTICAL AND WAVE",
    "GDOWN AND HORIZONTAL WITH WAVE|GUP AND HORIZONTAL WITH WAVE|GDOWN AND HORIZONTAL|GUP AND HORIZONTAL",
    "GVERTICAL AND TOP LEFT|TBOTTOM LEFT|0SQUARE FOOT|0RETURN SYMBOL|0EJECT SYMBOL",
    "0VERTICAL LINE EXTENSION|0METRICAL BREVE|9LONG OVER SHORT|9SHORT OVER LONG|9LONG OVER TWO SHORTS",
    "9TWO SHORTS OVER LONG|DJOINED|:RISEME|:ETRASEME|9PENTASEME|0EARTH GROUND|0FUSE|0TOP PARENTHESIS",
    "0BOTTOM PARENTHESIS|0TOP CURLY BRACKET|0BOTTOM CURLY BRACKET|0TOP TORTOISE SHELL BRACKET",
    "0BOTTOM TORTOISE SHELL BRACKET|0WHITE TRAPEZIUM|0BENZENE RING WITH CIRCLE|0STRAIGHTNESS|0FLATNESS",
    "0AC CURRENT|0ELECTRICAL INTERSECTION|0DECIMAL EXPONENT SYMBOL|0BLACK RIGHT-POINTING DOUBLE TRIANGLE",
    "6LEFT-POINTING DOUBLE TRIANGLE|6UP-POINTING DOUBLE TRIANGLE|6DOWN-POINTING DOUBLE TRIANGLE",
    "6RIGHT-POINTING DOUBLE TRIANGLE WITH VERTICAL BAR|6LEFT-POINTING DOUBLE TRIANGLE WITH VERTICAL BAR",
    "6RIGHT-POINTING TRIANGLE WITH DOUBLE VERTICAL BAR|0ALARM CLOCK|0STOPWATCH|0TIMER CLOCK",
    "0HOURGLASS WITH FLOWING SAND|0BLACK MEDIUM LEFT-POINTING TRIANGLE|=RIGHT-POINTING TRIANGLE",
    "=UP-POINTING TRIANGLE|=DOWN-POINTING TRIANGLE|0DOUBLE VERTICAL BAR|0BLACK SQUARE FOR STOP",
    "6CIRCLE FOR RECORD|0POWER SYMBOL|6ON-OFF SYMBOL|8 SYMBOL|6SLEEP SYMBOL|0OBSERVER EYE SYMBOL"])]

end AccessorForge.Text.CharName.Punctuation

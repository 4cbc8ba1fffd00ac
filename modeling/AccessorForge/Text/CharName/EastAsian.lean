/-! Names of characters: scripts of Asia and of later additions. -/
namespace AccessorForge.Text.CharName.EastAsian

def runs : List (Nat × List String) := [
  (0x2c00, ["0GLAGOLITIC CAPITAL LETTER AZU|JBUKY|JVEDE|JGLAGOLI|JDOBRO|JYESTU|JZHIVETE|JDZELO|JZEMLJA|JIZHE",
    "KNITIAL IZHE|JI|JDJERVI|JKAKO|JLJUDIJE|JMYSLITE|JNASHI|JONU|JPOKOJI|JRITSI|JSLOVO|JTVRIDO|JUKU",
    "JFRITU|JHERU|JOTU|JPE|JSHTA|JTSI|JCHRIVI|JSHA|JYERU|MI|KATI|JSPIDERY HA|JYU|JSMALL YUS|S WITH TAIL",
    "JYO|JIOTATED SMALL YUS|JBIG YUS|JIOTATED BIG YUS|JFITA|JIZHITSA|JSHTAPIC|JTROKUTASTI A",
    "JLATINATE MYSLITE|JCAUDATE CHRIVI|;SMALL LETTER AZU|HBUKY|HVEDE|HGLAGOLI|HDOBRO|HYESTU|HZHIVETE",
    "HDZELO|HZEMLJA|HIZHE|INITIAL IZHE|HI|HDJERVI|HKAKO|HLJUDIJE|HMYSLITE|HNASHI|HONU|HPOKOJI|HRITSI",
    "HSLOVO|HTVRIDO|HUKU|HFRITU|HHERU|HOTU|HPE|HSHTA|HTSI|HCHRIVI|HSHA|HYERU|KI|IATI|HSPIDERY HA|HYU",
    "HSMALL YUS|Q WITH TAIL|HYO|HIOTATED SMALL YUS|HBIG YUS|HIOTATED BIG YUS|HFITA|HIZHITSA|HSHTAPIC",
    "HTROKUTASTI A|HLATINATE MYSLITE|HCAUDATE CHRIVI|0LATIN CAPITAL LETTER L WITH DOUBLE BAR",
    "6SMALL LETTER L WITH DOUBLE BAR|6CAPITAL LETTER L WITH MIDDLE TILDE|EP WITH STROKE|ER WITH TAIL",
    "6SMALL LETTER A WITH STROKE|CT WITH DIAGONAL STROKE|6CAPITAL LETTER H WITH DESCENDER",
    "6SMALL LETTER H WITH DESCENDER|6CAPITAL LETTER K WITH DESCENDER|6SMALL LETTER K WITH DESCENDER",
    "6CAPITAL LETTER Z WITH DESCENDER|6SMALL LETTER Z WITH DESCENDER|6CAPITAL LETTER ALPHA|EM WITH HOOK",
    "ETURNED A|MLPHA|6SMALL LETTER V WITH RIGHT HOOK|6CAPITAL LETTER W WITH HOOK",
    "6SMALL LETTER W WITH HOOK|CV WITH CURL|6CAPITAL LETTER HALF H|6SMALL LETTER HALF H|CTAILLESS PHI",
    "CE WITH NOTCH|CTURNED R WITH TAIL|CO WITH LOW RING INSIDE|6LETTER SMALL CAPITAL TURNED E",
    "6SUBSCRIPT SMALL LETTER J|0MODIFIER LETTER CAPITAL V|0LATIN CAPITAL LETTER S WITH SWASH TAIL",
    "EZ WITH SWASH TAIL|0COPTIC CAPITAL LETTER ALFA|7SMALL LETTER ALFA|7CAPITAL LETTER VIDA",
    "7SMALL LETTER VIDA|7CAPITAL LETTER GAMMA|7SMALL LETTER GAMMA|7CAPITAL LETTER DALDA",
    "7SMALL LETTER DALDA|7CAPITAL LETTER EIE|7SMALL LETTER EIE|7CAPITAL LETTER SOU|7SMALL LETTER SOU",
    "7CAPITAL LETTER ZATA|7SMALL LETTER ZATA|7CAPITAL LETTER HATE|7SMALL LETTER HATE",
    "7CAPITAL LETTER THETHE|7SMALL LETTER THETHE|7CAPITAL LETTER IAUDA|7SMALL LETTER IAUDA",
    "7CAPITAL LETTER KAPA|7SMALL LETTER KAPA|7CAPITAL LETTER LAULA|7SMALL LETTER LAULA|7CAPITAL LETTER MI",
    "7SMALL LETTER MI|7CAPITAL LETTER NI|7SMALL LETTER NI|7CAPITAL LETTER KSI|7SMALL LETTER KSI",
    "7CAPITAL LETTER O|7SMALL LETTER O|7CAPITAL LETTER PI|7SMALL LETTER PI|7CAPITAL LETTER RO",
    "7SMALL LETTER RO|7CAPITAL LETTER SIMA|7SMALL LETTER SIMA|7CAPITAL LETTER TAU|7SMALL LETTER TAU",
    "7CAPITAL LETTER UA|7SMALL LETTER UA|7CAPITAL LETTER FI|7SMALL LETTER FI|7CAPITAL LETTER KHI",
    "7SMALL LETTER KHI|7CAPITAL LETTER PSI|7SMALL LETTER PSI|7CAPITAL LETTER OOU|7SMALL LETTER OOU",
    "7CAPITAL LETTER DIALECT-P ALEF|7SMALL LETTER DIALECT-P ALEF|7CAPITAL LETTER OLD COPTIC AIN",
    "7SMALL LETTER OLD COPTIC AIN|7CAPITAL LETTER CRYPTOGRAMMIC EIE|7SMALL LETTER CRYPTOGRAMMIC EIE",
    "7CAPITAL LETTER DIALECT-P KAPA|7SMALL LETTER DIALECT-P KAPA|7CAPITAL LETTER DIALECT-P NI",
    "7SMALL LETTER DIALECT-P NI|7CAPITAL LETTER CRYPTOGRAMMIC NI|7SMALL LETTER CRYPTOGRAMMIC NI",
    "7CAPITAL LETTER OLD COPTIC OOU|7SMALL LETTER OLD COPTIC OOU|7CAPITAL LETTER SAMPI",
    "7SMALL LETTER SAMPI|7CAPITAL LETTER CROSSED SHEI|7SMALL LETTER CROSSED SHEI",
    "7CAPITAL LETTER OLD COPTIC SHEI|7SMALL LETTER OLD COPTIC SHEI|7CAPITAL LETTER OLD COPTIC ESH",
    "7SMALL LETTER OLD COPTIC ESH|7CAPITAL LETTER AKHMIMIC KHEI|7SMALL LETTER AKHMIMIC KHEI",
    "7CAPITAL LETTER DIALECT-P HORI|7SMALL LETTER DIALECT-P HORI|7CAPITAL LETTER OLD COPTIC HORI",
    "7SMALL LETTER OLD COPTIC HORI|7CAPITAL LETTER OLD COPTIC HA|7SMALL LETTER OLD COPTIC HA",
    "7CAPITAL LETTER L-SHAPED HA|7SMALL LETTER L-SHAPED HA|7CAPITAL LETTER OLD COPTIC HEI",
    "7SMALL LETTER OLD COPTIC HEI|7CAPITAL LETTER OLD COPTIC HAT|7SMALL LETTER OLD COPTIC HAT",
    "7CAPITAL LETTER OLD COPTIC GANGIA|7SMALL LETTER OLD COPTIC GANGIA|7CAPITAL LETTER OLD COPTIC DJA",
    "7SMALL LETTER OLD COPTIC DJA|7CAPITAL LETTER OLD COPTIC SHIMA|7SMALL LETTER OLD COPTIC SHIMA",
    "7CAPITAL LETTER OLD NUBIAN SHIMA|7SMALL LETTER OLD NUBIAN SHIMA|7CAPITAL LETTER OLD NUBIAN NGI",
    "7SMALL LETTER OLD NUBIAN NGI|7CAPITAL LETTER OLD NUBIAN NYI|7SMALL LETTER OLD NUBIAN NYI",
    "7CAPITAL LETTER OLD NUBIAN WAU|7SMALL LETTER OLD NUBIAN WAU|8YMBOL KAI|>MI RO|>PI RO|>STAUROS",
    ">TAU RO|>KHI RO|>SHIMA SIMA|7CAPITAL LETTER CRYPTOGRAMMIC SHEI|7SMALL LETTER CRYPTOGRAMMIC SHEI",
    "7CAPITAL LETTER CRYPTOGRAMMIC GANGIA|7SMALL LETTER CRYPTOGRAMMIC GANGIA|7COMBINING NI ABOVE",
    "ASPIRITUS ASPER|JLENIS|8APITAL LETTER BOHAIRIC KHEI|7SMALL LETTER BOHAIRIC KHEI|||||",
    "7OLD NUBIAN FULL STOP|BDIRECT QUESTION MARK|BINDIRECT QUESTION MARK|BVERSE DIVIDER",
    "7FRACTION ONE HALF|8ULL STOP|7MORPHOLOGICAL DIVIDER|0GEORGIAN SMALL LETTER AN|FBAN|FGAN|FDON|FEN",
    "FVIN|FZEN|FTAN|FIN|FKAN|FLAS|FMAN|FNAR|FON|FPAR|FZHAR|FRAE|FSAN|FTAR|FUN|FPHAR|FKHAR|FGHAN|FQAR",
    "FSHIN|FCHIN|GAN|FJIL|FCIL|GHAR|FXAN|FJHAN|FHAE|GE|GIE|FWE|FHAR|GOE||FYN||||||FAEN||",
    "0TIFINAGH LETTER YA|BB|CH|BG|CHH|@BERBER ACADEMY YAJ|@YAJ|BD|CH|CD|DH|AEY|AAF|BK|@TUAREG YAK|@YAKHH",
    "BH|@BERBER ACADEMY YAH|@TUAREG YAH|@YAHH|BA|BKH|@TUAREG YAKH|@YAQ|@TUAREG YAQ|@YI|AAZH|@AHAGGAR YAZH",
    "@TUAREG YAZH|@YAL|BM|BN|@TUAREG YAGN|ING|@YAP|AU|AAR|CR|BGH|@TUAREG YAGH|@AYER YAGH|@YAS|CS|CH|BT|CH",
    "BCH|BTT|BV|BW|BY|BZ|@TAWELLEMET YAZ|@YAZZ|AE|AO||||||||9MODIFIER LETTER LABIALIZATION MARK",
    "9SEPARATOR MARK"]),
  (0x2d7f, ["0TIFINAGH CONSONANT JOINER|0ETHIOPIC SYLLABLE LOA|BMOA|BROA|BSOA|CHOA|BBOA|BTOA|BCOA|BNOA|CYOA",
    "BGLOTTAL OA|BZOA|BDOA|CDOA|BJOA|BTHOA|BCHOA|BPHOA|COA|BGGWA|EI|EEE|EE"]),
  (0x2da0, ["0ETHIOPIC SYLLABLE SSA|DU|DI|DAA|DEE|DE|DO||BCCA|DU|DI|DAA|DEE|DE|DO||BZZA|DU|DI|DAA|DEE|DE|DO|",
    "BCCHA|EU|EI|EAA|EEE|EE|EO||BQYA|DU|DI|DAA|DEE|DE|DO||BKYA|DU|DI|DAA|DEE|DE|DO||BXYA|DU|DI|DAA|DEE|DE",
    "DO||BGYA|DU|DI|DAA|DEE|DE|DO||0COMBINING CYRILLIC LETTER BE|JVE|JGHE|JDE|JZHE|KE|JKA|JEL|KM|KN|JO",
    "JPE|JER|KS|JTE|JHA|JTSE|JCHE|JSHA|LCHA|JFITA|JES-TE|JA|JIE|JDJERV|JMONOGRAPH UK|JYAT|KU|JIOTIFIED A",
    "JLITTLE YUS|JBIG YUS|JIOTIFIED BIG YUS|0RIGHT ANGLE SUBSTITUTION MARKER|<DOTTED SUBSTITUTION MARKER",
    "0LEFT SUBSTITUTION BRACKET|0RIGHT SUBSTITUTION BRACKET|0LEFT DOTTED SUBSTITUTION BRACKET",
    "0RIGHT DOTTED SUBSTITUTION BRACKET|1AISED INTERPOLATION MARKER|7DOTTED INTERPOLATION MARKER",
    "0DOTTED TRANSPOSITION MARKER|0LEFT TRANSPOSITION BRACKET|0RIGHT TRANSPOSITION BRACKET|1AISED SQUARE",
    "0LEFT RAISED OMISSION BRACKET|0RIGHT RAISED OMISSION BRACKET|0EDITORIAL CORONIS|0PARAGRAPHOS",
    "0FORKED PARAGRAPHOS|0REVERSED FORKED PARAGRAPHOS|0HYPODIASTOLE|0DOTTED OBELOS|2WNWARDS ANCORA",
    "0UPWARDS ANCORA|0DOTTED RIGHT-POINTING ANGLE|2UBLE OBLIQUE HYPHEN|0INVERTED INTERROBANG|0PALM BRANCH",
    "0HYPHEN WITH DIAERESIS|0TILDE WITH RING ABOVE|0LEFT LOW PARAPHRASE BRACKET",
    "0RIGHT LOW PARAPHRASE BRACKET|0TILDE WITH DOT ABOVE|?BELOW|0LEFT VERTICAL BAR WITH QUILL",
    "0RIGHT VERTICAL BAR WITH QUILL|0TOP LEFT HALF BRACKET|4RIGHT HALF BRACKET|0BOTTOM LEFT HALF BRACKET",
    "7RIGHT HALF BRACKET|0LEFT SIDEWAYS U BRACKET|0RIGHT SIDEWAYS U BRACKET|0LEFT DOUBLE PARENTHESIS",
    "0RIGHT DOUBLE PARENTHESIS|0TWO DOTS OVER ONE DOT PUNCTUATION|0ONE DOT OVER TWO DOTS PUNCTUATION",
    "0SQUARED FOUR DOT PUNCTUATION|0FIVE DOT MARK|0REVERSED QUESTION MARK|0VERTICAL TILDE|0RING POINT",
    "0WORD SEPARATOR MIDDLE DOT|0TURNED COMMA|0RAISED DOT|7COMMA|0TURNED SEMICOLON",
    "0DAGGER WITH LEFT GUARD|<RIGHT GUARD|0TURNED DAGGER|1OP HALF SECTION SIGN|1WO-EM DASH|1HREE-EM DASH",
    "0STENOGRAPHIC FULL STOP|0VERTICAL SIX DOTS|0WIGGLY VERTICAL LINE|0CAPITULUM|0DOUBLE HYPHEN",
    "0REVERSED COMMA|0DOUBLE LOW-REVERSED-9 QUOTATION MARK|1ASH WITH LEFT UPTURN|1OUBLE SUSPENSION MARK",
    "0INVERTED LOW KAVYKA|C WITH KAVYKA ABOVE|0LOW KAVYKA|: WITH DOT|0DOUBLE STACKED COMMA|2TTED SOLIDUS",
    "0TRIPLE DAGGER|0MEDIEVAL COMMA|0PARAGRAPHUS MARK|1UNCTUS ELEVATUS MARK|0CORNISH VERSE DIVIDER",
    "1ROSS PATTY WITH RIGHT CROSSBAR|ALEFT CROSSBAR|0TIRONIAN SIGN CAPITAL ET|0MEDIEVAL EXCLAMATION MARK",
    "9QUESTION MARK|0LEFT SQUARE BRACKET WITH STROKE|0RIGHT SQUARE BRACKET WITH STROKE",
    "0LEFT SQUARE BRACKET WITH DOUBLE STROKE|0RIGHT SQUARE BRACKET WITH DOUBLE STROKE",
    "0TOP HALF LEFT PARENTHESIS|9RIGHT PARENTHESIS|0BOTTOM HALF LEFT PARENTHESIS|<RIGHT PARENTHESIS",
    "0OBLIQUE HYPHEN"]),
  (0x2e80, ["0CJK RADICAL REPEAT|<CLIFF|<SECOND ONE|CTWO|DHREE|<PERSON|<BOX|<TABLE|<KNIFE ONE|BTWO|<DIVINATION",
    "<SEAL|=MALL ONE|BTWO|<LAME ONE|ATWO|BHREE|AFOUR|<SNAKE|<THREAD|<SNOUT ONE|BTWO|<HEART ONE|BTWO|=AND",
    "<RAP||<CHOKE|<SUN|<MOON|<DEATH|<MOTHER|<CIVILIAN|<WATER ONE|BTWO|<FIRE|<PAW ONE|@TWO",
    "<SIMPLIFIED HALF TREE TRUNK|<COW|<DOG|<JADE|<BOLT OF CLOTH|<EYE|<SPIRIT ONE|CTWO|<BAMBOO|<SILK",
    "<C-SIMPLIFIED SILK|<NET ONE|@TWO|AHREE|@FOUR|<MESH|<SHEEP|<RAM|<EWE|<OLD|<BRUSH ONE|BTWO|<MEAT",
    "=ORTAR|<GRASS ONE|BTWO|CHREE|<TIGER|<CLOTHES|<WEST ONE|ATWO|<C-SIMPLIFIED SEE|<SIMPLIFIED HORN|<HORN",
    "<C-SIMPLIFIED SPEECH|JHELL|<FOOT|<C-SIMPLIFIED CART|<SIMPLIFIED WALK|<WALK ONE|ATWO|<CITY",
    "=-SIMPLIFIED GOLD|<LONG ONE|ATWO|<C-SIMPLIFIED LONG|IGATE|<MOUND ONE|BTWO|<RAIN|<BLUE",
    "<C-SIMPLIFIED TANNED LEATHER|ILEAF|IWIND|IFLY|<EAT ONE|@TWO|AHREE|<C-SIMPLIFIED EAT|<HEAD",
    "<C-SIMPLIFIED HORSE|<BONE|<GHOST|<C-SIMPLIFIED FISH|IBIRD|ISALT|<SIMPLIFIED WHEAT|GYELLOW",
    "<C-SIMPLIFIED FROG|<J-SIMPLIFIED EVEN|<C-SIMPLIFIED EVEN|<J-SIMPLIFIED TOOTH|<C-SIMPLIFIED TOOTH",
    "<J-SIMPLIFIED DRAGON|<C-SIMPLIFIED DRAGON|<TURTLE|<J-SIMPLIFIED TURTLE|<C-SIMPLIFIED TURTLE"]),
  (0x2f00, ["0KANGXI RADICAL ONE|?LINE|?DOT|?SLASH|@ECOND|?HOOK|?TWO|?LID|?MAN|?LEGS|?ENTER|@IGHT|?DOWN BOX",
    "?COVER|?ICE|?TABLE|?OPEN BOX|?KNIFE|?POWER|?WRAP|?SPOON|?RIGHT OPEN BOX|?HIDING ENCLOSURE|?TEN",
    "?DIVINATION|?SEAL|?CLIFF|?PRIVATE|?AGAIN|?MOUTH|?ENCLOSURE|@ARTH|?SCHOLAR|?GO|A SLOWLY|?EVENING|?BIG",
    "?WOMAN|?CHILD|?ROOF|?INCH|?SMALL|?LAME|?CORPSE|?SPROUT|?MOUNTAIN|?RIVER|?WORK|?ONESELF|?TURBAN|?DRY",
    "?SHORT THREAD|?DOTTED CLIFF|?LONG STRIDE|?TWO HANDS|?SHOOT|?BOW|?SNOUT|?BRISTLE|?STEP|?HEART|@ALBERD",
    "?DOOR|?HAND|?BRANCH|?RAP|?SCRIPT|?DIPPER|?AXE|?SQUARE|?NOT|?SUN|@AY|?MOON|?TREE|?LACK|?STOP|?DEATH",
    "?WEAPON|?DO NOT|?COMPARE|?FUR|?CLAN|?STEAM|?WATER|?FIRE|?CLAW|?FATHER|?DOUBLE X|?HALF TREE TRUNK",
    "?SLICE|?FANG|?COW|?DOG|?PROFOUND|?JADE|?MELON|?TILE|?SWEET|?LIFE|?USE|?FIELD|?BOLT OF CLOTH",
    "?SICKNESS|?DOTTED TENT|?WHITE|?SKIN|?DISH|?EYE|?SPEAR|?ARROW|?STONE|@PIRIT|?TRACK|?GRAIN|?CAVE",
    "?STAND|?BAMBOO|?RICE|?SILK|?JAR|?NET|?SHEEP|?FEATHER|?OLD|?AND|?PLOW|?EAR|?BRUSH|?MEAT|@INISTER",
    "?SELF|?ARRIVE|?MORTAR|?TONGUE|?OPPOSE|?BOAT|?STOPPING|?COLOR|?GRASS|?TIGER|?INSECT|?BLOOD",
    "?WALK ENCLOSURE|?CLOTHES|?WEST|?SEE|?HORN|?SPEECH|?VALLEY|?BEAN|?PIG|?BADGER|?SHELL|?RED|@UN|?FOOT",
    "?BODY|?CART|?BITTER|?MORNING|?WALK|?CITY|?WINE|?DISTINGUISH|?VILLAGE|?GOLD|?LONG|?GATE|?MOUND|?SLAVE",
    "@HORT TAILED BIRD|?RAIN|?BLUE|?WRONG|?FACE|?LEATHER|?TANNED LEATHER|?LEEK|?SOUND|?LEAF|?WIND|?FLY",
    "?EAT|?HEAD|?FRAGRANT|?HORSE|?BONE|?TALL|?HAIR|?FIGHT|?SACRIFICIAL WINE|?CAULDRON|?GHOST|?FISH|?BIRD",
    "?SALT|?DEER|?WHEAT|?HEMP|?YELLOW|?MILLET|?BLACK|?EMBROIDERY|?FROG|?TRIPOD|?DRUM|?RAT|?NOSE|?EVEN",
    "?TOOTH|?DRAGON|?TURTLE|?FLUTE"]),
  (0x2ff0, ["0IDEOGRAPHIC DESCRIPTION CHARACTER LEFT TO RIGHT|RABOVE TO BELOW|RLEFT TO MIDDLE AND RIGHT",
    "RABOVE TO MIDDLE AND BELOW|RFULL SURROUND|RSURROUND FROM ABOVE|_ BELOW|_ LEFT|_ UPPER LEFT|fRIGHT",
    "_ LOWER LEFT|ROVERLAID|||||<SPACE|<COMMA|<FULL STOP|0DITTO MARK|0JAPANESE INDUSTRIAL STANDARD SYMBOL",
    "0IDEOGRAPHIC ITERATION MARK|<CLOSING MARK|<NUMBER ZERO|0LEFT ANGLE BRACKET|0RIGHT ANGLE BRACKET",
    "0LEFT DOUBLE ANGLE BRACKET|0RIGHT DOUBLE ANGLE BRACKET|0LEFT CORNER BRACKET|0RIGHT CORNER BRACKET",
    "0LEFT WHITE CORNER BRACKET|0RIGHT WHITE CORNER BRACKET|0LEFT BLACK LENTICULAR BRACKET",
    "0RIGHT BLACK LENTICULAR BRACKET|0POSTAL MARK|0GETA MARK|0LEFT TORTOISE SHELL BRACKET",
    "0RIGHT TORTOISE SHELL BRACKET|0LEFT WHITE LENTICULAR BRACKET|0RIGHT WHITE LENTICULAR BRACKET",
    "0LEFT WHITE TORTOISE SHELL BRACKET|0RIGHT WHITE TORTOISE SHELL BRACKET|0LEFT WHITE SQUARE BRACKET",
    "0RIGHT WHITE SQUARE BRACKET|0WAVE DASH|0REVERSED DOUBLE PRIME QUOTATION MARK",
    "0DOUBLE PRIME QUOTATION MARK|0LOW DOUBLE PRIME QUOTATION MARK|0POSTAL MARK FACE",
    "0HANGZHOU NUMERAL ONE|ATWO|BHREE|AFOUR|BIVE|ASIX|BEVEN|AEIGHT|ANINE|0IDEOGRAPHIC LEVEL TONE MARK",
    "<RISING TONE MARK|<DEPARTING TONE MARK|<ENTERING TONE MARK|0HANGUL SINGLE DOT TONE MARK",
    "7DOUBLE DOT TONE MARK|0WAVY DASH|0VERTICAL KANA REPEAT MARK|EWITH VOICED SOUND MARK|EMARK UPPER HALF",
    "EWITH VOICED SOUND MARK UPPER HALF|EMARK LOWER HALF|0CIRCLED POSTAL MARK",
    "0IDEOGRAPHIC TELEGRAPH LINE FEED SEPARATOR SYMBOL|0HANGZHOU NUMERAL TEN|BWENTY|BHIRTY",
    "0VERTICAL IDEOGRAPHIC ITERATION MARK|0MASU MARK|0PART ALTERNATION MARK",
    "0IDEOGRAPHIC VARIATION INDICATOR|<HALF FILL SPACE||0HIRAGANA LETTER SMALL A|@A|@SMALL I|@I|@SMALL U",
    "@U|@SMALL E|@E|@SMALL O|@O|@KA|@GA|@KI|@GI|@KU|@GU|@KE|@GE|@KO|@GO|@SA|@ZA|@SI|@ZI|@SU|@ZU|@SE|@ZE",
    "@SO|@ZO|@TA|@DA|@TI|@DI|@SMALL TU|@TU|@DU|@TE|@DE|@TO|@DO|@NA|AI|AU|AE|AO|@HA|@BA|@PA|@HI|@BI|@PI",
    "@HU|@BU|@PU|@HE|@BE|@PE|@HO|@BO|@PO|@MA|AI|AU|AE|AO|@SMALL YA|@YA|@SMALL YU|@YU|@SMALL YO|@YO|@RA|AI",
    "AU|AE|AO|@SMALL WA|@WA|AI|AE|AO|@N|@VU|@SMALL KA|GE|||0COMBINING KATAKANA-HIRAGANA VOICED SOUND MARK",
    "LSEMI-VOICED SOUND MARK|0KATAKANA-HIRAGANA VOICED SOUND MARK|BSEMI-VOICED SOUND MARK",
    "0HIRAGANA ITERATION MARK|9VOICED ITERATION MARK|9DIGRAPH YORI|0KATAKANA-HIRAGANA DOUBLE HYPHEN",
    "8 LETTER SMALL A|@A|@SMALL I|@I|@SMALL U|@U|@SMALL E|@E|@SMALL O|@O|@KA|@GA|@KI|@GI|@KU|@GU|@KE|@GE",
    "@KO|@GO|@SA|@ZA|@SI|@ZI|@SU|@ZU|@SE|@ZE|@SO|@ZO|@TA|@DA|@TI|@DI|@SMALL TU|@TU|@DU|@TE|@DE|@TO|@DO",
    "@NA|AI|AU|AE|AO|@HA|@BA|@PA|@HI|@BI|@PI|@HU|@BU|@PU|@HE|@BE|@PE|@HO|@BO|@PO|@MA|AI|AU|AE|AO",
    "@SMALL YA|@YA|@SMALL YU|@YU|@SMALL YO|@YO|@RA|AI|AU|AE|AO|@SMALL WA|@WA|AI|AE|AO|@N|@VU|@SMALL KA|GE",
    "@VA|AI|AE|AO|9MIDDLE DOT|8-HIRAGANA PROLONGED SOUND MARK|8 ITERATION MARK|9VOICED ITERATION MARK",
    "9DIGRAPH KOTO||||||0BOPOMOFO LETTER B|@P|@M|@F|@D|@T|@N|@L|@G|@K|@H|@J|@Q|@X|@ZH|@CH|@SH|@R|@Z|@C|@S",
    "@A|@O|@E|AH|@AI|@EI|@AU|@OU|@AN|@EN|@ANG|@ENG|AR|@I|@U|@IU|@V|@NG|@GN|@IH|@O WITH DOT ABOVE|@NN|",
    "0HANGUL LETTER KIYEOK|>SSANGKIYEOK|>KIYEOK-SIOS|>NIEUN|C-CIEUC|DHIEUH|>TIKEUT|>SSANGTIKEUT|>RIEUL",
    "C-KIYEOK|DMIEUM|DPIEUP|DSIOS|DTHIEUTH|DPHIEUPH|DHIEUH|>MIEUM|>PIEUP|>SSANGPIEUP|>PIEUP-SIOS|>SIOS",
    "?SANGSIOS|>IEUNG|>CIEUC|>SSANGCIEUC|>CHIEUCH|>KHIEUKH|>THIEUTH|>PHIEUPH|>HIEUH|>A|?E|>YA|@E|>EO|>E",
    ">YEO|?E|>O|>WA|@E|>OE|>YO|>U|>WEO|?E|?I|>YU|>EU|>YI|>I|7FILLER|7LETTER SSANGNIEUN|>NIEUN-TIKEUT",
    "DSIOS|DPANSIOS|>RIEUL-KIYEOK-SIOS|DTIKEUT|DPIEUP-SIOS|EANSIOS|DYEORINHIEUH|>MIEUM-PIEUP|DSIOS",
    "DPANSIOS|>KAPYEOUNMIEUM|>PIEUP-KIYEOK|DTIKEUT|DSIOS-KIYEOK|ITIKEUT|DCIEUC|DTHIEUTH|>KAPYEOUNPIEUP",
    "FSSANGPIEUP|>SIOS-KIYEOK|CNIEUN|CTIKEUT|CPIEUP|CCIEUC|>PANSIOS|>SSANGIEUNG|>YESIEUNG|F-SIOS|GPANSIOS",
    ">KAPYEOUNPHIEUPH|>SSANGHIEUH|>YEORINHIEUH|?O-YA|CE|AI|?U-YEO|BE|AI|>ARAEA|CE|",
    "0IDEOGRAPHIC ANNOTATION LINKING MARK|GREVERSE MARK|GONE MARK|GTWO MARK|HHREE MARK|GFOUR MARK",
    "GTOP MARK|GMIDDLE MARK|GBOTTOM MARK|GFIRST MARK|GSECOND MARK|GTHIRD MARK|GFOURTH MARK|GHEAVEN MARK",
    "GEARTH MARK|GMAN MARK|0BOPOMOFO LETTER BU|@ZI|@JI|@GU|@EE|ANN|@OO|ANN|@IR|@ANN|@INN|@UNN|@IM|@NGG",
    "@AINN|AUNN|AM|@OM|ANG|@INNN|9FINAL LETTER P|FT|FK|FH|9LETTER GH|@LH|@ZY|9FINAL LETTER G|9LETTER GW",
    "@KW|@OE|@AH|0CJK STROKE T|;WG|;XG|;BXG|;SW|;HZZ|=G|<P|<ZWG|;SZWG|;HZT|=ZP|<PWG|<ZW|=ZZ|;N|;H|;S|;P",
    ";SP|;D|;HZ|<G|;SZ|<WZ|<T|<G|;PD|<Z|;TN|;SZZ|<WG|;HXWG|<ZZZG|;PG|;Q"]),
  (0x31f0, ["0KATAKANA LETTER SMALL KU|FSI|GU|FTO|FNU|FHA|GI|GU|GE|GO|FMU|FRA|GI|GU|GE|GO",
    "0PARENTHESIZED HANGUL KIYEOK|ENIEUN|ETIKEUT|ERIEUL|EMIEUM|EPIEUP|ESIOS|EIEUNG|ECIEUC|FHIEUCH",
    "EKHIEUKH|ETHIEUTH|EPHIEUPH|EHIEUH|EKIYEOK A|ENIEUN A|ETIKEUT A|ERIEUL A|EMIEUM A|EPIEUP A|ESIOS A",
    "EIEUNG A|ECIEUC A|FHIEUCH A|EKHIEUKH A|ETHIEUTH A|EPHIEUPH A|EHIEUH A|ECIEUC U",
    ">KOREAN CHARACTER OJEON|P HU||>IDEOGRAPH ONE|HTWO|IHREE|HFOUR|IIVE|HSIX|IEVEN|HEIGHT|HNINE|HTEN",
    "HMOON|HFIRE|HWATER|IOOD|HMETAL|HEARTH|HSUN|ITOCK|HHAVE|HSOCIETY|HNAME|HSPECIAL|HFINANCIAL",
    "HCONGRATULATION|HLABOR|HREPRESENT|HCALL|HSTUDY|IUPERVISE|HENTERPRISE|HRESOURCE|HALLIANCE|HFESTIVAL",
    "HREST|HSELF|HREACH|0CIRCLED IDEOGRAPH QUESTION|BKINDERGARTEN|BSCHOOL|BKOTO",
    "8NUMBER TEN ON BLACK SQUARE|@WENTY ON BLACK SQUARE|@HIRTY ON BLACK SQUARE|?FORTY ON BLACK SQUARE",
    "@IFTY ON BLACK SQUARE|?SIXTY ON BLACK SQUARE|@EVENTY ON BLACK SQUARE|?EIGHTY ON BLACK SQUARE",
    "0PARTNERSHIP SIGN|0CIRCLED NUMBER TWENTY ONE|FTWO|GHREE|FFOUR|GIVE|FSIX|GEVEN|FEIGHT|FNINE|@HIRTY",
    "E ONE|FTWO|GHREE|FFOUR|GIVE|8HANGUL KIYEOK|?NIEUN|?TIKEUT|?RIEUL|?MIEUM|?PIEUP|?SIOS|?IEUNG|?CIEUC",
    "@HIEUCH|?KHIEUKH|?THIEUTH|?PHIEUPH|?HIEUH|?KIYEOK A|?NIEUN A|?TIKEUT A|?RIEUL A|?MIEUM A|?PIEUP A",
    "?SIOS A|?IEUNG A|?CIEUC A|@HIEUCH A|?KHIEUKH A|?THIEUTH A|?PHIEUPH A|?HIEUH A",
    "8KOREAN CHARACTER CHAMKO|IJUEUI|8HANGUL IEUNG U|0KOREAN STANDARD SYMBOL|0CIRCLED IDEOGRAPH ONE|BTWO",
    "CHREE|BFOUR|CIVE|BSIX|CEVEN|BEIGHT|BNINE|BTEN|BMOON|BFIRE|BWATER|COOD|BMETAL|BEARTH|BSUN|CTOCK|BHAVE",
    "BSOCIETY|BNAME|BSPECIAL|BFINANCIAL|BCONGRATULATION|BLABOR|BSECRET|BMALE|BFEMALE|BSUITABLE|BEXCELLENT",
    "BPRINT|BATTENTION|BITEM|BREST|BCOPY|DRRECT|BHIGH|BCENTRE|BLOW|CEFT|BRIGHT|BMEDICINE|BRELIGION|BSTUDY",
    "CUPERVISE|BENTERPRISE|BRESOURCE|BALLIANCE|BNIGHT|8NUMBER THIRTY SIX|GEVEN|FEIGHT|FNINE|?FORTY|D ONE",
    "ETWO|FHREE|EFOUR|FIVE|ESIX|FEVEN|EEIGHT|ENINE|@IFTY|0IDEOGRAPHIC TELEGRAPH SYMBOL FOR JANUARY",
    "QFEBRUARY|QMARCH|QAPRIL|QMAY|QJUNE|SLY|QAUGUST|QSEPTEMBER|QOCTOBER|QNOVEMBER|QDECEMBER|0SQUARE HG",
    "7ERG|8V|0LIMITED LIABILITY SIGN|0CIRCLED KATAKANA A|AI|AU|AE|AO|AKA|BI|BU|BE|BO|ASA|BI|BU|BE|BO|ATA",
    "BI|BU|BE|BO|ANA|BI|BU|BE|BO|AHA|BI|BU|BE|BO|AMA|BI|BU|BE|BO|AYA|BU|BO|ARA|BI|BU|BE|BO|AWA|BI|BE|BO",
    "0SQUARE ERA NAME REIWA|7APAATO|8RUHUA|8NPEA|8ARU|7ININGU|9TI|7UON|7ESUKUUDO|8EKAA|7ONSU|8OMU|7KAIRI",
    "9RATTO|:ORII|7GARON|9NMA|8IGA|9NII|7KYURII|7GIRUDAA|7KIRO|;GURAMU|;MEETORU|;WATTO|7GURAMU|=TON",
    "7KURUZEIRO|:OONE|8EESU|8ORUNA|9OPO|7SAIKURU|9NTIIMU|8IRINGU|8ENTI|;O|7DAASU|8ESI|8ORU|7TON|7NANO",
    "8OTTO|7HAITU|7PAASENTO|:TU|7BAARERU|7PIASUTORU|9KURU|:O|7BIRU|7HUARADDO|9IITO|7BUSSYERU|7HURAN",
    "8EKUTAARU|7PESO|9NIHI|7HERUTU|7PENSU|9EZI|7BEETA|7POINTO|7BORUTO|7HON|7PONDO|7HOORU|:N|7MAIKURO|:RU",
    "9HHA|9RUKU|9NSYON|8IKURON|9RI|;BAARU|8EGA|;TON|9ETORU|7YAADO|:RU|8UAN|7RITTORU|9RA|8UPII|9UBURU|8EMU",
    "9NTOGEN|7WATTO|0IDEOGRAPHIC TELEGRAPH SYMBOL FOR HOUR ZERO|VONE|VTWO|WHREE|VFOUR|WIVE|VSIX|WEVEN",
    "VEIGHT|VNINE|VTEN|VELEVEN|VTWELVE|WHIRTEEN|VFOURTEEN|WIFTEEN|VSIXTEEN|WEVENTEEN|VEIGHTEEN|VNINETEEN",
    "VTWENTY|[Y-ONE|]TWO|^HREE|]FOUR|0SQUARE HPA|7DA|7AU|7BAR|7OV|7PC|7DM|9 SQUARED|:CUBED|7IU",
    "7ERA NAME HEISEI|@SYOUWA|@TAISYOU|@MEIZI|7CORPORATION|7PA AMPS|7NA|7MU A|8A|7KA|8B|7MB|7GB|7CAL",
    "7KCAL|7PF|7NF|7MU F|:G|8G|7KG|7HZ|7KHZ|7MHZ|7GHZ|7THZ|7MU L|8L|7DL|7KL|7FM|7NM|7MU M|8M|7CM|7KM",
    "7MM SQUARED|7CM SQUARED|7M SQUARED|7KM SQUARED|7MM CUBED|7CM CUBED|7M CUBED|7KM CUBED|7M OVER S",
    "? SQUARED|7PA|7KPA|7MPA|7GPA|7RAD|: OVER S|A SQUARED|7PS|7NS|7MU S|8S|7PV|7NV|7MU V|8V|7KV|7MV MEGA",
    "7PW|7NW|7MU W|8W|7KW|7MW MEGA|7K OHM|7M OHM|7AM|7BQ|7CC|8D|8 OVER KG|8O|7DB|7GY|7HA|8P|7IN|7KK",
    "8M CAPITAL|8T|7LM|8N|8OG|8X|7MB SMALL|8IL|8OL|7PH|8M|8PM|8R|7SR|8V|7WB|7V OVER M|7A OVER M",
    "0IDEOGRAPHIC TELEGRAPH SYMBOL FOR DAY ONE|UTWO|VHREE|UFOUR|VIVE|USIX|VEVEN|UEIGHT|UNINE|UTEN|UELEVEN",
    "UTWELVE|VHIRTEEN|UFOURTEEN|VIFTEEN|USIXTEEN|VEVENTEEN|UEIGHTEEN|UNINETEEN|UTWENTY|[-ONE|[-TWO|]HREE",
    "[-FOUR|]IVE|[-SIX|]EVEN|[-EIGHT|[-NINE|VHIRTY|[-ONE|0SQUARE GAL"]),
  (0x4dc0, ["0HEXAGRAM FOR THE CREATIVE HEAVEN|ARECEPTIVE EARTH|=DIFFICULTY AT THE BEGINNING|=YOUTHFUL FOLLY",
    "=WAITING|=CONFLICT|=THE ARMY|=HOLDING TOGETHER|=SMALL TAMING|=TREADING|=PEACE|=STANDSTILL",
    "=FELLOWSHIP|=GREAT POSSESSION|=MODESTY|=ENTHUSIASM|=FOLLOWING|=WORK ON THE DECAYED|=APPROACH",
    "=CONTEMPLATION|=BITING THROUGH|=GRACE|=SPLITTING APART|=RETURN|=INNOCENCE|=GREAT TAMING",
    "=MOUTH CORNERS|=GREAT PREPONDERANCE|=THE ABYSMAL WATER|ACLINGING FIRE|=INFLUENCE|=DURATION|=RETREAT",
    "=GREAT POWER|=PROGRESS|=DARKENING OF THE LIGHT|=THE FAMILY|=OPPOSITION|>BSTRUCTION|=DELIVERANCE",
    "?CREASE|=INCREASE|=BREAKTHROUGH|=COMING TO MEET|=GATHERING TOGETHER|=PUSHING UPWARD|=OPPRESSION",
    "=THE WELL|=REVOLUTION|=THE CAULDRON|AAROUSING THUNDER|AKEEPING STILL MOUNTAIN|=DEVELOPMENT",
    "=THE MARRYING MAIDEN|=ABUNDANCE|=THE WANDERER|AGENTLE WIND|AJOYOUS LAKE|=DISPERSION|=LIMITATION",
    "=INNER TRUTH|=SMALL PREPONDERANCE|=AFTER COMPLETION|=BEFORE COMPLETION"]),
  (0xa000, ["0YI SYLLABLE IT|=X|<I|=P|=ET|>X|=E|>P|<AT|=X|<A|=P|<UOX|=O|>P|<OT|=X|<O|=P|<EX|<E|<WU|<BIT|>X|=I|>P",
    ">ET|?X|>E|?P|=AT|>X|=A|>P|=UOX|>O|?P|=OT|>X|=O|>P|=EX|=E|>P|=UT|>X|=U|>P|>RX|>R|=YT|>X|=Y|>P|>RX|>R",
    "<PIT|>X|=I|>P|>EX|>E|?P|=AT|>X|=A|>P|=UOX|>O|?P|=OT|>X|=O|>P|=UT|>X|=U|>P|>RX|>R|=YT|>X|=Y|>P|>RX|>R",
    "<BBIT|?X|>I|?P|?ET|@X|?E|@P|>AT|?X|>A|?P|>UOX|?O|@P|>OT|?X|>O|?P|>EX|>E|?P|>UT|?X|>U|?P|?RX|?R|>YT",
    "?X|>Y|?P|<NBIT|?X|>I|?P|?EX|?E|@P|>AT|?X|>A|?P|>OT|?X|>O|?P|>UT|?X|>U|?P|?RX|?R|>YT|?X|>Y|?P|?RX|?R",
    "<HMIT|?X|>I|?P|?EX|?E|@P|>AT|?X|>A|?P|>UOX|?O|@P|>OT|?X|>O|?P|>UT|?X|>U|?P|?RX|?R|>YX|>Y|?P|?RX|?R",
    "<MIT|>X|=I|>P|>EX|>E|?P|=AT|>X|=A|>P|=UOT|?X|>O|?P|=OT|>X|=O|>P|=EX|=E|=UT|>X|=U|>P|>RX|>R|=YT|>X|=Y",
    ">P|<FIT|>X|=I|>P|=AT|>X|=A|>P|=OX|=O|>P|=UT|>X|=U|>P|>RX|>R|=YT|>X|=Y|>P|<VIT|>X|=I|>P|>ET|?X|>E|?P",
    "=AT|>X|=A|>P|=OT|>X|=O|>P|=EX|>P|=UT|>X|=U|>P|>RX|>R|=YT|>X|=Y|>P|>RX|>R|<DIT|>X|=I|>P|>EX|>E|?P|=AT",
    ">X|=A|>P|=UOX|>O|=OT|>X|=O|>P|=EX|=E|>P|=UT|>X|=U|>P|>RX|>R|<TIT|>X|=I|>P|>EX|>E|?P|=AT|>X|=A|>P",
    "=UOT|?X|>O|?P|=OT|>X|=O|>P|=EX|=E|>P|=UT|>X|=U|>P|>RX|>R|<DDIT|?X|>I|?P|?EX|?E|@P|>AT|?X|>A|?P|>UOX",
    "?O|@P|>OT|?X|>O|?P|>EX|>E|?P|>UT|?X|>U|?P|?RX|?R|<NDIT|?X|>I|?P|?EX|?E|>AT|?X|>A|?P|>OT|?X|>O|?P|>EX",
    ">E|?P|>UT|?X|>U|?P|?RX|?R|<HNIT|?X|>I|?P|?ET|@X|?E|@P|>AT|?X|>A|?P|>UOX|?O|>OT|?X|?P|>EX|>E|?P|>UT",
    "<NIT|>X|=I|>P|>EX|>E|?P|=AX|=A|>P|=UOX|>O|?P|=OT|>X|=O|>P|=EX|=E|>P|=UT|>X|=U|>P|>RX|>R|<HLIT|?X|>I",
    "?P|?EX|?E|@P|>AT|?X|>A|?P|>UOX|?O|@P|>OX|>O|?P|>EX|>E|?P|>UT|?X|>U|?P|?RX|?R|>YT|?X|>Y|?P|?RX|?R",
    "<LIT|>X|=I|>P|>ET|?X|>E|?P|=AT|>X|=A|>P|=UOT|?X|>O|?P|=OT|>X|=O|>P|=EX|=E|>P|=UT|>X|=U|>P|>RX|>R|=YT",
    ">X|=Y|>P|>RX|>R|<GIT|>X|=I|>P|>ET|?X|>E|?P|=AT|>X|=A|>P|=UOT|?X|>O|?P|=OT|>X|=O|>P|=ET|>X|=E|>P|=UT",
    ">X|=U|>P|>RX|>R|<KIT|>X|=I|>P|>EX|>E|?P|=AT|>X|=A|>P|=UOX|>O|?P|=OT|>X|=O|>P|=ET|>X|=E|>P|=UT|>X|=U",
    ">P|>RX|>R|<GGIT|?X|>I|?EX|?E|@P|>AT|?X|>A|?P|>UOT|@X|?O|@P|>OT|?X|>O|?P|>ET|?X|>E|?P|>UT|?X|>U|?P",
    "?RX|?R|<MGIEX|?E|>AT|?X|>A|?P|>UOX|?O|@P|>OT|?X|>O|?P|>EX|>E|?P|>UT|?X|>U|?P|?RX|?R|<HXIT|?X|>I|?P",
    "?ET|@X|?E|@P|>AT|?X|>A|?P|>UOT|@X|?O|@P|>OT|?X|>O|?P|>EX|>E|?P|<NGIEX|?E|@P|>AT|?X|>A|?P|>UOT|@X|?O",
    ">OT|?X|>O|?P|>EX|>E|?P|<HIT|>EX|>E|=AT|>X|=A|>P|=UOT|?X|>O|?P|=OT|>X|=O|>P|=EX|=E|>P|<WAT|>X|=A|>P",
    "=UOX|>O|?P|=OX|=O|>P|=EX|=E|>P|<ZIT|>X|=I|>P|>EX|>E|?P|=AT|>X|=A|>P|=UOX|>O|?P|=OT|>X|=O|>P|=EX|=E",
    ">P|=UT|>X|=U|>P|>RX|>R|=YT|>X|=Y|>P|>RX|>R|<CIT|>X|=I|>P|>ET|?X|>E|?P|=AT|>X|=A|>P|=UOX|>O|?P|=OT|>X",
    "=O|>P|=EX|=E|>P|=UT|>X|=U|>P|>RX|>R|=YT|>X|=Y|>P|>RX|>R|<ZZIT|?X|>I|?P|?ET|@X|?E|@P|>AT|?X|>A|?P|>OX",
    ">O|?P|>EX|>E|?P|>UX|>U|?P|?RX|?R|>YT|?X|>Y|?P|?RX|?R|<NZIT|?X|>I|?P|?EX|?E|@P|>AT|?X|>A|?P|>UOX|?O",
    ">OX|?P|>EX|>E|>UX|>U|?P|?RX|?R|>YT|?X|>Y|?P|?RX|?R|<SIT|>X|=I|>P|>EX|>E|?P|=AT|>X|=A|>P|=UOX|>O|?P",
    "=OT|>X|=O|>P|=EX|=E|>P|=UT|>X|=U|>P|>RX|>R|=YT|>X|=Y|>P|>RX|>R|=SIT|?X|>I|?P|?EX|?E|@P|>AT|?X|>A|?P",
    ">OT|?X|>O|?P|>EX|>E|?P|>UT|?X|>U|?P|>YT|?X|>Y|?P|?RX|?R|<ZHAT|?X|>A|?P|>UOX|?O|@P|>OT|?X|>O|?P|>ET",
    "?X|>E|?P|>UT|?X|>U|?P|?RX|?R|>YT|?X|>Y|?P|?RX|?R|<CHAT|?X|>A|?P|>UOT|@X|?O|@P|>OT|?X|>O|?P|>ET|?X|>E",
    "?P|>UX|>U|?P|?RX|?R|>YT|?X|>Y|?P|?RX|?R|<RRAX|>A|>UOX|?O|>OT|?X|>O|?P|>ET|?X|>E|?P|>UT|?X|>U|?P|?RX",
    "?R|>YT|?X|>Y|?P|?RX|?R|<NRAT|?X|>A|?P|>OX|>O|?P|>ET|?X|>E|?P|>UT|?X|>U|?P|?RX|?R|>YT|?X|>Y|?P|?RX|?R",
    "<SHAT|?X|>A|?P|>UOX|?O|@P|>OT|?X|>O|?P|>ET|?X|>E|?P|>UT|?X|>U|?P|?RX|?R|>YT|?X|>Y|?P|?RX|?R|<RAT|>X",
    "=A|>P|=UOX|>O|?P|=OT|>X|=O|>P|=EX|=E|>P|=UT|>X|=U|>P|>RX|>R|=YT|>X|=Y|>P|>RX|>R|<JIT|>X|=I|>P|>ET|?X",
    ">E|?P|=UOT|?X|>O|?P|=OT|>X|=O|>P|=UT|>X|=U|>P|>RX|>R|=YT|>X|=Y|>P|>RX|>R|<QIT|>X|=I|>P|>ET|?X|>E|?P",
    "=UOT|?X|>O|?P|=OT|>X|=O|>P|=UT|>X|=U|>P|>RX|>R|=YT|>X|=Y|>P|>RX|>R|<JJIT|?X|>I|?P|?ET|@X|?E|@P|>UOX",
    "?O|@P|>OT|?X|>O|?P|>UT|?X|>U|?P|?RX|?R|>YT|?X|>Y|?P|<NJIT|?X|>I|?P|?ET|@X|?E|@P|>UOX|?O|>OT|?X|>O|?P",
    ">UX|>U|?P|?RX|?R|>YT|?X|>Y|?P|?RX|?R|=YIT|?X|>I|?P|?ET|@X|?E|@P|>UOX|?O|@P|>OT|?X|>O|?P|>UT|?X|>U|?P",
    "<XIT|>X|=I|>P|>ET|?X|>E|?P|=UOX|>O|=OT|>X|=O|>P|=YT|>X|=Y|>P|>RX|>R|<YIT|>X|=I|>P|>ET|?X|>E|?P|=UOT",
    "?X|>O|?P|=OT|>X|=O|>P|=UT|>X|=U|>P|>RX|>R|=YT|>X|=Y|>P|>RX|>R||||3RADICAL QOT|;LI|;KIT|;NYIP|;CYP",
    ";SSI|;GGOP|<EP|;MI|;HXIT|;LYR|;BBUT|;MOP|;YO|;PUT|;HXUO|;TAT|;GA|;ZUP|;CYT|;DDUR|;BUR|;GGUO|;NYOP",
    ";TU|;OP|;JJUT|;ZOT|;PYT|;HMO|;YIT|;VUR|;SHY|;VEP|;ZA|;JO|;NZUP|;JJY|;GOT|;JJIE|;WO|;DU|;SHUR|;LIE",
    ";CY|<UOP|<IP|;HXOP|;SHAT|;ZUR|;SHOP|;CHE|;ZZIET|;NBIE|;KE"]),
  (0xa4d0, ["0LISU LETTER BA|<PA|=HA|<DA|<TA|=HA|<GA|<KA|=HA|<JA|<CA|=HA|<DZA|<TSA|>HA|<MA|<NA|<LA|<SA|<ZHA|=A",
    "<NGA|<HA|<XA|<HHA|<FA|<WA|<SHA|<YA|<GHA|<A|=E|<E|=U|<I|<O|<U|=E|=H|<OE|<TONE MYA TI|ANA PO|AMYA CYA",
    "EBO|ENA|EJEU|5PUNCTUATION COMMA|AFULL STOP|0VAI SYLLABLE EE|?N|=HEE|=WEE|@N|=PEE|=BHEE|>EE|=MBEE",
    "=KPEE|=MGBEE|=GBEE|=FEE|=VEE|=TEE|>HEE|=DHEE|?HEE|=LEE|=REE|=DEE|=NDEE|=SEE|>HEE|=ZEE|>HEE|=CEE|=JEE",
    "=NJEE|=YEE|=KEE|=NGGEE|=GEE|=MEE|=NEE|>YEE|=I|>N|=HI|?N|=WI|?N|=PI|=BHI|>I|=MBI|=KPI|=MGBI|=GBI|=FI",
    "=VI|=TI|>HI|=DHI|?HI|=LI|=RI|=DI|=NDI|=SI|>HI|=ZI|>HI|=CI|=JI|=NJI|=YI|=KI|=NGGI|=GI|=MI|=NI|>YI|=A",
    ">N|=NGAN|=HA|?N|=WA|?N|=PA|=BHA|>A|=MBA|=KPA|@N|=MGBA|=GBA|=FA|=VA|=TA|>HA|=DHA|?HA|=LA|=RA|=DA|=NDA",
    "=SA|>HA|=ZA|>HA|=CA|=JA|=NJA|=YA|=KA|?N|=NGGA|=GA|=MA|=NA|>YA|=OO|?N|=HOO|=WOO|@N|=POO|=BHOO|>OO",
    "=MBOO|=KPOO|=MGBOO|=GBOO|=FOO|=VOO|=TOO|>HOO|=DHOO|?HOO|=LOO|=ROO|=DOO|=NDOO|=SOO|>HOO|=ZOO|>HOO",
    "=COO|=JOO|=NJOO|=YOO|=KOO|=NGGOO|=GOO|=MOO|=NOO|>YOO|=U|>N|=HU|?N|=WU|?N|=PU|=BHU|>U|=MBU|=KPU|=MGBU",
    "=GBU|=FU|=VU|=TU|>HU|=DHU|?HU|=LU|=RU|=DU|=NDU|=SU|>HU|=ZU|>HU|=CU|=JU|=NJU|=YU|=KU|=NGGU|=GU|=MU",
    "=NU|>YU|=O|>N|=NGON|=HO|?N|=WO|?N|=PO|=BHO|>O|=MBO|=KPO|=MGBO|=GBO|@N|=FO|=VO|=TO|>HO|=DHO|?HO|=LO",
    "=RO|=DO|=NDO|=SO|>HO|=ZO|>HO|=CO|=JO|=NJO|=YO|=KO|=NGGO|=GO|=MO|=NO|>YO|=E|>N|=NGEN|=HE|?N|=WE|?N",
    "=PE|=BHE|>E|=MBE|=KPE|@N|=MGBE|=GBE|@N|=FE|=VE|=TE|>HE|=DHE|?HE|=LE|=RE|=DE|=NDE|=SE|>HE|=ZE|>HE|=CE",
    "=JE|=NJE|=YE|=KE|=NGGE|AN|=GE|?N|=ME|=NE|>YE|>G|=LENGTHENER|4COMMA|4FULL STOP|4QUESTION MARK",
    "4SYLLABLE NDOLE FA|CKA|CSOO|6MBOL FEENG|;KEENG|;TING|;NII|;BANG|;FAA|;TAA|;DANG|<OONG|;KUNG|;TONG",
    ";DO-O|;JONG|4DIGIT ZERO|:ONE|:TWO|;HREE|:FOUR|;IVE|:SIX|;EVEN|:EIGHT|:NINE|4SYLLABLE NDOLE MA|CDO"]),
  (0xa640, ["0CYRILLIC CAPITAL LETTER ZEMLYA|9SMALL LETTER ZEMLYA|9CAPITAL LETTER DZELO|9SMALL LETTER DZELO",
    "9CAPITAL LETTER REVERSED DZE|9SMALL LETTER REVERSED DZE|9CAPITAL LETTER IOTA|9SMALL LETTER IOTA",
    "9CAPITAL LETTER DJERV|9SMALL LETTER DJERV|9CAPITAL LETTER MONOGRAPH UK|9SMALL LETTER MONOGRAPH UK",
    "9CAPITAL LETTER BROAD OMEGA|9SMALL LETTER BROAD OMEGA|9CAPITAL LETTER NEUTRAL YER",
    "9SMALL LETTER NEUTRAL YER|9CAPITAL LETTER YERU WITH BACK YER|9SMALL LETTER YERU WITH BACK YER",
    "9CAPITAL LETTER IOTIFIED YAT|9SMALL LETTER IOTIFIED YAT|9CAPITAL LETTER REVERSED YU",
    "9SMALL LETTER REVERSED YU|9CAPITAL LETTER IOTIFIED A|9SMALL LETTER IOTIFIED A",
    "9CAPITAL LETTER CLOSED LITTLE YUS|9SMALL LETTER CLOSED LITTLE YUS|9CAPITAL LETTER BLENDED YUS",
    "9SMALL LETTER BLENDED YUS|9CAPITAL LETTER IOTIFIED CLOSED LITTLE YUS",
    "9SMALL LETTER IOTIFIED CLOSED LITTLE YUS|9CAPITAL LETTER YN|9SMALL LETTER YN",
    "9CAPITAL LETTER REVERSED TSE|9SMALL LETTER REVERSED TSE|9CAPITAL LETTER SOFT DE",
    "9SMALL LETTER SOFT DE|9CAPITAL LETTER SOFT EL|9SMALL LETTER SOFT EL|9CAPITAL LETTER SOFT EM",
    "9SMALL LETTER SOFT EM|9CAPITAL LETTER MONOCULAR O|9SMALL LETTER MONOCULAR O",
    "9CAPITAL LETTER BINOCULAR O|9SMALL LETTER BINOCULAR O|9CAPITAL LETTER DOUBLE MONOCULAR O",
    "9SMALL LETTER DOUBLE MONOCULAR O|9LETTER MULTIOCULAR O|1OMBINING CYRILLIC VZMET|CTEN MILLIONS SIGN",
    "CHUNDRED MILLIONS SIGN|CTHOUSAND MILLIONS SIGN|0SLAVONIC ASTERISK",
    "0COMBINING CYRILLIC LETTER UKRAINIAN IE|JI|JYI|JU|JHARD SIGN|JYERU|JSOFT SIGN|JOMEGA|CKAVYKA",
    "CPAYEROK|1YRILLIC KAVYKA|9PAYEROK|9CAPITAL LETTER DWE|9SMALL LETTER DWE|9CAPITAL LETTER DZWE",
    "9SMALL LETTER DZWE|9CAPITAL LETTER ZHWE|9SMALL LETTER ZHWE|9CAPITAL LETTER CCHE|9SMALL LETTER CCHE",
    "9CAPITAL LETTER DZZE|9SMALL LETTER DZZE|9CAPITAL LETTER TE WITH MIDDLE HOOK",
    "9SMALL LETTER TE WITH MIDDLE HOOK|9CAPITAL LETTER TWE|9SMALL LETTER TWE|9CAPITAL LETTER TSWE",
    "9SMALL LETTER TSWE|9CAPITAL LETTER TSSE|9SMALL LETTER TSSE|9CAPITAL LETTER TCHE|9SMALL LETTER TCHE",
    "9CAPITAL LETTER HWE|9SMALL LETTER HWE|9CAPITAL LETTER SHWE|9SMALL LETTER SHWE",
    "9CAPITAL LETTER DOUBLE O|9SMALL LETTER DOUBLE O|9CAPITAL LETTER CROSSED O|9SMALL LETTER CROSSED O",
    "0MODIFIER LETTER CYRILLIC HARD SIGN|ISOFT SIGN|0COMBINING CYRILLIC LETTER EF|JIOTIFIED E",
    "0BAMUM LETTER A|=KA|=U|=KU|=EE|=REE|=TAE|=O|=NYI|=I|=LA|=PA|=RII|?EE|=LEEEE|=MEEEE|=TAA|=NDAA|>JAEM",
    "=M|=SUU|=MU|=SHII|>I|>HEUX|>EUX|=KYEE|>ET|=NUAE|>U|>JUAE|=YOQ|=SHU|=YUQ|>A|=NSHA|=KEUX|=PEUX|=NJEE",
    ">TEE|=PUE|=WUE|=PEE|=FEE|=RU|=LU|=MI|=NI|=REUX|>AE|=KEN|=NGKWAEN|?GA|?A|=SHO|=PUAE|=FU|>OM|=WA|=NA",
    "=LI|=PI|=LOQ|=KO|=MBEN|=REN|=MEN|>A|=TI|=KI|=MO|>BAA|=TET|=KPA|=TEN|=NTUU|=SAMBA|=FAAMAE|=KOVUU",
    "?GHOM|6COMBINING MARK KOQNDON|ETUKWENTIS|6NJAEMLI|6FULL STOP|6COLON|8MMA|6SEMICOLON|6QUESTION MARK"]),
  (0xa700, ["0MODIFIER LETTER CHINESE TONE YIN PING|NANG PING|NIN SHANG|NANG SHANG|NIN QU|NANG QU|NIN RU|NANG RU",
    "@EXTRA-HIGH DOTTED TONE BAR|@HIGH DOTTED TONE BAR|@MID DOTTED TONE BAR|@LOW DOTTED TONE BAR",
    "@EXTRA-LOW DOTTED TONE BAR|FHIGH DOTTED LEFT-STEM TONE BAR|@HIGH DOTTED LEFT-STEM TONE BAR",
    "@MID DOTTED LEFT-STEM TONE BAR|@LOW DOTTED LEFT-STEM TONE BAR|@EXTRA-LOW DOTTED LEFT-STEM TONE BAR",
    "FHIGH LEFT-STEM TONE BAR|@HIGH LEFT-STEM TONE BAR|@MID LEFT-STEM TONE BAR|@LOW LEFT-STEM TONE BAR",
    "@EXTRA-LOW LEFT-STEM TONE BAR|@DOT VERTICAL BAR|DSLASH|DHORIZONTAL BAR|@LOWER RIGHT CORNER ANGLE",
    "@RAISED UP ARROW|GDOWN ARROW|GEXCLAMATION MARK|GINVERTED EXCLAMATION MARK",
    "@LOW INVERTED EXCLAMATION MARK|@STRESS AND HIGH TONE|KLOW TONE",
    "0LATIN CAPITAL LETTER EGYPTOLOGICAL ALEF|6SMALL LETTER EGYPTOLOGICAL ALEF",
    "6CAPITAL LETTER EGYPTOLOGICAL AIN|6SMALL LETTER EGYPTOLOGICAL AIN|6CAPITAL LETTER HENG",
    "6SMALL LETTER HENG|6CAPITAL LETTER TZ|6SMALL LETTER TZ|6CAPITAL LETTER TRESILLO",
    "6SMALL LETTER TRESILLO|6CAPITAL LETTER CUATRILLO|6SMALL LETTER CUATRILLO",
    "6CAPITAL LETTER CUATRILLO WITH COMMA|6SMALL LETTER CUATRILLO WITH COMMA|6LETTER SMALL CAPITAL F|KS",
    "6CAPITAL LETTER AA|6SMALL LETTER AA|6CAPITAL LETTER AO|6SMALL LETTER AO|6CAPITAL LETTER AU",
    "6SMALL LETTER AU|6CAPITAL LETTER AV|6SMALL LETTER AV|6CAPITAL LETTER AV WITH HORIZONTAL BAR",
    "6SMALL LETTER AV WITH HORIZONTAL BAR|6CAPITAL LETTER AY|6SMALL LETTER AY",
    "6CAPITAL LETTER REVERSED C WITH DOT|6SMALL LETTER REVERSED C WITH DOT|6CAPITAL LETTER K WITH STROKE",
    "6SMALL LETTER K WITH STROKE|6CAPITAL LETTER K WITH DIAGONAL STROKE",
    "6SMALL LETTER K WITH DIAGONAL STROKE|6CAPITAL LETTER K WITH STROKE AND DIAGONAL STROKE",
    "6SMALL LETTER K WITH STROKE AND DIAGONAL STROKE|6CAPITAL LETTER BROKEN L|6SMALL LETTER BROKEN L",
    "6CAPITAL LETTER L WITH HIGH STROKE|6SMALL LETTER L WITH HIGH STROKE",
    "6CAPITAL LETTER O WITH LONG STROKE OVERLAY|6SMALL LETTER O WITH LONG STROKE OVERLAY",
    "6CAPITAL LETTER O WITH LOOP|6SMALL LETTER O WITH LOOP|6CAPITAL LETTER OO|6SMALL LETTER OO",
    "6CAPITAL LETTER P WITH STROKE THROUGH DESCENDER|6SMALL LETTER P WITH STROKE THROUGH DESCENDER",
    "6CAPITAL LETTER P WITH FLOURISH|6SMALL LETTER P WITH FLOURISH|6CAPITAL LETTER P WITH SQUIRREL TAIL",
    "6SMALL LETTER P WITH SQUIRREL TAIL|6CAPITAL LETTER Q WITH STROKE THROUGH DESCENDER",
    "6SMALL LETTER Q WITH STROKE THROUGH DESCENDER|6CAPITAL LETTER Q WITH DIAGONAL STROKE",
    "6SMALL LETTER Q WITH DIAGONAL STROKE|6CAPITAL LETTER R ROTUNDA|6SMALL LETTER R ROTUNDA",
    "6CAPITAL LETTER RUM ROTUNDA|6SMALL LETTER RUM ROTUNDA|6CAPITAL LETTER V WITH DIAGONAL STROKE",
    "6SMALL LETTER V WITH DIAGONAL STROKE|6CAPITAL LETTER VY|6SMALL LETTER VY",
    "6CAPITAL LETTER VISIGOTHIC Z|6SMALL LETTER VISIGOTHIC Z|6CAPITAL LETTER THORN WITH STROKE",
    "6SMALL LETTER THORN WITH STROKE|6CAPITAL LETTER THORN WITH STROKE THROUGH DESCENDER",
    "6SMALL LETTER THORN WITH STROKE THROUGH DESCENDER|6CAPITAL LETTER VEND|6SMALL LETTER VEND",
    "6CAPITAL LETTER ET|6SMALL LETTER ET|6CAPITAL LETTER IS|6SMALL LETTER IS|6CAPITAL LETTER CON",
    "6SMALL LETTER CON|0MODIFIER LETTER US|0LATIN SMALL LETTER DUM|CLUM|CMUM|CNUM|CRUM",
    "6LETTER SMALL CAPITAL RUM|6SMALL LETTER TUM|CUM|6CAPITAL LETTER INSULAR D|6SMALL LETTER INSULAR D",
    "6CAPITAL LETTER INSULAR F|6SMALL LETTER INSULAR F|6CAPITAL LETTER INSULAR G|ETURNED INSULAR G",
    "6SMALL LETTER TURNED INSULAR G|6CAPITAL LETTER TURNED L|6SMALL LETTER TURNED L",
    "6CAPITAL LETTER INSULAR R|6SMALL LETTER INSULAR R|6CAPITAL LETTER INSULAR S|6SMALL LETTER INSULAR S",
    "6CAPITAL LETTER INSULAR T|6SMALL LETTER INSULAR T|0MODIFIER LETTER LOW CIRCUMFLEX ACCENT|@COLON",
    "@SHORT EQUALS SIGN|0LATIN CAPITAL LETTER SALTILLO|6SMALL LETTER SALTILLO|6CAPITAL LETTER TURNED H",
    "6SMALL LETTER L WITH RETROFLEX HOOK AND BELT|6LETTER SINOLOGICAL DOT",
    "6CAPITAL LETTER N WITH DESCENDER|6SMALL LETTER N WITH DESCENDER|6CAPITAL LETTER C WITH BAR",
    "6SMALL LETTER C WITH BAR|JPALATAL HOOK|CH WITH PALATAL HOOK|6CAPITAL LETTER B WITH FLOURISH",
    "6SMALL LETTER B WITH FLOURISH|6CAPITAL LETTER F WITH STROKE|6SMALL LETTER F WITH STROKE",
    "6CAPITAL LETTER VOLAPUK AE|6SMALL LETTER VOLAPUK AE|6CAPITAL LETTER VOLAPUK OE",
    "6SMALL LETTER VOLAPUK OE|6CAPITAL LETTER VOLAPUK UE|6SMALL LETTER VOLAPUK UE",
    "6CAPITAL LETTER G WITH OBLIQUE STROKE|6SMALL LETTER G WITH OBLIQUE STROKE",
    "6CAPITAL LETTER K WITH OBLIQUE STROKE|6SMALL LETTER K WITH OBLIQUE STROKE",
    "6CAPITAL LETTER N WITH OBLIQUE STROKE|6SMALL LETTER N WITH OBLIQUE STROKE",
    "6CAPITAL LETTER R WITH OBLIQUE STROKE|6SMALL LETTER R WITH OBLIQUE STROKE",
    "6CAPITAL LETTER S WITH OBLIQUE STROKE|6SMALL LETTER S WITH OBLIQUE STROKE",
    "6CAPITAL LETTER H WITH HOOK|EREVERSED OPEN E|ESCRIPT G|EL WITH BELT|ESMALL CAPITAL I",
    "6LETTER SMALL CAPITAL Q|6CAPITAL LETTER TURNED K|LT|EJ WITH CROSSED-TAIL|ECHI|EBETA",
    "6SMALL LETTER BETA|6CAPITAL LETTER OMEGA|6SMALL LETTER OMEGA|6CAPITAL LETTER U WITH STROKE",
    "6SMALL LETTER U WITH STROKE|6CAPITAL LETTER GLOTTAL A|6SMALL LETTER GLOTTAL A",
    "6CAPITAL LETTER GLOTTAL I|6SMALL LETTER GLOTTAL I|6CAPITAL LETTER GLOTTAL U|6SMALL LETTER GLOTTAL U",
    "6CAPITAL LETTER OLD POLISH O|6SMALL LETTER OLD POLISH O|6CAPITAL LETTER ANGLICANA W",
    "6SMALL LETTER ANGLICANA W|6CAPITAL LETTER C WITH PALATAL HOOK|ES WITH HOOK|EZ WITH PALATAL HOOK",
    "ED WITH SHORT STROKE OVERLAY|6SMALL LETTER D WITH SHORT STROKE OVERLAY",
    "6CAPITAL LETTER S WITH SHORT STROKE OVERLAY|6SMALL LETTER S WITH SHORT STROKE OVERLAY|||||",
    "6CAPITAL LETTER CLOSED INSULAR G|6SMALL LETTER CLOSED INSULAR G||CDOUBLE THORN||JWYNN",
    "6CAPITAL LETTER MIDDLE SCOTS S|6SMALL LETTER MIDDLE SCOTS S|6CAPITAL LETTER SIGMOID S",
    "6SMALL LETTER SIGMOID S"]),
  (0xa7f2, ["0MODIFIER LETTER CAPITAL C|HF|HQ|0LATIN CAPITAL LETTER REVERSED HALF H|6SMALL LETTER REVERSED HALF H",
    "6EPIGRAPHIC LETTER SIDEWAYS I|0MODIFIER LETTER CAPITAL H WITH STROKE|@SMALL LIGATURE OE",
    "0LATIN LETTER SMALL CAPITAL TURNED M|6EPIGRAPHIC LETTER REVERSED F|QP|HINVERTED M|I LONGA|HARCHAIC M",
    "0SYLOTI NAGRI LETTER A|DI|=SIGN DVISVARA|=LETTER U|DE|DO|=SIGN HASANTA|=LETTER KO|EHO|DGO|EHO",
    "=SIGN ANUSVARA|=LETTER CO|EHO|DJO|EHO|DTTO|FHO|DDDO|FHO|DTO|EHO|DDO|EHO|DNO|DPO|EHO|DBO|EHO|DMO|DRO",
    "DLO|DRRO|DSO|DHO|=VOWEL SIGN A|HI|HU|HE|HOO|=POETRY MARK-1|I2|I3|I4|=SIGN ALTERNATE HASANTA|||",
    "0NORTH INDIC FRACTION ONE QUARTER|IHALF|ETHREE QUARTERS|EONE SIXTEENTH|IEIGHTH|ETHREE SIXTEENTHS",
    "<QUARTER MARK|<PLACEHOLDER MARK|<RUPEE MARK|<QUANTITY MARK|||||||0PHAGS-PA LETTER KA|AHA|@GA|@NGA",
    "@CA|AHA|@JA|@NYA|@TA|AHA|@DA|@NA|@PA|AHA|@BA|@MA|@TSA|BHA|@DZA|@WA|@ZHA|AA|@SMALL A|@YA|@RA|@LA|@SHA",
    "AA|@HA|@A|@I|@U|@E|@O|@QA|@XA|@FA|@GGA|@EE|9SUBJOINED LETTER WA|JYA|9LETTER TTA|BHA|@DDA|@NNA",
    "@ALTERNATE YA|@VOICELESS SHA|ED HA|@ASPIRATED FA|9SUBJOINED LETTER RA|;PERFIXED LETTER RA",
    "9LETTER CANDRABINDU|9SINGLE HEAD MARK|9DOUBLE HEAD MARK|9MARK SHAD|>DOUBLE SHAD"]),
  (0xa880, ["0SAURASHTRA SIGN ANUSVARA|@VISARGA|;LETTER A|CA|BI|CI|BU|CU|BVOCALIC R|KR|JL|KL|BE|CE|BAI|BO|CO|BAU",
    "BKA|CHA|BGA|CHA|BNGA|BCA|CHA|BJA|CHA|BNYA|BTTA|DHA|BDDA|DHA|BNNA|BTA|CHA|BDA|CHA|BNA|BPA|CHA|BBA|CHA",
    "BMA|BYA|BRA|BLA|BVA|BSHA|CSA|CA|BHA|BLLA|;CONSONANT SIGN HAARU|;VOWEL SIGN AA|FI|GI|FU|GU|FVOCALIC R",
    "OR|NL|OL|FE|GE|FAI|FO|GO|FAU|;SIGN VIRAMA|@CANDRABINDU"]),
  (0xa8ce, ["0SAURASHTRA DANDA|<OUBLE DANDA|<IGIT ZERO|AONE|ATWO|BHREE|AFOUR|BIVE|ASIX|BEVEN|AEIGHT|ANINE||||||",
    "0COMBINING DEVANAGARI DIGIT ZERO|KONE|KTWO|LHREE|KFOUR|LIVE|KSIX|LEVEN|KEIGHT|KNINE|ELETTER A|LU|LKA",
    "LNA|LPA|LRA|LVI|ESIGN AVAGRAHA|0DEVANAGARI SIGN SPACING CANDRABINDU|@CANDRABINDU VIRAMA",
    "@DOUBLE CANDRABINDU VIRAMA|@CANDRABINDU TWO|MHREE|LAVAGRAHA|@PUSHPIKA|;GAP FILLER|;CARET|;HEADSTROKE",
    ";SIGN SIDDHAM|;JAIN OM|;LETTER AY|;VOWEL SIGN AY|0KAYAH LI DIGIT ZERO|?ONE|?TWO|@HREE|?FOUR|@IVE",
    "?SIX|@EVEN|?EIGHT|?NINE|9LETTER KA|AHA|@GA|@NGA|@SA|AHA|@ZA|@NYA|@TA|@HTA|@NA|@PA|AHA|@MA|@DA|@BA",
    "@RA|@YA|@LA|@WA|@THA|@HA|@VA|@CA|@A|@OE|@I|@OO|9VOWEL UE|?E|?U|?EE|?O|9TONE PLOPHU|>CALYA|C PLOPHU",
    "9SIGN CWI|>SHYA|0REJANG LETTER KA|>GA|>NGA|>TA|>DA|>NA|>PA|>BA|>MA|>CA|>JA|>NYA|>SA|>RA|>LA|>YA|>WA",
    ">HA|>MBA|>NGGA|?DA|?YJA|>A|7VOWEL SIGN I|BU|BE|BAI|BO|BAU|BEU|CA|7CONSONANT SIGN NG|FN|FR|FH|7VIRAMA"]),
  (0xa95f, ["0REJANG SECTION MARK|0HANGUL CHOSEONG TIKEUT-MIEUM|GPIEUP|GSIOS|GCIEUC|@RIEUL-KIYEOK|FSSANGKIYEOK",
    "FTIKEUT|FSSANGTIKEUT|FMIEUM|FPIEUP|FSSANGPIEUP|FKAPYEOUNPIEUP|FSIOS|FCIEUC|FKHIEUKH|@MIEUM-KIYEOK",
    "FTIKEUT|FSIOS|@PIEUP-SIOS-THIEUTH|FKHIEUKH|FHIEUH|@SSANGSIOS-PIEUP|@IEUNG-RIEUL|FHIEUH",
    "@SSANGCIEUC-HIEUH|ETHIEUTH|@PHIEUPH-HIEUH|@HIEUH-SIOS|@SSANGYEORINHIEUH||||0JAVANESE SIGN PANYANGGA",
    ">CECAK|>LAYAR|>WIGNYAN|9LETTER A|@I KAWI|@I|AI|@U|@PA CEREK|@NGA LELET|I RASWADI|@E|@AI|@O|@KA",
    "B SASAK|CMURDA|@GA|B MURDA|@NGA|@CA|B MURDA|@JA|@NYA MURDA|@JA MAHAPRANA|@NYA|@TTA|C MAHAPRANA|@DDA",
    "C MAHAPRANA|@NA MURDA|@TA|B MURDA|@DA|B MAHAPRANA|@NA|@PA|B MURDA|@BA|B MURDA|@MA|@YA|@RA|B AGUNG",
    "@LA|@WA|@SA MURDA|DAHAPRANA|AA|@HA|9SIGN CECAK TELU|9VOWEL SIGN TARUNG|EOLONG|DWULU|H MELIK|DSUKU",
    "H MENDUT|DTALING|DDIRGA MURE|DPEPET|9CONSONANT SIGN KERET|HPENGKAL|HCAKRA|9PANGKON|9LEFT RERENGGAN",
    "9RIGHT RERENGGAN|9PADA ANDAP|>MADYA|>LUHUR|>WINDU|>PANGKAT|>LINGSA|?UNGSI|>ADEG|B ADEG|>PISELEH",
    "9TURNED PADA PISELEH||9PANGRANGKEP|9DIGIT ZERO|?ONE|?TWO|@HREE|?FOUR|@IVE|?SIX|@EVEN|?EIGHT|?NINE|||",
    "|9PADA TIRTA TUMETES|>ISEN-ISEN|0MYANMAR LETTER SHAN GHA|DCHA|DJHA|DNNA|DBHA|8SIGN SHAN SAW",
    "8MODIFIER LETTER SHAN REDUPLICATION|8LETTER TAI LAING NYA|IFA|IGA|JHA|IJA|JHA|IDDA|KHA|INNA",
    "8TAI LAING DIGIT ZERO|HONE|HTWO|IHREE|HFOUR|IIVE|HSIX|IEVEN|HEIGHT|HNINE|8LETTER TAI LAING LLA|IDA",
    "JHA|IBA|JHA||0CHAM LETTER A|<I|<U|<E|<AI|<O|<KA|=HA|<GA|=HA|<NGUE|>A|<CHA|>HA|<JA|=HA|<NHUE|>A|>JA",
    "<TA|=HA|<DA|=HA|<NUE|=A|<DDA|<PA|=PA|=HA|<BA|=HA|<MUE|=A|<BBA|<YA|<RA|<LA|<VA|<SSA|=A|<HA",
    "5VOWEL SIGN AA|@I|AI|@EI|@U|@OE|@O|@AI|AU|@UE|5CONSONANT SIGN YA|DRA|DLA|DWA"]),
  (0xaa40, ["0CHAM LETTER FINAL K|BG|BNG|5CONSONANT SIGN FINAL NG|5LETTER FINAL CH|BT|BN|BP|BY|BR|BL|BSS",
    "5CONSONANT SIGN FINAL M|JH|||5DIGIT ZERO|;ONE|;TWO|<HREE|;FOUR|<IVE|;SIX|<EVEN|;EIGHT|;NINE||",
    "5PUNCTUATION SPIRAL|ADANDA|BOUBLE DANDA|ATRIPLE DANDA|0MYANMAR LETTER KHAMTI GA|FCA|GHA|FJA|GHA|FNYA",
    "FTTA|HHA|FDDA|HHA|GHA|FNA|FSA|FHA|GHA|FFA|8MODIFIER LETTER KHAMTI REDUPLICATION|8LETTER KHAMTI XA",
    "FZA|FRA|9OGOGRAM KHAMTI OAY|HQN|HHM|8SYMBOL AITON EXCLAMATION|EONE|ETWO|8LETTER AITON RA",
    "8SIGN PAO KAREN TONE|=TAI LAING TONE-2|L5|8LETTER SHWE PALAUNG CHA|LSHA|0TAI VIET LETTER LOW KO",
    "@HIGH KO|@LOW KHO|@HIGH KHO|@LOW KHHO|@HIGH KHHO|@LOW GO|@HIGH GO|@LOW NGO|@HIGH NGO|@LOW CO",
    "@HIGH CO|@LOW CHO|@HIGH CHO|@LOW SO|@HIGH SO|@LOW NYO|@HIGH NYO|@LOW DO|@HIGH DO|@LOW TO|@HIGH TO",
    "@LOW THO|@HIGH THO|@LOW NO|@HIGH NO|@LOW BO|@HIGH BO|@LOW PO|@HIGH PO|@LOW PHO|@HIGH PHO|@LOW FO",
    "@HIGH FO|@LOW MO|@HIGH MO|@LOW YO|@HIGH YO|@LOW RO|@HIGH RO|@LOW LO|@HIGH LO|@LOW VO|@HIGH VO",
    "@LOW HO|@HIGH HO|@LOW O|@HIGH O|9MAI KANG|9VOWEL AA|?I|?UE|?U|?E|?O|9MAI KHIT|9VOWEL IA|?UEA|@A|?AUE",
    "@Y|@N|@M|9TONE MAI EK|BNUENG|BTHO|BSONG"]),
  (0xaadb, ["0TAI VIET SYMBOL KON|@NUENG|@SAM|@HO HOI|@KOI KOI|0MEETEI MAYEK LETTER E|DO|DCHA|DNYA|DTTA|FHA|DDDA",
    "FHA|DNNA|DSHA|ESA|=VOWEL SIGN II|HUU|HAAI|IU|IAU|=CHEIKHAN|=AHANG KHUDAM|>NJI",
    "=SYLLABLE REPETITION MARK|=WORD REPETITION MARK|=VOWEL SIGN VISARGA|>IRAMA"]),
  (0xab01, ["0ETHIOPIC SYLLABLE TTHU|EI|EAA|EEE|EE|EO|||BDDHU|EI|EAA|EEE|EE|EO|||CZU|DI|DAA|DEE|DE|DO"]),
  (0xab20, ["0ETHIOPIC SYLLABLE CCHHA|FU|FI|FAA|FEE|FE|FO||BBBA|DU|DI|DAA|DEE|DE|DO|",
    "0LATIN SMALL LETTER BARRED ALPHA|CA REVERSED-SCHWA|CBLACKLETTER E|DARRED E|CE WITH FLOURISH|CLENIS F",
    "CSCRIPT G WITH CROSSED-TAIL|CL WITH INVERTED LAZY S|JDOUBLE MIDDLE TILDE|JMIDDLE RING",
    "CM WITH CROSSED-TAIL|CN WITH CROSSED-TAIL|CENG WITH CROSSED-TAIL|CBLACKLETTER O|P WITH STROKE",
    "COPEN O WITH STROKE|CINVERTED OE|CTURNED OE WITH STROKE|RHORIZONTAL STROKE|K OPEN-O|R WITH STROKE",
    "CSTIRRUP R|6LETTER SMALL CAPITAL R WITH RIGHT LEG|6SMALL LETTER R WITHOUT HANDLE|CDOUBLE R",
    "CR WITH CROSSED-TAIL|CDOUBLE R WITH CROSSED-TAIL|CSCRIPT R|K WITH RING|CBASELINE ESH",
    "CU WITH SHORT RIGHT LEG|EBAR WITH SHORT RIGHT LEG|DI|CTURNED UI|CU WITH LEFT HOOK|CCHI",
    "F WITH LOW RIGHT RING|PLEFT SERIF|CX WITH LOW RIGHT RING|LNG LEFT LEG|W AND LOW RIGHT RING",
    "XWITH SERIF|CY WITH SHORT RIGHT LEG|0MODIFIER BREVE WITH INVERTED BREVE|9LETTER SMALL HENG",
    "FL WITH INVERTED LAZY S|MMIDDLE TILDE|FU WITH LEFT HOOK|0LATIN SMALL LETTER SAKHA YAT|CIOTIFIED E",
    "COPEN OE|CUO|CINVERTED ALPHA|0GREEK LETTER SMALL CAPITAL OMEGA",
    "0LATIN SMALL LETTER DZ DIGRAPH WITH RETROFLEX HOOK|CTS DIGRAPH WITH RETROFLEX HOOK",
    "DURNED R WITH MIDDLE TILDE|0MODIFIER LETTER SMALL TURNED W|@LEFT TACK|@RIGHT TACK||||",
    "0CHEROKEE SMALL LETTER A|FE|FI|FO|FU|FV|FGA|FKA|FGE|GI|GO|GU|GV|FHA|GE|GI|GO|GU|GV|FLA|GE|GI|GO|GU",
    "GV|FMA|GE|GI|GO|GU|FNA|FHNA|FNAH|GE|GI|GO|GU|GV|FQUA|HE|HI|HO|HU|HV|FSA|FS|GE|GI|GO|GU|GV|FDA|FTA",
    "FDE|FTE|FDI|FTI|FDO|GU|GV|GLA|FTLA|HE|HI|HO|HU|HV|GSA|HE|HI|HO|HU|HV|FWA|GE|GI|GO|GU|GV|FYA",
    "0MEETEI MAYEK LETTER KOK|DSAM|DLAI|DMIT|DPA|DNA|DCHIL|DTIL|DKHOU|DNGOU|DTHOU|DWAI|DYANG|DHUK|DUN|DI",
    "DPHAM|DATIYA|DGOK|DJHAM|DRAI|DBA|DJIL|DDIL|DGHOU|DDHOU|DBHAM|DKOK LONSUM|DLAI LONSUM|DMIT LONSUM",
    "DPA LONSUM|DNA LONSUM|DTIL LONSUM|DNGOU LONSUM|DI LONSUM|=VOWEL SIGN ONAP|HINAP|HANAP|HYENAP|HSOUNAP",
    "HUNAP|HCHEINAP|HNUNG|=CHEIKHEI|=LUM IYEK|=APUN IYEK|||=DIGIT ZERO|CONE|CTWO|DHREE|CFOUR|DIVE|CSIX",
    "DEVEN|CEIGHT|CNINE"])]

end AccessorForge.Text.CharName.EastAsian

/-! Names of characters: shapes, dingbats, further arrows and mathematical signs. -/
namespace AccessorForge.Text.CharName.Shapes

def runs : List (Nat × List String) := [
  (0x2400, ["0SYMBOL FOR NULL|;START OF HEADING|DTEXT|;END OF TEXT|CRANSMISSION|=QUIRY|;ACKNOWLEDGE|;BELL",
    "<ACKSPACE|;HORIZONTAL TABULATION|;LINE FEED|;VERTICAL TABULATION|;FORM FEED|;CARRIAGE RETURN",
    ";SHIFT OUT|AIN|;DATA LINK ESCAPE|<EVICE CONTROL ONE|JTWO|KHREE|JFOUR|;NEGATIVE ACKNOWLEDGE",
    ";SYNCHRONOUS IDLE|;END OF TRANSMISSION BLOCK|;CANCEL|;END OF MEDIUM|;SUBSTITUTE|;ESCAPE",
    ";FILE SEPARATOR|;GROUP SEPARATOR|;RECORD SEPARATOR|;UNIT SEPARATOR|;SPACE|;DELETE|0BLANK SYMBOL",
    "0OPEN BOX|0SYMBOL FOR NEWLINE|;DELETE FORM TWO|;SUBSTITUTE FORM TWO"]),
  (0x2440, ["0OCR HOOK|4CHAIR|4FORK|4INVERTED FORK|4BELT BUCKLE|5OW TIE|5RANCH BANK IDENTIFICATION",
    "4AMOUNT OF CHECK|4DASH|4CUSTOMER ACCOUNT NUMBER|4DOUBLE BACKSLASH"]),
  (0x2460, ["0CIRCLED DIGIT ONE|>TWO|?HREE|>FOUR|?IVE|>SIX|?EVEN|>EIGHT|>NINE|8NUMBER TEN|?ELEVEN|?TWELVE",
    "@HIRTEEN|?FOURTEEN|@IFTEEN|?SIXTEEN|@EVENTEEN|?EIGHTEEN|?NINETEEN|?TWENTY|0PARENTHESIZED DIGIT ONE",
    "DTWO|EHREE|DFOUR|EIVE|DSIX|EEVEN|DEIGHT|DNINE|>NUMBER TEN|EELEVEN|ETWELVE|FHIRTEEN|EFOURTEEN|FIFTEEN",
    "ESIXTEEN|FEVENTEEN|EEIGHTEEN|ENINETEEN|ETWENTY|0DIGIT ONE FULL STOP|6TWO FULL STOP|7HREE FULL STOP",
    "6FOUR FULL STOP|7IVE FULL STOP|6SIX FULL STOP|7EVEN FULL STOP|6EIGHT FULL STOP|6NINE FULL STOP",
    "0NUMBER TEN FULL STOP|7ELEVEN FULL STOP|7TWELVE FULL STOP|8HIRTEEN FULL STOP|7FOURTEEN FULL STOP",
    "8IFTEEN FULL STOP|7SIXTEEN FULL STOP|8EVENTEEN FULL STOP|7EIGHTEEN FULL STOP|7NINETEEN FULL STOP",
    "7TWENTY FULL STOP|0PARENTHESIZED LATIN SMALL LETTER A|QB|QC|QD|QE|QF|QG|QH|QI|QJ|QK|QL|QM|QN|QO|QP",
    "QQ|QR|QS|QT|QU|QV|QW|QX|QY|QZ|0CIRCLED LATIN CAPITAL LETTER A|MB|MC|MD|ME|MF|MG|MH|MI|MJ|MK|ML|MM|MN",
    "MO|MP|MQ|MR|MS|MT|MU|MV|MW|MX|MY|MZ|>SMALL LETTER A|KB|KC|KD|KE|KF|KG|KH|KI|KJ|KK|KL|KM|KN|KO|KP|KQ",
    "KR|KS|KT|KU|KV|KW|KX|KY|KZ|8DIGIT ZERO|0NEGATIVE CIRCLED NUMBER ELEVEN|HTWELVE|IHIRTEEN|HFOURTEEN",
    "IIFTEEN|HSIXTEEN|IEVENTEEN|HEIGHTEEN|HNINETEEN|HTWENTY|0DOUBLE CIRCLED DIGIT ONE|ETWO|FHREE|EFOUR",
    "FIVE|ESIX|FEVEN|EEIGHT|ENINE|?NUMBER TEN|0NEGATIVE CIRCLED DIGIT ZERO|0BOX DRAWINGS LIGHT HORIZONTAL",
    "=HEAVY HORIZONTAL|=LIGHT VERTICAL|=HEAVY VERTICAL|=LIGHT TRIPLE DASH HORIZONTAL",
    "=HEAVY TRIPLE DASH HORIZONTAL|=LIGHT TRIPLE DASH VERTICAL|=HEAVY TRIPLE DASH VERTICAL",
    "=LIGHT QUADRUPLE DASH HORIZONTAL|=HEAVY QUADRUPLE DASH HORIZONTAL|=LIGHT QUADRUPLE DASH VERTICAL",
    "=HEAVY QUADRUPLE DASH VERTICAL|=LIGHT DOWN AND RIGHT|=DOWN LIGHT AND RIGHT HEAVY",
    "BHEAVY AND RIGHT LIGHT|=HEAVY DOWN AND RIGHT|=LIGHT DOWN AND LEFT|=DOWN LIGHT AND LEFT HEAVY",
    "BHEAVY AND LEFT LIGHT|=HEAVY DOWN AND LEFT|=LIGHT UP AND RIGHT|=UP LIGHT AND RIGHT HEAVY",
    "@HEAVY AND RIGHT LIGHT|=HEAVY UP AND RIGHT|=LIGHT UP AND LEFT|=UP LIGHT AND LEFT HEAVY",
    "@HEAVY AND LEFT LIGHT|=HEAVY UP AND LEFT|=LIGHT VERTICAL AND RIGHT|=VERTICAL LIGHT AND RIGHT HEAVY",
    "=UP HEAVY AND RIGHT DOWN LIGHT|=DOWN HEAVY AND RIGHT UP LIGHT|=VERTICAL HEAVY AND RIGHT LIGHT",
    "=DOWN LIGHT AND RIGHT UP HEAVY|=UP LIGHT AND RIGHT DOWN HEAVY|=HEAVY VERTICAL AND RIGHT",
    "=LIGHT VERTICAL AND LEFT|=VERTICAL LIGHT AND LEFT HEAVY|=UP HEAVY AND LEFT DOWN LIGHT",
    "=DOWN HEAVY AND LEFT UP LIGHT|=VERTICAL HEAVY AND LEFT LIGHT|=DOWN LIGHT AND LEFT UP HEAVY",
    "=UP LIGHT AND LEFT DOWN HEAVY|=HEAVY VERTICAL AND LEFT|=LIGHT DOWN AND HORIZONTAL",
    ">EFT HEAVY AND RIGHT DOWN LIGHT|=RIGHT HEAVY AND LEFT DOWN LIGHT|=DOWN LIGHT AND HORIZONTAL HEAVY",
    "BHEAVY AND HORIZONTAL LIGHT|=RIGHT LIGHT AND LEFT DOWN HEAVY|=LEFT LIGHT AND RIGHT DOWN HEAVY",
    "=HEAVY DOWN AND HORIZONTAL|=LIGHT UP AND HORIZONTAL|>EFT HEAVY AND RIGHT UP LIGHT",
    "=RIGHT HEAVY AND LEFT UP LIGHT|=UP LIGHT AND HORIZONTAL HEAVY|@HEAVY AND HORIZONTAL LIGHT",
    "=RIGHT LIGHT AND LEFT UP HEAVY|=LEFT LIGHT AND RIGHT UP HEAVY|=HEAVY UP AND HORIZONTAL",
    "=LIGHT VERTICAL AND HORIZONTAL|>EFT HEAVY AND RIGHT VERTICAL LIGHT",
    "=RIGHT HEAVY AND LEFT VERTICAL LIGHT|=VERTICAL LIGHT AND HORIZONTAL HEAVY",
    "=UP HEAVY AND DOWN HORIZONTAL LIGHT|=DOWN HEAVY AND UP HORIZONTAL LIGHT",
    "=VERTICAL HEAVY AND HORIZONTAL LIGHT|=LEFT UP HEAVY AND RIGHT DOWN LIGHT",
    "=RIGHT UP HEAVY AND LEFT DOWN LIGHT|=LEFT DOWN HEAVY AND RIGHT UP LIGHT",
    "=RIGHT DOWN HEAVY AND LEFT UP LIGHT|=DOWN LIGHT AND UP HORIZONTAL HEAVY",
    "=UP LIGHT AND DOWN HORIZONTAL HEAVY|=RIGHT LIGHT AND LEFT VERTICAL HEAVY",
    "=LEFT LIGHT AND RIGHT VERTICAL HEAVY|=HEAVY VERTICAL AND HORIZONTAL|=LIGHT DOUBLE DASH HORIZONTAL",
    "=HEAVY DOUBLE DASH HORIZONTAL|=LIGHT DOUBLE DASH VERTICAL|=HEAVY DOUBLE DASH VERTICAL",
    "=DOUBLE HORIZONTAL|DVERTICAL|?WN SINGLE AND RIGHT DOUBLE|BDOUBLE AND RIGHT SINGLE",
    "?UBLE DOWN AND RIGHT|?WN SINGLE AND LEFT DOUBLE|BDOUBLE AND LEFT SINGLE|?UBLE DOWN AND LEFT",
    "=UP SINGLE AND RIGHT DOUBLE|@DOUBLE AND RIGHT SINGLE|=DOUBLE UP AND RIGHT|=UP SINGLE AND LEFT DOUBLE",
    "@DOUBLE AND LEFT SINGLE|=DOUBLE UP AND LEFT|=VERTICAL SINGLE AND RIGHT DOUBLE",
    "FDOUBLE AND RIGHT SINGLE|=DOUBLE VERTICAL AND RIGHT|=VERTICAL SINGLE AND LEFT DOUBLE",
    "FDOUBLE AND LEFT SINGLE|=DOUBLE VERTICAL AND LEFT|?WN SINGLE AND HORIZONTAL DOUBLE",
    "BDOUBLE AND HORIZONTAL SINGLE|?UBLE DOWN AND HORIZONTAL|=UP SINGLE AND HORIZONTAL DOUBLE",
    "@DOUBLE AND HORIZONTAL SINGLE|=DOUBLE UP AND HORIZONTAL|=VERTICAL SINGLE AND HORIZONTAL DOUBLE",
    "FDOUBLE AND HORIZONTAL SINGLE|=DOUBLE VERTICAL AND HORIZONTAL|=LIGHT ARC DOWN AND RIGHT|PLEFT",
    "GUP AND LEFT|NRIGHT|CDIAGONAL UPPER RIGHT TO LOWER LEFT|RLEFT TO LOWER RIGHT|LCROSS|CLEFT|CUP|CRIGHT",
    "CDOWN|=HEAVY LEFT|CUP|CRIGHT|CDOWN|=LIGHT LEFT AND HEAVY RIGHT|CUP AND HEAVY DOWN",
    "=HEAVY LEFT AND LIGHT RIGHT|CUP AND LIGHT DOWN|0UPPER HALF BLOCK|0LOWER ONE EIGHTH BLOCK",
    ":QUARTER BLOCK|6THREE EIGHTHS BLOCK|6HALF BLOCK|6FIVE EIGHTHS BLOCK|6THREE QUARTERS BLOCK",
    "6SEVEN EIGHTHS BLOCK|0FULL BLOCK|0LEFT SEVEN EIGHTHS BLOCK|5THREE QUARTERS BLOCK|5FIVE EIGHTHS BLOCK",
    "5HALF BLOCK|5THREE EIGHTHS BLOCK|5ONE QUARTER BLOCK|9EIGHTH BLOCK|0RIGHT HALF BLOCK|0LIGHT SHADE",
    "0MEDIUM SHADE|0DARK SHADE|0UPPER ONE EIGHTH BLOCK|0RIGHT ONE EIGHTH BLOCK|0QUADRANT LOWER LEFT",
    "?RIGHT|9UPPER LEFT|C AND LOWER LEFT AND LOWER RIGHT|NRIGHT|HUPPER RIGHT AND LOWER LEFT|^RIGHT|?RIGHT",
    "D AND LOWER LEFT|S AND LOWER RIGHT|0BLACK SQUARE|0WHITE SQUARE|< WITH ROUNDED CORNERS",
    "=CONTAINING BLACK SMALL SQUARE|0SQUARE WITH HORIZONTAL FILL|<VERTICAL FILL",
    "<ORTHOGONAL CROSSHATCH FILL|<UPPER LEFT TO LOWER RIGHT FILL|BRIGHT TO LOWER LEFT FILL",
    "<DIAGONAL CROSSHATCH FILL|0BLACK SMALL SQUARE|0WHITE SMALL SQUARE|0BLACK RECTANGLE|0WHITE RECTANGLE",
    "0BLACK VERTICAL RECTANGLE|0WHITE VERTICAL RECTANGLE|0BLACK PARALLELOGRAM|0WHITE PARALLELOGRAM",
    "0BLACK UP-POINTING TRIANGLE|0WHITE UP-POINTING TRIANGLE|0BLACK UP-POINTING SMALL TRIANGLE",
    "0WHITE UP-POINTING SMALL TRIANGLE|0BLACK RIGHT-POINTING TRIANGLE|0WHITE RIGHT-POINTING TRIANGLE",
    "0BLACK RIGHT-POINTING SMALL TRIANGLE|0WHITE RIGHT-POINTING SMALL TRIANGLE",
    "0BLACK RIGHT-POINTING POINTER|0WHITE RIGHT-POINTING POINTER|0BLACK DOWN-POINTING TRIANGLE",
    "0WHITE DOWN-POINTING TRIANGLE|0BLACK DOWN-POINTING SMALL TRIANGLE",
    "0WHITE DOWN-POINTING SMALL TRIANGLE|0BLACK LEFT-POINTING TRIANGLE|0WHITE LEFT-POINTING TRIANGLE",
    "0BLACK LEFT-POINTING SMALL TRIANGLE|0WHITE LEFT-POINTING SMALL TRIANGLE|0BLACK LEFT-POINTING POINTER",
    "0WHITE LEFT-POINTING POINTER|0BLACK DIAMOND|0WHITE DIAMOND|= CONTAINING BLACK SMALL DIAMOND|0FISHEYE",
    "0LOZENGE|0WHITE CIRCLE|0DOTTED CIRCLE|0CIRCLE WITH VERTICAL FILL|0BULLSEYE|1LACK CIRCLE",
    "0CIRCLE WITH LEFT HALF BLACK|<RIGHT HALF BLACK|<LOWER HALF BLACK|<UPPER HALF BLACK",
    "BRIGHT QUADRANT BLACK|<ALL BUT UPPER LEFT QUADRANT BLACK|0LEFT HALF BLACK CIRCLE",
    "0RIGHT HALF BLACK CIRCLE|0INVERSE BULLET|8WHITE CIRCLE|0UPPER HALF INVERSE WHITE CIRCLE",
    "0LOWER HALF INVERSE WHITE CIRCLE|0UPPER LEFT QUADRANT CIRCULAR ARC|6RIGHT QUADRANT CIRCULAR ARC",
    "0LOWER RIGHT QUADRANT CIRCULAR ARC|6LEFT QUADRANT CIRCULAR ARC|0UPPER HALF CIRCLE|0LOWER HALF CIRCLE",
    "0BLACK LOWER RIGHT TRIANGLE|<LEFT TRIANGLE|6UPPER LEFT TRIANGLE|<RIGHT TRIANGLE|0WHITE BULLET",
    "0SQUARE WITH LEFT HALF BLACK|<RIGHT HALF BLACK|<UPPER LEFT DIAGONAL HALF BLACK",
    "<LOWER RIGHT DIAGONAL HALF BLACK|0WHITE SQUARE WITH VERTICAL BISECTING LINE",
    "6UP-POINTING TRIANGLE WITH DOT|0UP-POINTING TRIANGLE WITH LEFT HALF BLACK|JRIGHT HALF BLACK",
    "0LARGE CIRCLE|0WHITE SQUARE WITH UPPER LEFT QUADRANT|BLOWER LEFT QUADRANT|HRIGHT QUADRANT",
    "BUPPER RIGHT QUADRANT|6CIRCLE WITH UPPER LEFT QUADRANT|BLOWER LEFT QUADRANT|HRIGHT QUADRANT",
    "BUPPER RIGHT QUADRANT|0UPPER LEFT TRIANGLE|6RIGHT TRIANGLE|0LOWER LEFT TRIANGLE|0WHITE MEDIUM SQUARE",
    "0BLACK MEDIUM SQUARE|0WHITE MEDIUM SMALL SQUARE|0BLACK MEDIUM SMALL SQUARE|0LOWER RIGHT TRIANGLE",
    "0BLACK SUN WITH RAYS|0CLOUD|0UMBRELLA|0SNOWMAN|0COMET|0BLACK STAR|0WHITE STAR|0LIGHTNING",
    "0THUNDERSTORM|0SUN|0ASCENDING NODE|0DESCENDING NODE|0CONJUNCTION|0OPPOSITION|0BLACK TELEPHONE",
    "0WHITE TELEPHONE|0BALLOT BOX|: WITH CHECK|@X|0SALTIRE|0UMBRELLA WITH RAIN DROPS|0HOT BEVERAGE",
    "0WHITE SHOGI PIECE|0BLACK SHOGI PIECE|0SHAMROCK|0REVERSED ROTATED FLORAL HEART BULLET",
    "0BLACK LEFT POINTING INDEX|6RIGHT POINTING INDEX|0WHITE LEFT POINTING INDEX|6UP POINTING INDEX",
    "6RIGHT POINTING INDEX|6DOWN POINTING INDEX|0SKULL AND CROSSBONES|0CAUTION SIGN|0RADIOACTIVE SIGN",
    "0BIOHAZARD SIGN|0CADUCEUS|0ANKH|0ORTHODOX CROSS|0CHI RHO|1ROSS OF LORRAINE|9JERUSALEM",
    "0STAR AND CRESCENT|0FARSI SYMBOL|0ADI SHAKTI|0HAMMER AND SICKLE|0PEACE SYMBOL|0YIN YANG",
    "0TRIGRAM FOR HEAVEN|<LAKE|<FIRE|<THUNDER|<WIND|=ATER|<MOUNTAIN|<EARTH|0WHEEL OF DHARMA",
    "2ITE FROWNING FACE|6SMILING FACE|0BLACK SMILING FACE|0WHITE SUN WITH RAYS|0FIRST QUARTER MOON",
    "0LAST QUARTER MOON|0MERCURY|0FEMALE SIGN|0EARTH|0MALE SIGN|0JUPITER|0SATURN|0URANUS|0NEPTUNE|0PLUTO",
    "0ARIES|0TAURUS|0GEMINI|0CANCER|0LEO|0VIRGO|0LIBRA|0SCORPIUS|1AGITTARIUS|0CAPRICORN|0AQUARIUS|0PISCES",
    "0WHITE CHESS KING|<QUEEN|<ROOK|<BISHOP|<KNIGHT|<PAWN|0BLACK CHESS KING|<QUEEN|<ROOK|<BISHOP|<KNIGHT",
    "<PAWN|6SPADE SUIT|0WHITE HEART SUIT|6DIAMOND SUIT|0BLACK CLUB SUIT|0WHITE SPADE SUIT",
    "0BLACK HEART SUIT|6DIAMOND SUIT|0WHITE CLUB SUIT|0HOT SPRINGS|0QUARTER NOTE|0EIGHTH NOTE",
    "0BEAMED EIGHTH NOTES|7SIXTEENTH NOTES|0MUSIC FLAT SIGN|6NATURAL SIGN|6SHARP SIGN|0WEST SYRIAC CROSS",
    "0EAST SYRIAC CROSS|0UNIVERSAL RECYCLING SYMBOL|0RECYCLING SYMBOL FOR TYPE-1 PLASTICS|J2 PLASTICS",
    "J3 PLASTICS|J4 PLASTICS|J5 PLASTICS|J6 PLASTICS|J7 PLASTICS|EGENERIC MATERIALS",
    "0BLACK UNIVERSAL RECYCLING SYMBOL|0RECYCLED PAPER SYMBOL|0PARTIALLY-RECYCLED PAPER SYMBOL",
    "1ERMANENT PAPER SIGN|0WHEELCHAIR SYMBOL|0DIE FACE-1|92|93|94|95|96|0WHITE CIRCLE WITH DOT RIGHT",
    "BTWO DOTS|0BLACK CIRCLE WITH WHITE DOT RIGHT|BTWO WHITE DOTS|0MONOGRAM FOR YANG|>IN",
    "0DIGRAM FOR GREATER YANG|;LESSER YIN|CANG|;GREATER YIN|0WHITE FLAG|0BLACK FLAG|0HAMMER AND PICK",
    "0ANCHOR|0CROSSED SWORDS|0STAFF OF AESCULAPIUS|1CALES|0ALEMBIC|0FLOWER|0GEAR|0STAFF OF HERMES",
    "0ATOM SYMBOL|0FLEUR-DE-LIS|0OUTLINED WHITE STAR|0THREE LINES CONVERGING RIGHT|GLEFT|0WARNING SIGN",
    "0HIGH VOLTAGE SIGN|0DOUBLED FEMALE SIGN|8MALE SIGN|0INTERLOCKED FEMALE AND MALE SIGN",
    "0MALE AND FEMALE SIGN|5WITH STROKE SIGN|AAND MALE AND FEMALE SIGN|0VERTICAL MALE WITH STROKE SIGN",
    "0HORIZONTAL MALE WITH STROKE SIGN|0MEDIUM WHITE CIRCLE|7BLACK CIRCLE|7SMALL WHITE CIRCLE",
    "1ARRIAGE SYMBOL|0DIVORCE SYMBOL|0UNMARRIED PARTNERSHIP SYMBOL|0COFFIN|0FUNERAL URN|0NEUTER|0CERES",
    "0PALLAS|0JUNO|0VESTA|0CHIRON|0BLACK MOON LILITH|0SEXTILE|2MISEXTILE|0QUINCUNX|0SESQUIQUADRATE",
    "1OCCER BALL|0BASEBALL|0SQUARED KEY|0WHITE DRAUGHTS MAN|?KING|0BLACK DRAUGHTS MAN|?KING",
    "0SNOWMAN WITHOUT SNOW|1UN BEHIND CLOUD|0RAIN|0BLACK SNOWMAN|0THUNDER CLOUD AND RAIN",
    "1URNED WHITE SHOGI PIECE|7BLACK SHOGI PIECE|0WHITE DIAMOND IN SQUARE|0CROSSING LANES|0DISABLED CAR",
    "0OPHIUCHUS|0PICK|0CAR SLIDING|0HELMET WITH WHITE CROSS|0CIRCLED CROSSING LANES|1HAINS|0NO ENTRY",
    "0ALTERNATE ONE-WAY LEFT WAY TRAFFIC|0BLACK TWO-WAY LEFT WAY TRAFFIC|0WHITE TWO-WAY LEFT WAY TRAFFIC",
    "0BLACK LEFT LANE MERGE|0WHITE LEFT LANE MERGE|0DRIVE SLOW SIGN|0HEAVY WHITE DOWN-POINTING TRIANGLE",
    "0LEFT CLOSED ENTRY|0SQUARED SALTIRE|0FALLING DIAGONAL IN WHITE CIRCLE IN BLACK SQUARE|0BLACK TRUCK",
    "0RESTRICTED LEFT ENTRY-1|F2|0ASTRONOMICAL SYMBOL FOR URANUS",
    "0HEAVY CIRCLE WITH STROKE AND TWO DOTS ABOVE|0PENTAGRAM|0RIGHT-HANDED INTERLACED PENTAGRAM",
    "0LEFT-HANDED INTERLACED PENTAGRAM|0INVERTED PENTAGRAM|0BLACK CROSS ON SHIELD|0SHINTO SHRINE|0CHURCH",
    "1ASTLE|0HISTORIC SITE|0GEAR WITHOUT HUB|9 HANDLES|0MAP SYMBOL FOR LIGHTHOUSE|1OUNTAIN",
    "0UMBRELLA ON GROUND|0FOUNTAIN|1LAG IN HOLE|1ERRY|0SAILBOAT|1QUARE FOUR CORNERS|1KIER|0ICE SKATE",
    "0PERSON WITH BALL|0TENT|0JAPANESE BANK SYMBOL|0HEADSTONE GRAVEYARD SYMBOL|0FUEL PUMP",
    "0CUP ON BLACK SQUARE|0WHITE FLAG WITH HORIZONTAL MIDDLE BLACK STRIPE|0BLACK SAFETY SCISSORS",
    "0UPPER BLADE SCISSORS|0BLACK SCISSORS|0LOWER BLADE SCISSORS|0WHITE SCISSORS|6HEAVY CHECK MARK",
    "0TELEPHONE LOCATION SIGN|1APE DRIVE|0AIRPLANE|0ENVELOPE|0RAISED FIST|7HAND|0VICTORY HAND",
    "0WRITING HAND|0LOWER RIGHT PENCIL|0PENCIL|0UPPER RIGHT PENCIL|0WHITE NIB|0BLACK NIB|0CHECK MARK",
    "0HEAVY CHECK MARK|0MULTIPLICATION X|0HEAVY MULTIPLICATION X|0BALLOT X|0HEAVY BALLOT X",
    "0OUTLINED GREEK CROSS|0HEAVY GREEK CROSS|0OPEN CENTRE CROSS|0HEAVY OPEN CENTRE CROSS|0LATIN CROSS",
    "0SHADOWED WHITE LATIN CROSS|0OUTLINED LATIN CROSS|0MALTESE CROSS|0STAR OF DAVID",
    "0FOUR TEARDROP-SPOKED ASTERISK|5BALLOON-SPOKED ASTERISK|0HEAVY FOUR BALLOON-SPOKED ASTERISK",
    "0FOUR CLUB-SPOKED ASTERISK|0BLACK FOUR POINTED STAR|0WHITE FOUR POINTED STAR|0SPARKLES",
    "1TRESS OUTLINED WHITE STAR|0CIRCLED WHITE STAR|0OPEN CENTRE BLACK STAR|0BLACK CENTRE WHITE STAR",
    "0OUTLINED BLACK STAR|0HEAVY OUTLINED BLACK STAR|0PINWHEEL STAR|0SHADOWED WHITE STAR|0HEAVY ASTERISK",
    "0OPEN CENTRE ASTERISK|0EIGHT SPOKED ASTERISK|6POINTED BLACK STAR|>PINWHEEL STAR",
    "0SIX POINTED BLACK STAR|0EIGHT POINTED RECTILINEAR BLACK STAR",
    "0HEAVY EIGHT POINTED RECTILINEAR BLACK STAR|0TWELVE POINTED BLACK STAR|0SIXTEEN POINTED ASTERISK",
    "0TEARDROP-SPOKED ASTERISK|0OPEN CENTRE TEARDROP-SPOKED ASTERISK|0HEAVY TEARDROP-SPOKED ASTERISK",
    "0SIX PETALLED BLACK AND WHITE FLORETTE|0BLACK FLORETTE|0WHITE FLORETTE",
    "0EIGHT PETALLED OUTLINED BLACK FLORETTE|0CIRCLED OPEN CENTRE EIGHT POINTED STAR",
    "0HEAVY TEARDROP-SPOKED PINWHEEL ASTERISK|0SNOWFLAKE|0TIGHT TRIFOLIATE SNOWFLAKE",
    "0HEAVY CHEVRON SNOWFLAKE|0SPARKLE|0HEAVY SPARKLE|0BALLOON-SPOKED ASTERISK",
    "0EIGHT TEARDROP-SPOKED PROPELLER ASTERISK|0HEAVY EIGHT TEARDROP-SPOKED PROPELLER ASTERISK",
    "0CROSS MARK|0SHADOWED WHITE CIRCLE|0NEGATIVE SQUARED CROSS MARK",
    "0LOWER RIGHT DROP-SHADOWED WHITE SQUARE|0UPPER RIGHT DROP-SHADOWED WHITE SQUARE",
    "0LOWER RIGHT SHADOWED WHITE SQUARE|0UPPER RIGHT SHADOWED WHITE SQUARE|0BLACK QUESTION MARK ORNAMENT",
    "0WHITE QUESTION MARK ORNAMENT|6EXCLAMATION MARK ORNAMENT|0BLACK DIAMOND MINUS WHITE X",
    "0HEAVY EXCLAMATION MARK SYMBOL|0LIGHT VERTICAL BAR|0MEDIUM VERTICAL BAR|0HEAVY VERTICAL BAR",
    "6SINGLE TURNED COMMA QUOTATION MARK ORNAMENT|=COMMA QUOTATION MARK ORNAMENT",
    "6DOUBLE TURNED COMMA QUOTATION MARK ORNAMENT|=COMMA QUOTATION MARK ORNAMENT",
    "6LOW SINGLE COMMA QUOTATION MARK ORNAMENT|:DOUBLE COMMA QUOTATION MARK ORNAMENT",
    "0CURVED STEM PARAGRAPH SIGN ORNAMENT|0HEAVY EXCLAMATION MARK ORNAMENT",
    "6HEART EXCLAMATION MARK ORNAMENT|6BLACK HEART|0ROTATED HEAVY BLACK HEART BULLET|0FLORAL HEART",
    "0ROTATED FLORAL HEART BULLET|0MEDIUM LEFT PARENTHESIS ORNAMENT|7RIGHT PARENTHESIS ORNAMENT",
    "7FLATTENED LEFT PARENTHESIS ORNAMENT|ARIGHT PARENTHESIS ORNAMENT",
    "7LEFT-POINTING ANGLE BRACKET ORNAMENT|7RIGHT-POINTING ANGLE BRACKET ORNAMENT",
    "0HEAVY LEFT-POINTING ANGLE QUOTATION MARK ORNAMENT|6RIGHT-POINTING ANGLE QUOTATION MARK ORNAMENT",
    "6LEFT-POINTING ANGLE BRACKET ORNAMENT|6RIGHT-POINTING ANGLE BRACKET ORNAMENT",
    "0LIGHT LEFT TORTOISE SHELL BRACKET ORNAMENT|6RIGHT TORTOISE SHELL BRACKET ORNAMENT",
    "0MEDIUM LEFT CURLY BRACKET ORNAMENT|7RIGHT CURLY BRACKET ORNAMENT",
    "0DINGBAT NEGATIVE CIRCLED DIGIT ONE|OTWO|PHREE|OFOUR|PIVE|OSIX|PEVEN|OEIGHT|ONINE|INUMBER TEN",
    "8CIRCLED SANS-SERIF DIGIT ONE|QTWO|RHREE|QFOUR|RIVE|QSIX|REVEN|QEIGHT|QNINE|KNUMBER TEN",
    "8NEGATIVE CIRCLED SANS-SERIF DIGIT ONE|ZTWO|[HREE|ZFOUR|[IVE|ZSIX|[EVEN|ZEIGHT|ZNINE|TNUMBER TEN",
    "0HEAVY WIDE-HEADED RIGHTWARDS ARROW|6PLUS SIGN|6MINUS SIGN|6DIVISION SIGN|6SOUTH EAST ARROW",
    "6RIGHTWARDS ARROW|6NORTH EAST ARROW|0DRAFTING POINT RIGHTWARDS ARROW",
    "0HEAVY ROUND-TIPPED RIGHTWARDS ARROW|0TRIANGLE-HEADED RIGHTWARDS ARROW",
    "0HEAVY TRIANGLE-HEADED RIGHTWARDS ARROW|0DASHED TRIANGLE-HEADED RIGHTWARDS ARROW",
    "0HEAVY DASHED TRIANGLE-HEADED RIGHTWARDS ARROW|0BLACK RIGHTWARDS ARROW",
    "0THREE-D TOP-LIGHTED RIGHTWARDS ARROWHEAD|8BOTTOM-LIGHTED RIGHTWARDS ARROWHEAD",
    "0BLACK RIGHTWARDS ARROWHEAD|0HEAVY BLACK CURVED DOWNWARDS AND RIGHTWARDS ARROW",
    "CUPWARDS AND RIGHTWARDS ARROW|0SQUAT BLACK RIGHTWARDS ARROW",
    "0HEAVY CONCAVE-POINTED BLACK RIGHTWARDS ARROW|0RIGHT-SHADED WHITE RIGHTWARDS ARROW",
    "0LEFT-SHADED WHITE RIGHTWARDS ARROW|0BACK-TILTED SHADOWED WHITE RIGHTWARDS ARROW",
    "0FRONT-TILTED SHADOWED WHITE RIGHTWARDS ARROW|0HEAVY LOWER RIGHT-SHADOWED WHITE RIGHTWARDS ARROW",
    "6UPPER RIGHT-SHADOWED WHITE RIGHTWARDS ARROW|0NOTCHED LOWER RIGHT-SHADOWED WHITE RIGHTWARDS ARROW",
    "0CURLY LOOP|0NOTCHED UPPER RIGHT-SHADOWED WHITE RIGHTWARDS ARROW",
    "0CIRCLED HEAVY WHITE RIGHTWARDS ARROW|0WHITE-FEATHERED RIGHTWARDS ARROW",
    "0BLACK-FEATHERED SOUTH EAST ARROW|@RIGHTWARDS ARROW|@NORTH EAST ARROW",
    "0HEAVY BLACK-FEATHERED SOUTH EAST ARROW|FRIGHTWARDS ARROW|FNORTH EAST ARROW",
    "0TEARDROP-BARBED RIGHTWARDS ARROW|0HEAVY TEARDROP-SHANKED RIGHTWARDS ARROW",
    "0WEDGE-TAILED RIGHTWARDS ARROW|0HEAVY WEDGE-TAILED RIGHTWARDS ARROW|0OPEN-OUTLINED RIGHTWARDS ARROW",
    "0DOUBLE CURLY LOOP|0THREE DIMENSIONAL ANGLE|0WHITE TRIANGLE CONTAINING SMALL WHITE TRIANGLE",
    "0PERPENDICULAR|0OPEN SUBSET|7PERSET|0LEFT S-SHAPED BAG DELIMITER|0RIGHT S-SHAPED BAG DELIMITER",
    "0OR WITH DOT INSIDE|0REVERSE SOLIDUS PRECEDING SUBSET|0SUPERSET PRECEDING SOLIDUS",
    "0VERTICAL BAR WITH HORIZONTAL STROKE|0MATHEMATICAL RISING DIAGONAL|0LONG DIVISION",
    "0MATHEMATICAL FALLING DIAGONAL|0SQUARED LOGICAL AND|@OR|0WHITE DIAMOND WITH CENTRED DOT",
    "0AND WITH DOT|0ELEMENT OF OPENING UPWARDS|0LOWER RIGHT CORNER WITH DOT|0UPPER LEFT CORNER WITH DOT",
    "0LEFT OUTER JOIN|0RIGHT OUTER JOIN|0FULL OUTER JOIN|0LARGE UP TACK|6DOWN TACK",
    "1EFT AND RIGHT DOUBLE TURNSTILE|?TACK|5MULTIMAP|1ONG RIGHT TACK|5LEFT TACK",
    "0UP TACK WITH CIRCLE ABOVE|0LOZENGE DIVIDED BY HORIZONTAL RULE|0WHITE CONCAVE-SIDED DIAMOND",
    "K WITH LEFTWARDS TICK|QRIGHTWARDS TICK|6SQUARE WITH LEFTWARDS TICK|BRIGHTWARDS TICK",
    "0MATHEMATICAL LEFT WHITE SQUARE BRACKET|=RIGHT WHITE SQUARE BRACKET|=LEFT ANGLE BRACKET",
    "=RIGHT ANGLE BRACKET|=LEFT DOUBLE ANGLE BRACKET|=RIGHT DOUBLE ANGLE BRACKET",
    "=LEFT WHITE TORTOISE SHELL BRACKET|=RIGHT WHITE TORTOISE SHELL BRACKET|=LEFT FLATTENED PARENTHESIS",
    "=RIGHT FLATTENED PARENTHESIS|0UPWARDS QUADRUPLE ARROW|0DOWNWARDS QUADRUPLE ARROW",
    "0ANTICLOCKWISE GAPPED CIRCLE ARROW|0CLOCKWISE GAPPED CIRCLE ARROW|0RIGHT ARROW WITH CIRCLED PLUS",
    "0LONG LEFTWARDS ARROW|5RIGHTWARDS ARROW|5LEFT RIGHT ARROW|9WARDS DOUBLE ARROW",
    "5RIGHTWARDS DOUBLE ARROW|5LEFT RIGHT DOUBLE ARROW|9WARDS ARROW FROM BAR|5RIGHTWARDS ARROW FROM BAR",
    "5LEFTWARDS DOUBLE ARROW FROM BAR|5RIGHTWARDS DOUBLE ARROW FROM BAR|@SQUIGGLE ARROW",
    "0BRAILLE PATTERN BLANK|@DOTS-1|E2|E12|E3|E13|E23|E123|E4|E14|E24|E124|E34|E134|E234|E1234|E5|E15|E25",
    "E125|E35|E135|E235|E1235|E45|E145|E245|E1245|E345|E1345|E2345|E12345|E6|E16|E26|E126|E36|E136|E236",
    "E1236|E46|E146|E246|E1246|E346|E1346|E2346|E12346|E56|E156|E256|E1256|E356|E1356|E2356|E12356|E456",
    "E1456|E2456|E12456|E3456|E13456|E23456|E123456|E7|E17|E27|E127|E37|E137|E237|E1237|E47|E147|E247",
    "E1247|E347|E1347|E2347|E12347|E57|E157|E257|E1257|E357|E1357|E2357|E12357|E457|E1457|E2457|E12457",
    "E3457|E13457|E23457|E123457|E67|E167|E267|E1267|E367|E1367|E2367|E12367|E467|E1467|E2467|E12467",
    "E3467|E13467|E23467|E123467|E567|E1567|E2567|E12567|E3567|E13567|E23567|E123567|E4567|E14567|E24567",
    "E124567|E34567|E134567|E234567|E1234567|E8|E18|E28|E128|E38|E138|E238|E1238|E48|E148|E248|E1248|E348",
    "E1348|E2348|E12348|E58|E158|E258|E1258|E358|E1358|E2358|E12358|E458|E1458|E2458|E12458|E3458|E13458",
    "E23458|E123458|E68|E168|E268|E1268|E368|E1368|E2368|E12368|E468|E1468|E2468|E12468|E3468|E13468",
    "E23468|E123468|E568|E1568|E2568|E12568|E3568|E13568|E23568|E123568|E4568|E14568|E24568|E124568",
    "E34568|E134568|E234568|E1234568|E78|E178|E278|E1278|E378|E1378|E2378|E12378|E478|E1478|E2478|E12478",
    "E3478|E13478|E23478|E123478|E578|E1578|E2578|E12578|E3578|E13578|E23578|E123578|E4578|E14578|E24578",
    "E124578|E34578|E134578|E234578|E1234578|E678|E1678|E2678|E12678|E3678|E13678|E23678|E123678|E4678",
    "E14678|E24678|E124678|E34678|E134678|E234678|E1234678|E5678|E15678|E25678|E125678|E35678|E135678",
    "E235678|E1235678|E45678|E145678|E245678|E1245678|E345678|E1345678|E2345678|E12345678",
    "0RIGHTWARDS TWO-HEADED ARROW WITH VERTICAL STROKE|QDOUBLE VERTICAL STROKE",
    "0LEFTWARDS DOUBLE ARROW WITH VERTICAL STROKE|0RIGHTWARDS DOUBLE ARROW WITH VERTICAL STROKE",
    "0LEFT RIGHT DOUBLE ARROW WITH VERTICAL STROKE|0RIGHTWARDS TWO-HEADED ARROW FROM BAR",
    "0LEFTWARDS DOUBLE ARROW FROM BAR|0RIGHTWARDS DOUBLE ARROW FROM BAR",
    "0DOWNWARDS ARROW WITH HORIZONTAL STROKE|0UPWARDS ARROW WITH HORIZONTAL STROKE|8TRIPLE ARROW",
    "0DOWNWARDS TRIPLE ARROW|0LEFTWARDS DOUBLE DASH ARROW|0RIGHTWARDS DOUBLE DASH ARROW",
    "0LEFTWARDS TRIPLE DASH ARROW|0RIGHTWARDS TRIPLE DASH ARROW|<WO-HEADED TRIPLE DASH ARROW",
    ";ARROW WITH DOTTED STEM|0UPWARDS ARROW TO BAR|0DOWNWARDS ARROW TO BAR",
    "0RIGHTWARDS ARROW WITH TAIL WITH VERTICAL STROKE|PDOUBLE VERTICAL STROKE|;TWO-HEADED ARROW WITH TAIL",
    "U WITH VERTICAL STROKE|[DOUBLE VERTICAL STROKE|0LEFTWARDS ARROW-TAIL|0RIGHTWARDS ARROW-TAIL",
    "0LEFTWARDS DOUBLE ARROW-TAIL|0RIGHTWARDS DOUBLE ARROW-TAIL|0LEFTWARDS ARROW TO BLACK DIAMOND",
    "0RIGHTWARDS ARROW TO BLACK DIAMOND|0LEFTWARDS ARROW FROM BAR TO BLACK DIAMOND",
    "0RIGHTWARDS ARROW FROM BAR TO BLACK DIAMOND|0NORTH WEST AND SOUTH EAST ARROW",
    "6EAST AND SOUTH WEST ARROW|6WEST ARROW WITH HOOK|6EAST ARROW WITH HOOK|0SOUTH EAST ARROW WITH HOOK",
    "6WEST ARROW WITH HOOK|0NORTH WEST ARROW AND NORTH EAST ARROW|6EAST ARROW AND SOUTH EAST ARROW",
    "0SOUTH EAST ARROW AND SOUTH WEST ARROW|6WEST ARROW AND NORTH WEST ARROW",
    "0RISING DIAGONAL CROSSING FALLING DIAGONAL|0FALLING DIAGONAL CROSSING RISING DIAGONAL",
    "0SOUTH EAST ARROW CROSSING NORTH EAST ARROW|0NORTH EAST ARROW CROSSING SOUTH EAST ARROW",
    "0FALLING DIAGONAL CROSSING NORTH EAST ARROW|0RISING DIAGONAL CROSSING SOUTH EAST ARROW",
    "0NORTH EAST ARROW CROSSING NORTH WEST ARROW|6WEST ARROW CROSSING NORTH EAST ARROW",
    "0WAVE ARROW POINTING DIRECTLY RIGHT|0ARROW POINTING RIGHTWARDS THEN CURVING UPWARDS|WDOWNWARDS",
    "?DOWNWARDS THEN CURVING LEFTWARDS|VRIGHTWARDS|0RIGHT-SIDE ARC CLOCKWISE ARROW",
    "0LEFT-SIDE ARC ANTICLOCKWISE ARROW|0TOP ARC ANTICLOCKWISE ARROW|0BOTTOM ARC ANTICLOCKWISE ARROW",
    "0TOP ARC CLOCKWISE ARROW WITH MINUS|8ANTICLOCKWISE ARROW WITH PLUS",
    "0LOWER RIGHT SEMICIRCULAR CLOCKWISE ARROW|6LEFT SEMICIRCULAR ANTICLOCKWISE ARROW",
    "0ANTICLOCKWISE CLOSED CIRCLE ARROW|0CLOCKWISE CLOSED CIRCLE ARROW",
    "0RIGHTWARDS ARROW ABOVE SHORT LEFTWARDS ARROW|0LEFTWARDS ARROW ABOVE SHORT RIGHTWARDS ARROW",
    "0SHORT RIGHTWARDS ARROW ABOVE LEFTWARDS ARROW|0RIGHTWARDS ARROW WITH PLUS BELOW",
    "0LEFTWARDS ARROW WITH PLUS BELOW|0RIGHTWARDS ARROW THROUGH X|0LEFT RIGHT ARROW THROUGH SMALL CIRCLE",
    "0UPWARDS TWO-HEADED ARROW FROM SMALL CIRCLE|0LEFT BARB UP RIGHT BARB DOWN HARPOON",
    ":DOWN RIGHT BARB UP HARPOON|0UP BARB RIGHT DOWN BARB LEFT HARPOON|8LEFT DOWN BARB RIGHT HARPOON",
    "0LEFT BARB UP RIGHT BARB UP HARPOON|0UP BARB RIGHT DOWN BARB RIGHT HARPOON",
    "0LEFT BARB DOWN RIGHT BARB DOWN HARPOON|0UP BARB LEFT DOWN BARB LEFT HARPOON",
    "0LEFTWARDS HARPOON WITH BARB UP TO BAR|0RIGHTWARDS HARPOON WITH BARB UP TO BAR",
    "0UPWARDS HARPOON WITH BARB RIGHT TO BAR|0DOWNWARDS HARPOON WITH BARB RIGHT TO BAR",
    "0LEFTWARDS HARPOON WITH BARB DOWN TO BAR|0RIGHTWARDS HARPOON WITH BARB DOWN TO BAR",
    "0UPWARDS HARPOON WITH BARB LEFT TO BAR|0DOWNWARDS HARPOON WITH BARB LEFT TO BAR",
    "0LEFTWARDS HARPOON WITH BARB UP FROM BAR|0RIGHTWARDS HARPOON WITH BARB UP FROM BAR",
    "0UPWARDS HARPOON WITH BARB RIGHT FROM BAR|0DOWNWARDS HARPOON WITH BARB RIGHT FROM BAR",
    "0LEFTWARDS HARPOON WITH BARB DOWN FROM BAR|0RIGHTWARDS HARPOON WITH BARB DOWN FROM BAR",
    "0UPWARDS HARPOON WITH BARB LEFT FROM BAR|0DOWNWARDS HARPOON WITH BARB LEFT FROM BAR",
    "0LEFTWARDS HARPOON WITH BARB UP ABOVE LEFTWARDS HARPOON WITH BARB DOWN",
    "0UPWARDS HARPOON WITH BARB LEFT BESIDE UPWARDS HARPOON WITH BARB RIGHT",
    "0RIGHTWARDS HARPOON WITH BARB UP ABOVE RIGHTWARDS HARPOON WITH BARB DOWN",
    "0DOWNWARDS HARPOON WITH BARB LEFT BESIDE DOWNWARDS HARPOON WITH BARB RIGHT",
    "0LEFTWARDS HARPOON WITH BARB UP ABOVE RIGHTWARDS HARPOON WITH BARB UP",
    "LDOWN ABOVE RIGHTWARDS HARPOON WITH BARB DOWN",
    "0RIGHTWARDS HARPOON WITH BARB UP ABOVE LEFTWARDS HARPOON WITH BARB UP",
    "MDOWN ABOVE LEFTWARDS HARPOON WITH BARB DOWN|0LEFTWARDS HARPOON WITH BARB UP ABOVE LONG DASH",
    "LDOWN BELOW LONG DASH|0RIGHTWARDS HARPOON WITH BARB UP ABOVE LONG DASH|MDOWN BELOW LONG DASH",
    "0UPWARDS HARPOON WITH BARB LEFT BESIDE DOWNWARDS HARPOON WITH BARB RIGHT",
    "0DOWNWARDS HARPOON WITH BARB LEFT BESIDE UPWARDS HARPOON WITH BARB RIGHT",
    "0RIGHT DOUBLE ARROW WITH ROUNDED HEAD|0EQUALS SIGN ABOVE RIGHTWARDS ARROW",
    "0TILDE OPERATOR ABOVE RIGHTWARDS ARROW|0LEFTWARDS ARROW ABOVE TILDE OPERATOR",
    "0RIGHTWARDS ARROW ABOVE TILDE OPERATOR|GALMOST EQUAL TO|0LESS-THAN ABOVE LEFTWARDS ARROW",
    "2FTWARDS ARROW THROUGH LESS-THAN|0GREATER-THAN ABOVE RIGHTWARDS ARROW|0SUBSET ABOVE RIGHTWARDS ARROW",
    "0LEFTWARDS ARROW THROUGH SUBSET|0SUPERSET ABOVE LEFTWARDS ARROW|0LEFT FISH TAIL|0RIGHT FISH TAIL",
    "0UP FISH TAIL|0DOWN FISH TAIL|0TRIPLE VERTICAL BAR DELIMITER|0Z NOTATION SPOT|;TYPE COLON",
    "0LEFT WHITE CURLY BRACKET|0RIGHT WHITE CURLY BRACKET|0LEFT WHITE PARENTHESIS",
    "0RIGHT WHITE PARENTHESIS|0Z NOTATION LEFT IMAGE BRACKET|;RIGHT IMAGE BRACKET|;LEFT BINDING BRACKET",
    ";RIGHT BINDING BRACKET|0LEFT SQUARE BRACKET WITH UNDERBAR|0RIGHT SQUARE BRACKET WITH UNDERBAR",
    "0LEFT SQUARE BRACKET WITH TICK IN TOP CORNER|0RIGHT SQUARE BRACKET WITH TICK IN BOTTOM CORNER",
    "0LEFT SQUARE BRACKET WITH TICK IN BOTTOM CORNER|0RIGHT SQUARE BRACKET WITH TICK IN TOP CORNER",
    "0LEFT ANGLE BRACKET WITH DOT|0RIGHT ANGLE BRACKET WITH DOT|0LEFT ARC LESS-THAN BRACKET",
    "0RIGHT ARC GREATER-THAN BRACKET|0DOUBLE LEFT ARC GREATER-THAN BRACKET|7RIGHT ARC LESS-THAN BRACKET",
    "0LEFT BLACK TORTOISE SHELL BRACKET|0RIGHT BLACK TORTOISE SHELL BRACKET|0DOTTED FENCE",
    "0VERTICAL ZIGZAG LINE|0MEASURED ANGLE OPENING LEFT|0RIGHT ANGLE VARIANT WITH SQUARE",
    "0MEASURED RIGHT ANGLE WITH DOT|0ANGLE WITH S INSIDE|1CUTE ANGLE|0SPHERICAL ANGLE OPENING LEFT|HUP",
    "0TURNED ANGLE|0REVERSED ANGLE|0ANGLE WITH UNDERBAR|0REVERSED ANGLE WITH UNDERBAR",
    "0OBLIQUE ANGLE OPENING UP|FDOWN|0MEASURED ANGLE WITH OPEN ARM ENDING IN ARROW POINTING UP AND RIGHT",
    "mLEFT|fDOWN AND RIGHT|oLEFT|fRIGHT AND UP|fLEFT AND UP|fRIGHT AND DOWN|fLEFT AND DOWN",
    "0REVERSED EMPTY SET|0EMPTY SET WITH OVERBAR|?SMALL CIRCLE ABOVE|?RIGHT ARROW ABOVE|?LEFT ARROW ABOVE",
    "0CIRCLE WITH HORIZONTAL BAR|6D VERTICAL BAR|8PARALLEL|8REVERSE SOLIDUS|8PERPENDICULAR",
    "6 DIVIDED BY HORIZONTAL BAR AND TOP HALF DIVIDED BY VERTICAL BAR|7WITH SUPERIMPOSED X",
    "6D ANTICLOCKWISE-ROTATED DIVISION SIGN|0UP ARROW THROUGH CIRCLE|0CIRCLED WHITE BULLET|8BULLET",
    "8LESS-THAN|8GREATER-THAN|6 WITH SMALL CIRCLE TO THE RIGHT|<TWO HORIZONTAL STROKES TO THE RIGHT",
    "0SQUARED RISING DIAGONAL SLASH|8FALLING DIAGONAL SLASH|8ASTERISK|8SMALL CIRCLE|9QUARE",
    "0TWO JOINED SQUARES|1RIANGLE WITH DOT ABOVE|>UNDERBAR|0S IN TRIANGLE|0TRIANGLE WITH SERIFS AT BOTTOM",
    "0RIGHT TRIANGLE ABOVE LEFT TRIANGLE|0LEFT TRIANGLE BESIDE VERTICAL BAR",
    "0VERTICAL BAR BESIDE RIGHT TRIANGLE|0BOWTIE WITH LEFT HALF BLACK|<RIGHT HALF BLACK|1LACK BOWTIE",
    "0TIMES WITH LEFT HALF BLACK|;RIGHT HALF BLACK|0WHITE HOURGLASS|0BLACK HOURGLASS|0LEFT WIGGLY FENCE",
    "0RIGHT WIGGLY FENCE|0LEFT DOUBLE WIGGLY FENCE|0RIGHT DOUBLE WIGGLY FENCE|0INCOMPLETE INFINITY",
    "0TIE OVER INFINITY|0INFINITY NEGATED WITH VERTICAL BAR|0DOUBLE-ENDED MULTIMAP",
    "0SQUARE WITH CONTOURED OUTLINE|0INCREASES AS|0SHUFFLE PRODUCT|0EQUALS SIGN AND SLANTED PARALLEL",
    "P WITH TILDE ABOVE|0IDENTICAL TO AND SLANTED PARALLEL|0GLEICH STARK|0THERMODYNAMIC",
    "0DOWN-POINTING TRIANGLE WITH LEFT HALF BLACK|LRIGHT HALF BLACK|0BLACK DIAMOND WITH DOWN ARROW",
    "6LOZENGE|0WHITE CIRCLE WITH DOWN ARROW|0BLACK CIRCLE WITH DOWN ARROW|0ERROR-BARRED WHITE SQUARE",
    "=BLACK SQUARE|=WHITE DIAMOND|=BLACK DIAMOND|=WHITE CIRCLE|=BLACK CIRCLE|0RULE-DELAYED",
    "1EVERSE SOLIDUS OPERATOR|0SOLIDUS WITH OVERBAR|0REVERSE SOLIDUS WITH HORIZONTAL STROKE|0BIG SOLIDUS",
    "4REVERSE SOLIDUS|0DOUBLE PLUS|0TRIPLE PLUS|0LEFT-POINTING CURVED ANGLE BRACKET",
    "0RIGHT-POINTING CURVED ANGLE BRACKET|0TINY|0MINY|0N-ARY CIRCLED DOT OPERATOR|>PLUS OPERATOR",
    ">TIMES OPERATOR|6UNION OPERATOR WITH DOT|JPLUS|6SQUARE INTERSECTION OPERATOR|=UNION OPERATOR",
    "0TWO LOGICAL AND OPERATOR|<OR OPERATOR|0N-ARY TIMES OPERATOR|0MODULO TWO SUM",
    "0SUMMATION WITH INTEGRAL|0QUADRUPLE INTEGRAL OPERATOR|0FINITE PART INTEGRAL",
    "0INTEGRAL WITH DOUBLE STROKE|9AVERAGE WITH SLASH|0CIRCULATION FUNCTION|0ANTICLOCKWISE INTEGRATION",
    "0LINE INTEGRATION WITH RECTANGULAR PATH AROUND POLE|FSEMICIRCULAR PATH AROUND POLE",
    "ANOT INCLUDING THE POLE|0INTEGRAL AROUND A POINT OPERATOR|0QUATERNION INTEGRAL OPERATOR",
    "0INTEGRAL WITH LEFTWARDS ARROW WITH HOOK|>TIMES SIGN|>INTERSECTION|>UNION|>OVERBAR|>UNDERBAR|0JOIN",
    "0LARGE LEFT TRIANGLE OPERATOR|0Z NOTATION SCHEMA COMPOSITION|BPIPING|CROJECTION",
    "0PLUS SIGN WITH SMALL CIRCLE ABOVE|?CIRCUMFLEX ACCENT ABOVE|?TILDE ABOVE|?DOT BELOW|?TILDE BELOW",
    "?SUBSCRIPT TWO|?BLACK TRIANGLE|0MINUS SIGN WITH COMMA ABOVE|@DOT BELOW|@FALLING DOTS|@RISING DOTS",
    "0PLUS SIGN IN LEFT HALF CIRCLE|=RIGHT HALF CIRCLE|0VECTOR OR CROSS PRODUCT",
    "0MULTIPLICATION SIGN WITH DOT ABOVE|IUNDERBAR|0SEMIDIRECT PRODUCT WITH BOTTOM CLOSED|1MASH PRODUCT",
    "0MULTIPLICATION SIGN IN LEFT HALF CIRCLE|GRIGHT HALF CIRCLE",
    "0CIRCLED MULTIPLICATION SIGN WITH CIRCUMFLEX ACCENT|0MULTIPLICATION SIGN IN DOUBLE CIRCLE",
    "0CIRCLED DIVISION SIGN|0PLUS SIGN IN TRIANGLE|0MINUS SIGN IN TRIANGLE",
    "1ULTIPLICATION SIGN IN TRIANGLE|0INTERIOR PRODUCT|0RIGHTHAND INTERIOR PRODUCT",
    "0Z NOTATION RELATIONAL COMPOSITION|0AMALGAMATION OR COPRODUCT|0INTERSECTION WITH DOT",
    "0UNION WITH MINUS SIGN|;OVERBAR|0INTERSECTION WITH OVERBAR|BLOGICAL AND|0UNION WITH LOGICAL OR",
    "6ABOVE INTERSECTION|0INTERSECTION ABOVE UNION|0UNION ABOVE BAR ABOVE INTERSECTION",
    "0INTERSECTION ABOVE BAR ABOVE UNION|0UNION BESIDE AND JOINED WITH UNION",
    "0INTERSECTION BESIDE AND JOINED WITH INTERSECTION|0CLOSED UNION WITH SERIFS",
    "7INTERSECTION WITH SERIFS|0DOUBLE SQUARE INTERSECTION|>UNION",
    "0CLOSED UNION WITH SERIFS AND SMASH PRODUCT|0LOGICAL AND WITH DOT ABOVE|8OR WITH DOT ABOVE",
    "0DOUBLE LOGICAL AND|?OR|0TWO INTERSECTING LOGICAL AND|IOR|0SLOPING LARGE OR|>AND",
    "0LOGICAL OR OVERLAPPING LOGICAL AND|8AND WITH MIDDLE STEM|8OR WITH MIDDLE STEM",
    "8AND WITH HORIZONTAL DASH|8OR WITH HORIZONTAL DASH|8AND WITH DOUBLE OVERBAR|AUNDERBAR",
    "ADOUBLE UNDERBAR|0SMALL VEE WITH UNDERBAR|0LOGICAL OR WITH DOUBLE OVERBAR|GUNDERBAR",
    "0Z NOTATION DOMAIN ANTIRESTRICTION|;RANGE ANTIRESTRICTION|0EQUALS SIGN WITH DOT BELOW",
    "0IDENTICAL WITH DOT ABOVE|0TRIPLE HORIZONTAL BAR WITH DOUBLE VERTICAL STROKE|KTRIPLE VERTICAL STROKE",
    "1ILDE OPERATOR WITH DOT ABOVE|DRISING DOTS|0SIMILAR MINUS SIMILAR|0CONGRUENT WITH DOT ABOVE",
    "0EQUALS WITH ASTERISK|0ALMOST EQUAL TO WITH CIRCUMFLEX ACCENT|1PPROXIMATELY EQUAL OR EQUAL TO",
    "0EQUALS SIGN ABOVE PLUS SIGN|0PLUS SIGN ABOVE EQUALS SIGN|0EQUALS SIGN ABOVE TILDE OPERATOR",
    "0DOUBLE COLON EQUAL|0TWO CONSECUTIVE EQUALS SIGNS|1HREE CONSECUTIVE EQUALS SIGNS",
    "0EQUALS SIGN WITH TWO DOTS ABOVE AND TWO DOTS BELOW|3IVALENT WITH FOUR DOTS ABOVE",
    "0LESS-THAN WITH CIRCLE INSIDE|0GREATER-THAN WITH CIRCLE INSIDE|0LESS-THAN WITH QUESTION MARK ABOVE",
    "0GREATER-THAN WITH QUESTION MARK ABOVE|0LESS-THAN OR SLANTED EQUAL TO",
    "0GREATER-THAN OR SLANTED EQUAL TO|0LESS-THAN OR SLANTED EQUAL TO WITH DOT INSIDE",
    "0GREATER-THAN OR SLANTED EQUAL TO WITH DOT INSIDE|0LESS-THAN OR SLANTED EQUAL TO WITH DOT ABOVE",
    "0GREATER-THAN OR SLANTED EQUAL TO WITH DOT ABOVE|0LESS-THAN OR SLANTED EQUAL TO WITH DOT ABOVE RIGHT",
    "0GREATER-THAN OR SLANTED EQUAL TO WITH DOT ABOVE LEFT|0LESS-THAN OR APPROXIMATE",
    "0GREATER-THAN OR APPROXIMATE|0LESS-THAN AND SINGLE-LINE NOT EQUAL TO",
    "0GREATER-THAN AND SINGLE-LINE NOT EQUAL TO|0LESS-THAN AND NOT APPROXIMATE",
    "0GREATER-THAN AND NOT APPROXIMATE|0LESS-THAN ABOVE DOUBLE-LINE EQUAL ABOVE GREATER-THAN",
    "0GREATER-THAN ABOVE DOUBLE-LINE EQUAL ABOVE LESS-THAN|0LESS-THAN ABOVE SIMILAR OR EQUAL",
    "0GREATER-THAN ABOVE SIMILAR OR EQUAL|0LESS-THAN ABOVE SIMILAR ABOVE GREATER-THAN",
    "0GREATER-THAN ABOVE SIMILAR ABOVE LESS-THAN|0LESS-THAN ABOVE GREATER-THAN ABOVE DOUBLE-LINE EQUAL",
    "0GREATER-THAN ABOVE LESS-THAN ABOVE DOUBLE-LINE EQUAL",
    "0LESS-THAN ABOVE SLANTED EQUAL ABOVE GREATER-THAN ABOVE SLANTED EQUAL",
    "0GREATER-THAN ABOVE SLANTED EQUAL ABOVE LESS-THAN ABOVE SLANTED EQUAL|0SLANTED EQUAL TO OR LESS-THAN",
    "DGREATER-THAN|DLESS-THAN WITH DOT INSIDE|DGREATER-THAN WITH DOT INSIDE",
    "0DOUBLE-LINE EQUAL TO OR LESS-THAN|HGREATER-THAN|<SLANTED EQUAL TO OR LESS-THAN|PGREATER-THAN",
    "0SIMILAR OR LESS-THAN|;GREATER-THAN|8ABOVE LESS-THAN ABOVE EQUALS SIGN",
    ">GREATER-THAN ABOVE EQUALS SIGN|0DOUBLE NESTED LESS-THAN|>GREATER-THAN|>LESS-THAN WITH UNDERBAR",
    "0GREATER-THAN OVERLAPPING LESS-THAN|=BESIDE LESS-THAN|0LESS-THAN CLOSED BY CURVE",
    "0GREATER-THAN CLOSED BY CURVE|0LESS-THAN CLOSED BY CURVE ABOVE SLANTED EQUAL",
    "0GREATER-THAN CLOSED BY CURVE ABOVE SLANTED EQUAL|0SMALLER THAN|0LARGER THAN",
    "0SMALLER THAN OR EQUAL TO|0LARGER THAN OR EQUAL TO|0EQUALS SIGN WITH BUMPY ABOVE",
    "0PRECEDES ABOVE SINGLE-LINE EQUALS SIGN|0SUCCEEDS ABOVE SINGLE-LINE EQUALS SIGN",
    "0PRECEDES ABOVE SINGLE-LINE NOT EQUAL TO|0SUCCEEDS ABOVE SINGLE-LINE NOT EQUAL TO",
    "0PRECEDES ABOVE EQUALS SIGN|0SUCCEEDS ABOVE EQUALS SIGN|0PRECEDES ABOVE NOT EQUAL TO",
    "0SUCCEEDS ABOVE NOT EQUAL TO|0PRECEDES ABOVE ALMOST EQUAL TO|0SUCCEEDS ABOVE ALMOST EQUAL TO",
    "0PRECEDES ABOVE NOT ALMOST EQUAL TO|0SUCCEEDS ABOVE NOT ALMOST EQUAL TO|0DOUBLE PRECEDES|7SUCCEEDS",
    "0SUBSET WITH DOT|2PERSET WITH DOT|2BSET WITH PLUS SIGN BELOW|2PERSET WITH PLUS SIGN BELOW",
    "2BSET WITH MULTIPLICATION SIGN BELOW|2PERSET WITH MULTIPLICATION SIGN BELOW",
    "2BSET OF OR EQUAL TO WITH DOT ABOVE|2PERSET OF OR EQUAL TO WITH DOT ABOVE|2BSET OF ABOVE EQUALS SIGN",
    "2PERSET OF ABOVE EQUALS SIGN|2BSET OF ABOVE TILDE OPERATOR|2PERSET OF ABOVE TILDE OPERATOR",
    "2BSET OF ABOVE ALMOST EQUAL TO|2PERSET OF ABOVE ALMOST EQUAL TO|2BSET OF ABOVE NOT EQUAL TO",
    "2PERSET OF ABOVE NOT EQUAL TO|1QUARE LEFT OPEN BOX OPERATOR|7RIGHT OPEN BOX OPERATOR|0CLOSED SUBSET",
    "9PERSET|9BSET OR EQUAL TO|9PERSET OR EQUAL TO|0SUBSET ABOVE SUPERSET|2PERSET ABOVE SUBSET",
    "2BSET ABOVE SUBSET|2PERSET ABOVE SUPERSET|9BESIDE SUBSET|@AND JOINED BY DASH WITH SUBSET",
    "0ELEMENT OF OPENING DOWNWARDS|0PITCHFORK WITH TEE TOP|0TRANSVERSAL INTERSECTION|0FORKING|0NONFORKING",
    "0SHORT LEFT TACK|6DOWN TACK|6UP TACK|0PERPENDICULAR WITH S|0VERTICAL BAR TRIPLE RIGHT TURNSTILE",
    "0DOUBLE VERTICAL BAR LEFT TURNSTILE|0VERTICAL BAR DOUBLE LEFT TURNSTILE",
    "0DOUBLE VERTICAL BAR DOUBLE LEFT TURNSTILE|0LONG DASH FROM LEFT MEMBER OF DOUBLE VERTICAL",
    "0SHORT DOWN TACK WITH OVERBAR|6UP TACK WITH UNDERBAR|>ABOVE SHORT DOWN TACK|0DOUBLE DOWN TACK",
    "7UP TACK|7STROKE NOT SIGN|0REVERSED DOUBLE STROKE NOT SIGN",
    "0DOES NOT DIVIDE WITH REVERSED NEGATION SLASH|0VERTICAL LINE WITH CIRCLE ABOVE|JBELOW",
    "0DOWN TACK WITH CIRCLE BELOW|0PARALLEL WITH HORIZONTAL STROKE|>TILDE OPERATOR",
    "0TRIPLE VERTICAL BAR BINARY RELATION|DWITH HORIZONTAL STROKE|7COLON OPERATOR|7NESTED LESS-THAN",
    ">GREATER-THAN|0DOUBLE-LINE SLANTED LESS-THAN OR EQUAL TO|DGREATER-THAN OR EQUAL TO",
    "0TRIPLE SOLIDUS BINARY RELATION|0LARGE TRIPLE VERTICAL BAR OPERATOR|0DOUBLE SOLIDUS OPERATOR",
    "0WHITE VERTICAL BAR|0N-ARY WHITE VERTICAL BAR|1ORTH EAST WHITE ARROW|6WEST WHITE ARROW",
    "0SOUTH EAST WHITE ARROW|6WEST WHITE ARROW|0LEFT RIGHT WHITE ARROW|4WARDS BLACK ARROW",
    "0UPWARDS BLACK ARROW|0DOWNWARDS BLACK ARROW|0NORTH EAST BLACK ARROW|6WEST BLACK ARROW",
    "0SOUTH EAST BLACK ARROW|6WEST BLACK ARROW|0LEFT RIGHT BLACK ARROW|0UP DOWN BLACK ARROW",
    "0RIGHTWARDS ARROW WITH TIP DOWNWARDS|JUPWARDS|0LEFTWARDS ARROW WITH TIP DOWNWARDS|IUPWARDS",
    "0SQUARE WITH TOP HALF BLACK|<BOTTOM HALF BLACK|<UPPER RIGHT DIAGONAL HALF BLACK",
    "<LOWER LEFT DIAGONAL HALF BLACK|0DIAMOND WITH LEFT HALF BLACK|=RIGHT HALF BLACK|=TOP HALF BLACK",
    "=BOTTOM HALF BLACK|1OTTED SQUARE|0BLACK LARGE SQUARE|0WHITE LARGE SQUARE|0BLACK VERY SMALL SQUARE",
    "0WHITE VERY SMALL SQUARE|0BLACK PENTAGON|0WHITE PENTAGON|6HEXAGON|0BLACK HEXAGON",
    "0HORIZONTAL BLACK HEXAGON|0BLACK LARGE CIRCLE|6MEDIUM DIAMOND|0WHITE MEDIUM DIAMOND",
    "0BLACK MEDIUM LOZENGE|0WHITE MEDIUM LOZENGE|0BLACK SMALL DIAMOND|<LOZENGE|0WHITE SMALL LOZENGE",
    "0BLACK HORIZONTAL ELLIPSE|0WHITE HORIZONTAL ELLIPSE|0BLACK VERTICAL ELLIPSE|0WHITE VERTICAL ELLIPSE",
    "0LEFT ARROW WITH SMALL CIRCLE|0THREE LEFTWARDS ARROWS|0LEFT ARROW WITH CIRCLED PLUS",
    "1ONG LEFTWARDS SQUIGGLE ARROW|1EFTWARDS TWO-HEADED ARROW WITH VERTICAL STROKE",
    "PDOUBLE VERTICAL STROKE|KFROM BAR|ETRIPLE DASH ARROW|:ARROW WITH DOTTED STEM",
    "ETAIL WITH VERTICAL STROKE|ODOUBLE VERTICAL STROKE|:TWO-HEADED ARROW WITH TAIL",
    "T WITH VERTICAL STROKE|ZDOUBLE VERTICAL STROKE|:ARROW THROUGH X|0WAVE ARROW POINTING DIRECTLY LEFT",
    "0EQUALS SIGN ABOVE LEFTWARDS ARROW|0REVERSE TILDE OPERATOR ABOVE LEFTWARDS ARROW",
    "0LEFTWARDS ARROW ABOVE REVERSE ALMOST EQUAL TO|0RIGHTWARDS ARROW THROUGH GREATER-THAN|ISUPERSET",
    "0LEFTWARDS QUADRUPLE ARROW|0RIGHTWARDS QUADRUPLE ARROW|1EVERSE TILDE OPERATOR ABOVE RIGHTWARDS ARROW",
    "1IGHTWARDS ARROW ABOVE REVERSE ALMOST EQUAL TO|0TILDE OPERATOR ABOVE LEFTWARDS ARROW",
    "0LEFTWARDS ARROW ABOVE ALMOST EQUAL TO|FREVERSE TILDE OPERATOR",
    "0RIGHTWARDS ARROW ABOVE REVERSE TILDE OPERATOR|0DOWNWARDS TRIANGLE-HEADED ZIGZAG ARROW",
    "0SHORT SLANTED NORTH ARROW|6BACKSLANTED SOUTH ARROW|0WHITE MEDIUM STAR|0BLACK SMALL STAR",
    "0WHITE SMALL STAR|0BLACK RIGHT-POINTING PENTAGON|0WHITE RIGHT-POINTING PENTAGON|0HEAVY LARGE CIRCLE",
    "6OVAL WITH OVAL INSIDE|6CIRCLE WITH CIRCLE INSIDE|;E|<D SALTIRE",
    "0SLANTED NORTH ARROW WITH HOOKED HEAD|0BACKSLANTED SOUTH ARROW WITH HOOKED TAIL",
    "0SLANTED NORTH ARROW WITH HORIZONTAL TAIL|0BACKSLANTED SOUTH ARROW WITH HORIZONTAL TAIL",
    "1ENT ARROW POINTING DOWNWARDS THEN NORTH EAST|0SHORT BENT ARROW POINTING DOWNWARDS THEN NORTH EAST",
    "0LEFTWARDS TRIANGLE-HEADED ARROW|0UPWARDS TRIANGLE-HEADED ARROW|0RIGHTWARDS TRIANGLE-HEADED ARROW",
    "0DOWNWARDS TRIANGLE-HEADED ARROW|0LEFT RIGHT TRIANGLE-HEADED ARROW|0UP DOWN TRIANGLE-HEADED ARROW",
    "0NORTH WEST TRIANGLE-HEADED ARROW|6EAST TRIANGLE-HEADED ARROW|0SOUTH EAST TRIANGLE-HEADED ARROW",
    "6WEST TRIANGLE-HEADED ARROW|0LEFTWARDS TRIANGLE-HEADED DASHED ARROW",
    "0UPWARDS TRIANGLE-HEADED DASHED ARROW|0RIGHTWARDS TRIANGLE-HEADED DASHED ARROW",
    "0DOWNWARDS TRIANGLE-HEADED DASHED ARROW|0CLOCKWISE TRIANGLE-HEADED OPEN CIRCLE ARROW",
    "0ANTICLOCKWISE TRIANGLE-HEADED OPEN CIRCLE ARROW|0LEFTWARDS TRIANGLE-HEADED ARROW TO BAR",
    "0UPWARDS TRIANGLE-HEADED ARROW TO BAR|0RIGHTWARDS TRIANGLE-HEADED ARROW TO BAR",
    "0DOWNWARDS TRIANGLE-HEADED ARROW TO BAR|||0NORTH WEST TRIANGLE-HEADED ARROW TO BAR",
    "6EAST TRIANGLE-HEADED ARROW TO BAR|0SOUTH EAST TRIANGLE-HEADED ARROW TO BAR",
    "6WEST TRIANGLE-HEADED ARROW TO BAR|0LEFTWARDS TRIANGLE-HEADED ARROW WITH DOUBLE HORIZONTAL STROKE",
    "0UPWARDS TRIANGLE-HEADED ARROW WITH DOUBLE HORIZONTAL STROKE",
    "0RIGHTWARDS TRIANGLE-HEADED ARROW WITH DOUBLE HORIZONTAL STROKE",
    "0DOWNWARDS TRIANGLE-HEADED ARROW WITH DOUBLE HORIZONTAL STROKE|0HORIZONTAL TAB KEY|0VERTICAL TAB KEY",
    "0LEFTWARDS TRIANGLE-HEADED ARROW OVER RIGHTWARDS TRIANGLE-HEADED ARROW",
    "0UPWARDS TRIANGLE-HEADED ARROW LEFTWARDS OF DOWNWARDS TRIANGLE-HEADED ARROW",
    "0RIGHTWARDS TRIANGLE-HEADED ARROW OVER LEFTWARDS TRIANGLE-HEADED ARROW",
    "0DOWNWARDS TRIANGLE-HEADED ARROW LEFTWARDS OF UPWARDS TRIANGLE-HEADED ARROW",
    "0LEFTWARDS TRIANGLE-HEADED PAIRED ARROWS|0UPWARDS TRIANGLE-HEADED PAIRED ARROWS",
    "0RIGHTWARDS TRIANGLE-HEADED PAIRED ARROWS|0DOWNWARDS TRIANGLE-HEADED PAIRED ARROWS",
    "0LEFTWARDS BLACK CIRCLED WHITE ARROW|0UPWARDS BLACK CIRCLED WHITE ARROW",
    "0RIGHTWARDS BLACK CIRCLED WHITE ARROW|0DOWNWARDS BLACK CIRCLED WHITE ARROW",
    "0ANTICLOCKWISE TRIANGLE-HEADED RIGHT U-SHAPED ARROW|NBOTTOM U-SHAPED ARROW|NLEFT U-SHAPED ARROW",
    "NTOP U-SHAPED ARROW|0RETURN LEFT|7RIGHT|0NEWLINE LEFT|8RIGHT",
    "0FOUR CORNER ARROWS CIRCLING ANTICLOCKWISE|0RIGHTWARDS BLACK ARROW||0SYMBOL FOR TYPE A ELECTRONICS",
    "0THREE-D TOP-LIGHTED LEFTWARDS EQUILATERAL ARROWHEAD|8RIGHT-LIGHTED UPWARDS EQUILATERAL ARROWHEAD",
    "8TOP-LIGHTED RIGHTWARDS EQUILATERAL ARROWHEAD|8LEFT-LIGHTED DOWNWARDS EQUILATERAL ARROWHEAD",
    "0BLACK LEFTWARDS EQUILATERAL ARROWHEAD|6UPWARDS EQUILATERAL ARROWHEAD",
    "6RIGHTWARDS EQUILATERAL ARROWHEAD|6DOWNWARDS EQUILATERAL ARROWHEAD",
    "0DOWNWARDS TRIANGLE-HEADED ARROW WITH LONG TIP LEFTWARDS|^RIGHTWARDS",
    "0UPWARDS TRIANGLE-HEADED ARROW WITH LONG TIP LEFTWARDS|[ RIGHTWARDS",
    "0LEFTWARDS TRIANGLE-HEADED ARROW WITH LONG TIP UPWARDS",
    "0RIGHTWARDS TRIANGLE-HEADED ARROW WITH LONG TIP UPWARDS",
    "0LEFTWARDS TRIANGLE-HEADED ARROW WITH LONG TIP DOWNWARDS",
    "0RIGHTWARDS TRIANGLE-HEADED ARROW WITH LONG TIP DOWNWARDS",
    "0BLACK CURVED DOWNWARDS AND LEFTWARDS ARROW|KRIGHTWARDS ARROW|=UPWARDS AND LEFTWARDS ARROW",
    "IRIGHTWARDS ARROW|=LEFTWARDS AND UPWARDS ARROW|=RIGHTWARDS AND UPWARDS ARROW",
    "=LEFTWARDS AND DOWNWARDS ARROW|=RIGHTWARDS AND DOWNWARDS ARROW|0RIBBON ARROW DOWN LEFT|BRIGHT",
    "=UP LEFT|@RIGHT|=LEFT UP|=RIGHT UP|=LEFT DOWN|=RIGHT DOWN",
    "0UPWARDS WHITE ARROW FROM BAR WITH HORIZONTAL BAR|2 ARROWHEAD IN A RECTANGLE BOX",
    "0OVERLAPPING WHITE SQUARES|BAND BLACK SQUARES|<BLACK SQUARES|0BALLOT BOX WITH LIGHT X|0CIRCLED X",
    "8BOLD X|0BLACK SQUARE CENTRED|6DIAMOND CENTRED|0TURNED BLACK PENTAGON|0HORIZONTAL BLACK OCTAGON",
    "0BLACK OCTAGON|6MEDIUM UP-POINTING TRIANGLE CENTRED|=DOWN-POINTING TRIANGLE CENTRED",
    "=LEFT-POINTING TRIANGLE CENTRED|=RIGHT-POINTING TRIANGLE CENTRED|0NEPTUNE FORM TWO",
    "0TOP HALF BLACK CIRCLE|0BOTTOM HALF BLACK CIRCLE|0LIGHT FOUR POINTED BLACK CUSP",
    "0ROTATED LIGHT FOUR POINTED BLACK CUSP|0WHITE FOUR POINTED CUSP|0ROTATED WHITE FOUR POINTED CUSP",
    "0SQUARE POSITION INDICATOR|0UNCERTAINTY SIGN|0GROUP MARK|0PLUTO FORM TWO|<HREE|;FOUR|<IVE",
    "0TRANSPLUTO|0PROSERPINA|0ASTRAEA|0HYGIEA|0PHOLUS|0NESSUS|0WHITE MOON SELENA|0BLACK DIAMOND ON CROSS",
    "0TRUE LIGHT MOON ARTA|0CUPIDO|0HADES|0ZEUS|0KRONOS|0APOLLON|1DMETOS|0VULCANUS|0POSEIDON",
    "0LEFT HALF BLACK STAR|0RIGHT HALF BLACK STAR|0STAR WITH LEFT HALF BLACK|:RIGHT HALF BLACK",
    "0LEFTWARDS TWO-HEADED ARROW WITH TRIANGLE ARROWHEADS",
    "0UPWARDS TWO-HEADED ARROW WITH TRIANGLE ARROWHEADS",
    "0RIGHTWARDS TWO-HEADED ARROW WITH TRIANGLE ARROWHEADS",
    "0DOWNWARDS TWO-HEADED ARROW WITH TRIANGLE ARROWHEADS|0ERIS FORM ONE|:TWO|0SEDNA",
    "0RUSSIAN ASTROLOGICAL SYMBOL VIGINTILE|LNOVILE|LQUINTILE|LBINOVILE|LSENTAGON|LTREDECILE",
    "0EQUALS SIGN WITH INFINITY BELOW|0UNITED SYMBOL|0SEPARATED SYMBOL|0DOUBLED SYMBOL|0PASSED SYMBOL",
    "0REVERSED RIGHT ANGLE|0HELLSCHREIBER PAUSE SYMBOL"])]

end AccessorForge.Text.CharName.Shapes

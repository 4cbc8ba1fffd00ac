/-! Names of characters: scripts of late additions, pictographs and tags. -/
namespace AccessorForge.Text.CharName.Pictographs

def runs : List (Nat × List String) := [
  (0x1e000, ["0COMBINING GLAGOLITIC LETTER AZU|LBUKY|LVEDE|LGLAGOLI|LDOBRO|LYESTU|LZHIVETE||MEMLJA|LIZHE",
    "MNITIAL IZHE|LI|LDJERVI|LKAKO|LLJUDIJE|LMYSLITE|LNASHI|LONU|LPOKOJI|LRITSI|LSLOVO|LTVRIDO|LUKU",
    "LFRITU|LHERU|||LSHTA|LTSI|LCHRIVI|LSHA|LYERU|OI|MATI||MU|LSMALL YUS||LYO|LIOTATED SMALL YUS|LBIG YUS",
    "LIOTATED BIG YUS|LFITA"]),
  (0x1e100, ["0NYIAKENG PUACHUE HMONG LETTER MA|NTSA|NNTA|NTA|NHA|NNA|NXA|NNKA|NCA|NLA|NSA|NZA|NNCA|OTSA|NKA|NDA",
    "NNYA|ORA|NVA|NNTXA|NTXA|NFA|NRA|NQA|NYA|NNQA|NPA|NXYA|NNPA|NDLA|NNPLA|NHAH|NMLA|NPLA|NGA|NRRA|NA|OA",
    "NI|NU|NO|OO|NE|OE|NW||||GTONE-B|LM|LJ|LV|LS|LG|LD|GSIGN FOR PERSON|PTHING|PLOCATION|PANIMAL",
    "PINVERTEBRATE|LXW XW|HYLLABLE LENGTHENER|||GDIGIT ZERO|MONE|MTWO|NHREE|MFOUR|NIVE|MSIX|NEVEN|MEIGHT",
    "MNINE|||||GLOGOGRAM NYAJ|GCIRCLED CA"]),
  (0x1e290, ["0TOTO LETTER PA|<BA|<TA|<DA|<KA|<GA|<MA|<NA|=GA|<SA|<CHA|<YA|<WA|<JA|<HA|<RA|<LA|<I|<BREATHY I|<IU",
    "<BREATHY IU|<U|<E|<BREATHY E|<EO|<BREATHY EO|<O|<AE|<BREATHY AE|<A|5SIGN RISING TONE"]),
  (0x1e2c0, ["0WANCHO LETTER AA|>A|>BA|>CA|>DA|>GA|>YA|>PHA|>LA|>NA|>PA|>TA|?HA|>FA|>SA|?HA|>JA|>ZA|>WA|>VA|>KA|>O",
    ">AU|>RA|>MA|>KHA|>HA|>E|>I|>NGA|>U|>LLHA|>TSA|?RA|>ONG|>AANG|?NG|>ING|>ON|>EN|>AAN|>NYA|>UEN|>YIH",
    "7TONE TUP|?NI|<KOI|?NI|7DIGIT ZERO|=ONE|=TWO|>HREE|=FOUR|>IVE|=SIX|>EVEN|=EIGHT|=NINE|||||",
    "7NGUN SIGN"]),
  (0x1e7e0, ["0ETHIOPIC SYLLABLE HHYA|EU|EI|EAA|EEE|EE|EO||BGURAGE HHWA|BHHWI|EEE|EE||BGURAGE MWI|KEE||IQWI|KEE|KE",
    "IBWI|KEE|IKWI|KEE|KE|IGWI|KEE|KE|IFWI|KEE|IPWI|KEE||0MENDE KIKAKUI SYLLABLE M001 KI|J2 KA|J3 KU",
    "I65 KEE|I95 KE|I76 KOO|I48 KO|H179 KUA|H004 WI|J5 WA|J6 WU|H126 WEE|I18 WE|J4 WOO|H045 WO|H194 WUI",
    "I43 WEI|H061 WVI|I49 WVA|H139 WVE|H007 MIN|J8 MAN|J9 MUN|I59 MEN|I94 MON|H154 MUAN|I89 MUEN|H010 BI",
    "J1 BA|J2 BU|H150 BEE|H097 BE|H103 BOO|I38 BO|H013 I|J4 A|J5 U|H163 EE|I00 E|I65 OO|I47 O|I37 EI",
    "J1 IN|J5 IN|I95 AN|I78 EN|H019 SI|I20 SA|J1 SU|H162 SEE|I16 SE|I36 SOO|H079 SO|H196 SIA|H025 LI",
    "J6 LA|J7 LU|I84 LEE|I73 LE|I54 LOO|H153 LO|I10 LONG LE|H016 DI|J7 DA|J8 DU|I89 DEE|H180 DOO|J1 DO",
    "H022 TI|J3 TA|J4 TU|I91 TEE|I55 TE|H104 TOO|H069 TO|I28 JI|J9 JA|I30 JU|H157 JEE|I13 JE|I60 JOO",
    "H063 JO|H175 LONG JO|H031 YI|J2 YA|J3 YU|H109 YEE|H080 YE|H141 YOO|I21 YO|H034 FI|J5 FA|J6 FU",
    "I78 FEE|J5 FE|H133 FOO|H088 FO|H197 FUA|I01 FAN|H037 NIN|J8 NAN|J9 NUN|H117 NEN|I69 NON|I76 HI",
    "H041 HA|H186 HU|H040 HEE|I96 HE|I42 HOO|H140 HO|H083 HEEI|H128 HOOU|H053 HIN|H130 HAN|H087 HUN",
    "I52 HEN|H193 HON|H046 HUAN|I90 NGGI|I43 NGGA|I82 NGGU|H115 NGGEE|I46 NGGE|I56 NGGOO|I20 NGGO",
    "I59 NGGAA|I27 NGGUA|H086 LONG NGGE|H106 LONG NGGOO|I83 LONG NGGO|I55 GI|I11 GA|I68 GU|I90 GEE",
    "I66 GUEI|J7 GUAN|I84 NGEN|H057 NGON|H177 NGUAN|H068 PI|I99 PA|I50 PU|I81 PEE|I51 PE|H102 POO|H066 PO",
    "H145 MBI|H062 MBA|H122 MBU|H047 MBEE|H188 MBEE|H072 MBE|H172 MBOO|J4 MBO|I87 MBUU|I61 LONG MBE",
    "I05 LONG MBOO|I42 LONG MBO|I32 KPI|H092 KPA|I74 KPU|I44 KPEE|H108 KPE|I12 KPOO|I58 KPO|I24 GBI",
    "H056 GBA|H148 GBU|H093 GBEE|H107 GBE|H071 GBOO|J0 GBO|H171 RA|I23 NDI|J9 NDA|J5 NDU|I91 NDEE|I19 NDE",
    "H067 NDOO|J4 NDO|H152 NJA|I92 NJU|I49 NJEE|I34 NJOO|I82 VI|J5 VA|I51 VU|I73 VEE|H085 VE|H144 VOO",
    "H077 VO|H164 NYIN|H058 NYAN|H170 NYUN|H098 NYEN|I60 NYON|||>DIGIT ONE|DTWO|EHREE|DFOUR|EIVE|DSIX",
    "EEVEN|DEIGHT|DNINE|>COMBINING NUMBER TEENS|QNS|OHUNDREDS|OTHOUSANDS|PEN THOUSANDS|OHUNDRED THOUSANDS",
    "OMILLIONS"]),
  (0x1e900, ["0ADLAM CAPITAL LETTER ALIF|EDAALI|ELAAM|EMIIM|EBA|ESINNYIIYHE|EPE|EBHE|ERA|EE|EFA|EI|EO|EDHA|EYHE",
    "EWAW|ENUN|EKAF|EYA|EU|EJIIM|ECHI|EHA|EQAAF|EGA|ENYA|ETU|ENHA|EVA|EKHA|EGBE|EZAL|EKPO|ESHA",
    "6SMALL LETTER ALIF|CDAALI|CLAAM|CMIIM|CBA|CSINNYIIYHE|CPE|CBHE|CRA|CE|CFA|CI|CO|CDHA|CYHE|CWAW|CNUN",
    "CKAF|CYA|CU|CJIIM|CCHI|CHA|CQAAF|CGA|CNYA|CTU|CNHA|CVA|CKHA|CGBE|CZAL|CKPO|CSHA|6ALIF LENGTHENER",
    "6VOWEL LENGTHENER|6GEMINATION MARK|6HAMZA|6CONSONANT MODIFIER|6GEMINATE CONSONANT MODIFIER|6NUKTA",
    "7ASALIZATION MARK|||||6DIGIT ZERO|<ONE|<TWO|=HREE|<FOUR|=IVE|<SIX|=EVEN|<EIGHT|<NINE||||",
    "6INITIAL EXCLAMATION MARK|>QUESTION MARK"]),
  (0x1ec71, ["0INDIC SIYAQ NUMBER ONE|CTWO|DHREE|CFOUR|DIVE|CSIX|DEVEN|CEIGHT|CNINE|CTEN|DWENTY|DHIRTY|CFORTY",
    "DIFTY|CSIXTY|DEVENTY|CEIGHTY|CNINETY|CONE HUNDRED|CTWO HUNDRED|DHREE HUNDRED|CFOUR HUNDRED",
    "DIVE HUNDRED|CSIX HUNDRED|DEVEN HUNDRED|CEIGHT HUNDRED|CNINE HUNDRED|CONE THOUSAND|CTWO THOUSAND",
    "DHREE THOUSAND|CFOUR THOUSAND|DIVE THOUSAND|CSIX THOUSAND|DEVEN THOUSAND|CEIGHT THOUSAND",
    "CNINE THOUSAND|CTEN THOUSAND|DWENTY THOUSAND|DHIRTY THOUSAND|CFORTY THOUSAND|DIFTY THOUSAND",
    "CSIXTY THOUSAND|DEVENTY THOUSAND|CEIGHTY THOUSAND|CNINETY THOUSAND|CLAKH|GAN|<LAKH MARK",
    "<NUMBER KAROR|HAN|CPREFIXED ONE|LTWO|MHREE|LFOUR|MIVE|LSIX|MEVEN|LEIGHT|LNINE|<PLACEHOLDER",
    "<FRACTION ONE QUARTER|IHALF|ETHREE QUARTERS|<RUPEE MARK|<NUMBER ALTERNATE ONE|MTWO|NEN THOUSAND",
    "<ALTERNATE LAKH MARK"]),
  (0x1ed01, ["0OTTOMAN SIYAQ NUMBER ONE|ETWO|FHREE|EFOUR|FIVE|ESIX|FEVEN|EEIGHT|ENINE|ETEN|FWENTY|FHIRTY|EFORTY",
    "FIFTY|ESIXTY|FEVENTY|EEIGHTY|ENINETY|EONE HUNDRED|ETWO HUNDRED|FHREE HUNDRED|EFOUR HUNDRED",
    "FIVE HUNDRED|ESIX HUNDRED|FEVEN HUNDRED|EEIGHT HUNDRED|ENINE HUNDRED|EONE THOUSAND|ETWO THOUSAND",
    "FHREE THOUSAND|EFOUR THOUSAND|FIVE THOUSAND|ESIX THOUSAND|FEVEN THOUSAND|EEIGHT THOUSAND",
    "ENINE THOUSAND|ETEN THOUSAND|FWENTY THOUSAND|FHIRTY THOUSAND|EFORTY THOUSAND|FIFTY THOUSAND",
    "ESIXTY THOUSAND|FEVENTY THOUSAND|EEIGHTY THOUSAND|ENINETY THOUSAND|>MARRATAN|>ALTERNATE NUMBER TWO",
    "PHREE|OFOUR|PIVE|OSIX|PEVEN|OEIGHT|ONINE|OTEN|OFOUR HUNDRED|OSIX HUNDRED|OTWO THOUSAND|PEN THOUSAND",
    ">FRACTION ONE HALF|KSIXTH"]),
  (0x1ee00, ["0ARABIC MATHEMATICAL ALEF|DBEH|DJEEM|DDAL||DWAW|DZAIN|DHAH|DTAH|DYEH|DKAF|DLAM|DMEEM|DNOON|DSEEN",
    "DAIN|DFEH|DSAD|DQAF|DREH|DSHEEN|DTEH|EHEH|DKHAH|DTHAL|DDAD|DZAH|DGHAIN|DDOTLESS BEH|LNOON|LFEH|LQAF|",
    "DINITIAL BEH|LJEEM||LHEH|||MAH||LYEH|LKAF|LLAM|LMEEM|LNOON|LSEEN|LAIN|LFEH|LSAD|LQAF||LSHEEN|LTEH",
    "MHEH|LKHAH||LDAD||LGHAIN|||||||DTAILED JEEM|||||KHAH||KYEH||KLAM||KNOON|KSEEN|KAIN||KSAD|KQAF|",
    "KSHEEN|||KKHAH||KDAD||KGHAIN||KDOTLESS NOON||SQAF||DSTRETCHED BEH|NJEEM||NHEH|||OAH|NTAH|NYEH|NKAF|",
    "NMEEM|NNOON|NSEEN|NAIN|NFEH|NSAD|NQAF||NSHEEN|NTEH|OHEH|NKHAH||NDAD|NZAH|NGHAIN|NDOTLESS BEH||VFEH|",
    "DLOOPED ALEF|KBEH|KJEEM|KDAL|KHEH|KWAW|KZAIN|KHAH|KTAH|KYEH||KLAM|KMEEM|KNOON|KSEEN|KAIN|KFEH|KSAD",
    "KQAF|KREH|KSHEEN|KTEH|LHEH|KKHAH|KTHAL|KDAD|KZAH|KGHAIN||||||DDOUBLE-STRUCK BEH|RJEEM|RDAL||RWAW",
    "RZAIN|RHAH|RTAH|RYEH||RLAM|RMEEM|RNOON|RSEEN|RAIN|RFEH|RSAD|RQAF|RREH|RSHEEN|RTEH|SHEH|RKHAH|RTHAL",
    "RDAD|RZAH|RGHAIN"]),
  (0x1eef0, ["0ARABIC MATHEMATICAL OPERATOR MEEM WITH HAH WITH TATWEEL|MHAH WITH DAL"]),
  (0x1f000, ["0MAHJONG TILE EAST WIND|=SOUTH WIND|=WEST WIND|=NORTH WIND|=RED DRAGON|=GREEN DRAGON|=WHITE DRAGON",
    "=ONE OF CHARACTERS|=TWO OF CHARACTERS|>HREE OF CHARACTERS|=FOUR OF CHARACTERS|>IVE OF CHARACTERS",
    "=SIX OF CHARACTERS|>EVEN OF CHARACTERS|=EIGHT OF CHARACTERS|=NINE OF CHARACTERS|=ONE OF BAMBOOS",
    "=TWO OF BAMBOOS|>HREE OF BAMBOOS|=FOUR OF BAMBOOS|>IVE OF BAMBOOS|=SIX OF BAMBOOS|>EVEN OF BAMBOOS",
    "=EIGHT OF BAMBOOS|=NINE OF BAMBOOS|=ONE OF CIRCLES|=TWO OF CIRCLES|>HREE OF CIRCLES|=FOUR OF CIRCLES",
    ">IVE OF CIRCLES|=SIX OF CIRCLES|>EVEN OF CIRCLES|=EIGHT OF CIRCLES|=NINE OF CIRCLES|=PLUM|=ORCHID",
    "=BAMBOO|=CHRYSANTHEMUM|=SPRING|>UMMER|=AUTUMN|=WINTER|=JOKER|=BACK|||||0DOMINO TILE HORIZONTAL BACK",
    "F-00-00|K1|K2|K3|K4|K5|K6|H1-00|K1|K2|K3|K4|K5|K6|H2-00|K1|K2|K3|K4|K5|K6|H3-00|K1|K2|K3|K4|K5|K6",
    "H4-00|K1|K2|K3|K4|K5|K6|H5-00|K1|K2|K3|K4|K5|K6|H6-00|K1|K2|K3|K4|K5|K6|<VERTICAL BACK|D-00-00|I1|I2",
    "I3|I4|I5|I6|F1-00|I1|I2|I3|I4|I5|I6|F2-00|I1|I2|I3|I4|I5|I6|F3-00|I1|I2|I3|I4|I5|I6|F4-00|I1|I2|I3",
    "I4|I5|I6|F5-00|I1|I2|I3|I4|I5|I6|F6-00|I1|I2|I3|I4|I5|I6"]),
  (0x1f0a0, ["0PLAYING CARD BACK|=ACE OF SPADES|=TWO OF SPADES|>HREE OF SPADES|=FOUR OF SPADES|>IVE OF SPADES",
    "=SIX OF SPADES|>EVEN OF SPADES|=EIGHT OF SPADES|=NINE OF SPADES|=TEN OF SPADES|=JACK OF SPADES",
    "=KNIGHT OF SPADES|=QUEEN OF SPADES|=KING OF SPADES|||=ACE OF HEARTS|=TWO OF HEARTS|>HREE OF HEARTS",
    "=FOUR OF HEARTS|>IVE OF HEARTS|=SIX OF HEARTS|>EVEN OF HEARTS|=EIGHT OF HEARTS|=NINE OF HEARTS",
    "=TEN OF HEARTS|=JACK OF HEARTS|=KNIGHT OF HEARTS|=QUEEN OF HEARTS|=KING OF HEARTS|=RED JOKER|",
    "=ACE OF DIAMONDS|=TWO OF DIAMONDS|>HREE OF DIAMONDS|=FOUR OF DIAMONDS|>IVE OF DIAMONDS",
    "=SIX OF DIAMONDS|>EVEN OF DIAMONDS|=EIGHT OF DIAMONDS|=NINE OF DIAMONDS|=TEN OF DIAMONDS",
    "=JACK OF DIAMONDS|=KNIGHT OF DIAMONDS|=QUEEN OF DIAMONDS|=KING OF DIAMONDS|=BLACK JOKER|",
    "=ACE OF CLUBS|=TWO OF CLUBS|>HREE OF CLUBS|=FOUR OF CLUBS|>IVE OF CLUBS|=SIX OF CLUBS|>EVEN OF CLUBS",
    "=EIGHT OF CLUBS|=NINE OF CLUBS|=TEN OF CLUBS|=JACK OF CLUBS|=KNIGHT OF CLUBS|=QUEEN OF CLUBS",
    "=KING OF CLUBS|=WHITE JOKER|=FOOL|=TRUMP-1|C2|C3|C4|C5|C6|C7|C8|C9|C10|D1|D2|D3|D4|D5|D6|D7|D8|D9",
    "C20|D1"]),
  (0x1f100, ["0DIGIT ZERO FULL STOP|;COMMA|6ONE COMMA|6TWO COMMA|7HREE COMMA|6FOUR COMMA|7IVE COMMA|6SIX COMMA",
    "7EVEN COMMA|6EIGHT COMMA|6NINE COMMA|2NGBAT CIRCLED SANS-SERIF DIGIT ZERO",
    "8NEGATIVE CIRCLED SANS-SERIF DIGIT ZERO|0CIRCLED ZERO WITH SLASH|8ANTICLOCKWISE ARROW",
    "8DOLLAR SIGN WITH OVERLAID BACKSLASH|0PARENTHESIZED LATIN CAPITAL LETTER A|SB|SC|SD|SE|SF|SG|SH|SI",
    "SJ|SK|SL|SM|SN|SO|SP|SQ|SR|SS|ST|SU|SV|SW|SX|SY|SZ|0TORTOISE SHELL BRACKETED LATIN CAPITAL LETTER S",
    "0CIRCLED ITALIC LATIN CAPITAL LETTER C|TR|8CD|8WZ|1OPYLEFT SYMBOL|0SQUARED LATIN CAPITAL LETTER A|MB",
    "MC|MD|ME|MF|MG|MH|MI|MJ|MK|ML|MM|MN|MO|MP|MQ|MR|MS|MT|MU|MV|MW|MX|MY|MZ|8HV|8MV|8SD|9S|8PPV|8WC",
    "0NEGATIVE CIRCLED LATIN CAPITAL LETTER A|VB|VC|VD|VE|VF|VG|VH|VI|VJ|VK|VL|VM|VN|VO|VP|VQ|VR|VS|VT|VU",
    "VV|VW|VX|VY|VZ|0RAISED MC SIGN|8D SIGN|8R SIGN|0CIRCLED CC|9 WITH OVERLAID BACKSLASH|8HUMAN FIGURE",
    "0NEGATIVE SQUARED LATIN CAPITAL LETTER A|VB|VC|VD|VE|VF|VG|VH|VI|VJ|VK|VL|VM|VN|VO|VP|VQ|VR|VS|VT|VU",
    "VV|VW|VX|VY|VZ|0CROSSED NEGATIVE SQUARED LATIN CAPITAL LETTER P|0NEGATIVE SQUARED IC|APA|ASA|AAB|AWC",
    "0SQUARE DJ|6D CL|9OOL|8FREE|8ID|8NEW|9G|8OK|8SOS|8UP WITH EXCLAMATION MARK|8VS|8THREE D",
    "8SECOND SCREEN|8TWO K|8FOUR K|8EIGHT K|8FIVE POINT ONE|8SEVEN POINT ONE|8TWENTY-TWO POINT TWO",
    "8SIXTY P|8ONE HUNDRED TWENTY P|8LATIN SMALL LETTER D|8HC|9DR|9I-RES|8LOSSLESS|8SHV|8UHD|8VOD",
    "0MASK WORK SYMBOL"]),
  (0x1f1e6, ["0REGIONAL INDICATOR SYMBOL LETTER A|QB|QC|QD|QE|QF|QG|QH|QI|QJ|QK|QL|QM|QN|QO|QP|QQ|QR|QS|QT|QU|QV",
    "QW|QX|QY|QZ|0SQUARE HIRAGANA HOKA|6D KATAKANA KOKO|ASA"]),
  (0x1f210, ["0SQUARED CJK UNIFIED IDEOGRAPH-624B|N5B57|O3CC|8KATAKANA DE|8CJK UNIFIED IDEOGRAPH-4E8C|N591A|N89E3",
    "N5929|N4EA4|N6620|N7121|N6599|N524D|OF8C|O18D|N65B0|N521D|N7D42|O51F|N8CA9|N58F0|O439|N6F14|O295",
    "O355|N4E00|Q9|N904A|N5DE6|N4E2D|N53F3|N6307|N8D70|N6253|N7981|OA7A|N5408|N6E80|O709|Q8|N7533|N5272",
    "O5B6|N914D|||||0TORTOISE SHELL BRACKETED CJK UNIFIED IDEOGRAPH-672C|_4E09|a8C|_5B89|_70B9|_6253",
    "_76D7|_52DD|_6557||||||||0CIRCLED IDEOGRAPH ADVANTAGE|CCCEPT"]),
  (0x1f260, ["0ROUNDED SYMBOL FOR FU|CLU|CSHOU|CXI|CSHUANGXI|CCAI"]),
  (0x1f300, ["0CYCLONE|0FOGGY|0CLOSED UMBRELLA|0NIGHT WITH STARS|0SUNRISE OVER MOUNTAINS|6E|0CITYSCAPE AT DUSK",
    "0SUNSET OVER BUILDINGS|0RAINBOW|0BRIDGE AT NIGHT|0WATER WAVE|0VOLCANO|0MILKY WAY",
    "0EARTH GLOBE EUROPE-AFRICA|<AMERICAS|=SIA-AUSTRALIA|0GLOBE WITH MERIDIANS|0NEW MOON SYMBOL",
    "0WAXING CRESCENT MOON SYMBOL|0FIRST QUARTER MOON SYMBOL|0WAXING GIBBOUS MOON SYMBOL",
    "0FULL MOON SYMBOL|0WANING GIBBOUS MOON SYMBOL|0LAST QUARTER MOON SYMBOL|0WANING CRESCENT MOON SYMBOL",
    "0CRESCENT MOON|0NEW MOON WITH FACE|0FIRST QUARTER MOON WITH FACE|0LAST QUARTER MOON WITH FACE",
    "0FULL MOON WITH FACE|0SUN WITH FACE|0GLOWING STAR|0SHOOTING STAR|0THERMOMETER|0BLACK DROPLET",
    "0WHITE SUN|9 WITH SMALL CLOUD|:BEHIND CLOUD|F WITH RAIN|0CLOUD WITH RAIN|;SNOW|;LIGHTNING|;TORNADO",
    "0FOG|0WIND BLOWING FACE|0HOT DOG|0TACO|0BURRITO|0CHESTNUT|0SEEDLING|0EVERGREEN TREE|0DECIDUOUS TREE",
    "0PALM TREE|0CACTUS|0HOT PEPPER|0TULIP|0CHERRY BLOSSOM|0ROSE|0HIBISCUS|0SUNFLOWER|0BLOSSOM",
    "0EAR OF MAIZE|7RICE|0HERB|0FOUR LEAF CLOVER|0MAPLE LEAF|0FALLEN LEAF|0LEAF FLUTTERING IN WIND",
    "0MUSHROOM|0TOMATO|0AUBERGINE|0GRAPES|0MELON|0WATERMELON|0TANGERINE|0LEMON|0BANANA|0PINEAPPLE",
    "0RED APPLE|0GREEN APPLE|0PEAR|3CH|0CHERRIES|0STRAWBERRY|0HAMBURGER|0SLICE OF PIZZA|0MEAT ON BONE",
    "0POULTRY LEG|0RICE CRACKER|5BALL|0COOKED RICE|1URRY AND RICE|0STEAMING BOWL|1PAGHETTI|0BREAD",
    "0FRENCH FRIES|0ROASTED SWEET POTATO|0DANGO|0ODEN|0SUSHI|0FRIED SHRIMP|1ISH CAKE WITH SWIRL DESIGN",
    "0SOFT ICE CREAM|1HAVED ICE|0ICE CREAM|0DOUGHNUT|0COOKIE|1HOCOLATE BAR|1ANDY|0LOLLIPOP|0CUSTARD",
    "0HONEY POT|0SHORTCAKE|0BENTO BOX|0POT OF FOOD|0COOKING|0FORK AND KNIFE|0TEACUP WITHOUT HANDLE",
    "0SAKE BOTTLE AND CUP|0WINE GLASS|0COCKTAIL GLASS|0TROPICAL DRINK|0BEER MUG|0CLINKING BEER MUGS",
    "0BABY BOTTLE|0FORK AND KNIFE WITH PLATE|0BOTTLE WITH POPPING CORK|0POPCORN|0RIBBON|0WRAPPED PRESENT",
    "0BIRTHDAY CAKE|0JACK-O-LANTERN|0CHRISTMAS TREE|0FATHER CHRISTMAS|1IREWORKS|8 SPARKLER|0BALLOON",
    "0PARTY POPPER|0CONFETTI BALL|0TANABATA TREE|0CROSSED FLAGS|0PINE DECORATION|0JAPANESE DOLLS",
    "0CARP STREAMER|0WIND CHIME|0MOON VIEWING CEREMONY|0SCHOOL SATCHEL|0GRADUATION CAP",
    "0HEART WITH TIP ON THE LEFT|0BOUQUET OF FLOWERS|0MILITARY MEDAL|0REMINDER RIBBON",
    "0MUSICAL KEYBOARD WITH JACKS|0STUDIO MICROPHONE|0LEVEL SLIDER|0CONTROL KNOBS",
    "0BEAMED ASCENDING MUSICAL NOTES|7DESCENDING MUSICAL NOTES|0FILM FRAMES|0ADMISSION TICKETS",
    "0CAROUSEL HORSE|0FERRIS WHEEL|0ROLLER COASTER|0FISHING POLE AND FISH|0MICROPHONE|1OVIE CAMERA",
    "0CINEMA|0HEADPHONE|0ARTIST PALETTE|0TOP HAT|0CIRCUS TENT|0TICKET|0CLAPPER BOARD|0PERFORMING ARTS",
    "0VIDEO GAME|0DIRECT HIT|0SLOT MACHINE|0BILLIARDS|0GAME DIE|0BOWLING|0FLOWER PLAYING CARDS",
    "0MUSICAL NOTE|2LTIPLE MUSICAL NOTES|0SAXOPHONE|0GUITAR|0MUSICAL KEYBOARD|0TRUMPET|0VIOLIN",
    "0MUSICAL SCORE|0RUNNING SHIRT WITH SASH|0TENNIS RACQUET AND BALL|0SKI AND SKI BOOT",
    "0BASKETBALL AND HOOP|0CHEQUERED FLAG|0SNOWBOARDER|0RUNNER|0SURFER|1PORTS MEDAL|0TROPHY|0HORSE RACING",
    "0AMERICAN FOOTBALL|0RUGBY FOOTBALL|0SWIMMER|0WEIGHT LIFTER|0GOLFER|0RACING MOTORCYCLE|7CAR",
    "0CRICKET BAT AND BALL|0VOLLEYBALL|0FIELD HOCKEY STICK AND BALL|0ICE HOCKEY STICK AND PUCK",
    "0TABLE TENNIS PADDLE AND BALL|0SNOW CAPPED MOUNTAIN|0CAMPING|0BEACH WITH UMBRELLA",
    "1UILDING CONSTRUCTION|0HOUSE BUILDINGS|0CITYSCAPE|0DERELICT HOUSE BUILDING|0CLASSICAL BUILDING",
    "0DESERT|6 ISLAND|0NATIONAL PARK|0STADIUM|0HOUSE BUILDING|6WITH GARDEN|0OFFICE BUILDING",
    "0JAPANESE POST OFFICE|0EUROPEAN POST OFFICE|0HOSPITAL|0BANK|0AUTOMATED TELLER MACHINE|0HOTEL",
    "0LOVE HOTEL|0CONVENIENCE STORE|0SCHOOL|0DEPARTMENT STORE|0FACTORY|0IZAKAYA LANTERN|0JAPANESE CASTLE",
    "0EUROPEAN CASTLE|0WHITE PENNANT|0BLACK PENNANT|0WAVING WHITE FLAG|7BLACK FLAG|0ROSETTE",
    "0BLACK ROSETTE|0LABEL|0BADMINTON RACQUET AND SHUTTLECOCK|1OW AND ARROW|0AMPHORA",
    "0EMOJI MODIFIER FITZPATRICK TYPE-1-2|P3|P4|P5|P6|0RAT|0MOUSE|0OX|0WATER BUFFALO|0COW|0TIGER|0LEOPARD",
    "0RABBIT|0CAT|0DRAGON|0CROCODILE|0WHALE|0SNAIL|3KE|0HORSE|0RAM|0GOAT|0SHEEP|0MONKEY|0ROOSTER|0CHICKEN",
    "0DOG|0PIG|0BOAR|0ELEPHANT|0OCTOPUS|0SPIRAL SHELL|0BUG|0ANT|0HONEYBEE|0LADY BEETLE|0FISH",
    "0TROPICAL FISH|0BLOWFISH|0TURTLE|0HATCHING CHICK|0BABY CHICK|0FRONT-FACING BABY CHICK|0BIRD|0PENGUIN",
    "0KOALA|0POODLE|0DROMEDARY CAMEL|0BACTRIAN CAMEL|0DOLPHIN|0MOUSE FACE|0COW FACE|0TIGER FACE",
    "0RABBIT FACE|0CAT FACE|0DRAGON FACE|0SPOUTING WHALE|0HORSE FACE|0MONKEY FACE|0DOG FACE|0PIG FACE",
    "0FROG FACE|0HAMSTER FACE|0WOLF FACE|0BEAR FACE|0PANDA FACE|1IG NOSE|1AW PRINTS|0CHIPMUNK|0EYES|2E",
    "1AR|0NOSE|0MOUTH|0TONGUE|0WHITE UP POINTING BACKHAND INDEX|6DOWN POINTING BACKHAND INDEX",
    "6LEFT POINTING BACKHAND INDEX|6RIGHT POINTING BACKHAND INDEX|0FISTED HAND SIGN|0WAVING HAND SIGN",
    "0OK HAND SIGN|0THUMBS UP SIGN|7DOWN SIGN|0CLAPPING HANDS SIGN|0OPEN HANDS SIGN|0CROWN|0WOMANS HAT",
    "0EYEGLASSES|0NECKTIE|0T-SHIRT|0JEANS|0DRESS|0KIMONO|0BIKINI|0WOMANS CLOTHES|0PURSE|0HANDBAG|0POUCH",
    "0MANS SHOE|0ATHLETIC SHOE|0HIGH-HEELED SHOE|0WOMANS SANDAL|7BOOTS|0FOOTPRINTS|0BUST IN SILHOUETTE",
    "4S IN SILHOUETTE|1OY|0GIRL|0MAN|0WOMAN|0FAMILY|0MAN AND WOMAN HOLDING HANDS|0TWO MEN HOLDING HANDS",
    "4WOMEN HOLDING HANDS|0POLICE OFFICER|0WOMAN WITH BUNNY EARS|0BRIDE WITH VEIL|0PERSON WITH BLOND HAIR",
    "0MAN WITH GUA PI MAO|9TURBAN|0OLDER MAN|6WOMAN|0BABY|0CONSTRUCTION WORKER|0PRINCESS|0JAPANESE OGRE",
    "9GOBLIN|0GHOST|0BABY ANGEL|0EXTRATERRESTRIAL ALIEN|0ALIEN MONSTER|0IMP|0SKULL",
    "0INFORMATION DESK PERSON|0GUARDSMAN|0DANCER|0LIPSTICK|0NAIL POLISH|0FACE MASSAGE|0HAIRCUT",
    "0BARBER POLE|0SYRINGE|0PILL|0KISS MARK|0LOVE LETTER|0RING|0GEM STONE|0KISS|0BOUQUET",
    "0COUPLE WITH HEART|0WEDDING|0BEATING HEART|1ROKEN HEART|0TWO HEARTS|0SPARKLING HEART|0GROWING HEART",
    "0HEART WITH ARROW|0BLUE HEART|0GREEN HEART|0YELLOW HEART|0PURPLE HEART|0HEART WITH RIBBON",
    "0REVOLVING HEARTS|0HEART DECORATION|0DIAMOND SHAPE WITH A DOT INSIDE|0ELECTRIC LIGHT BULB",
    "0ANGER SYMBOL|0BOMB|0SLEEPING SYMBOL|0COLLISION SYMBOL|0SPLASHING SWEAT SYMBOL|0DROPLET|1ASH SYMBOL",
    "0PILE OF POO|0FLEXED BICEPS|0DIZZY SYMBOL|0SPEECH BALLOON|0THOUGHT BALLOON|0WHITE FLOWER",
    "0HUNDRED POINTS SYMBOL|0MONEY BAG|0CURRENCY EXCHANGE|0HEAVY DOLLAR SIGN|0CREDIT CARD",
    "0BANKNOTE WITH YEN SIGN|>DOLLAR SIGN|>EURO SIGN|>POUND SIGN|0MONEY WITH WINGS",
    "0CHART WITH UPWARDS TREND AND YEN SIGN|0SEAT|0PERSONAL COMPUTER|0BRIEFCASE|0MINIDISC|0FLOPPY DISK",
    "0OPTICAL DISC|0DVD|0FILE FOLDER|0OPEN FILE FOLDER|0PAGE WITH CURL|5FACING UP|0CALENDAR",
    "0TEAR-OFF CALENDAR|0CARD INDEX|1HART WITH UPWARDS TREND|;DOWNWARDS TREND|0BAR CHART|0CLIPBOARD",
    "0PUSHPIN|0ROUND PUSHPIN|0PAPERCLIP|0STRAIGHT RULER|0TRIANGULAR RULER|0BOOKMARK TABS|0LEDGER",
    "0NOTEBOOK|8 WITH DECORATIVE COVER|0CLOSED BOOK|0OPEN BOOK|0GREEN BOOK|0BLUE BOOK|0ORANGE BOOK|0BOOKS",
    "0NAME BADGE|0SCROLL|0MEMO|0TELEPHONE RECEIVER|0PAGER|0FAX MACHINE|0SATELLITE ANTENNA",
    "0PUBLIC ADDRESS LOUDSPEAKER|0CHEERING MEGAPHONE|0OUTBOX TRAY|0INBOX TRAY|0PACKAGE|0E-MAIL SYMBOL",
    "0INCOMING ENVELOPE|0ENVELOPE WITH DOWNWARDS ARROW ABOVE|0CLOSED MAILBOX WITH LOWERED FLAG",
    "DRAISED FLAG|0OPEN MAILBOX WITH RAISED FLAG|BLOWERED FLAG|0POSTBOX|4AL HORN|0NEWSPAPER|0MOBILE PHONE",
    "< WITH RIGHTWARDS ARROW AT LEFT|0VIBRATION MODE|0MOBILE PHONE OFF|0NO MOBILE PHONES",
    "0ANTENNA WITH BARS|0CAMERA|6 WITH FLASH|0VIDEO CAMERA|0TELEVISION|0RADIO|0VIDEOCASSETTE",
    "0FILM PROJECTOR|0PORTABLE STEREO|1RAYER BEADS|0TWISTED RIGHTWARDS ARROWS",
    "0CLOCKWISE RIGHTWARDS AND LEFTWARDS OPEN CIRCLE ARROWS|e WITH CIRCLED ONE OVERLAY",
    ":DOWNWARDS AND UPWARDS OPEN CIRCLE ARROWS|0ANTICLOCKWISE DOWNWARDS AND UPWARDS OPEN CIRCLE ARROWS",
    "0LOW BRIGHTNESS SYMBOL|0HIGH BRIGHTNESS SYMBOL|0SPEAKER WITH CANCELLATION STROKE|6R",
    "7 WITH ONE SOUND WAVE|=THREE SOUND WAVES|0BATTERY|0ELECTRIC PLUG|0LEFT-POINTING MAGNIFYING GLASS",
    "0RIGHT-POINTING MAGNIFYING GLASS|0LOCK WITH INK PEN|0CLOSED LOCK WITH KEY|0KEY|0LOCK|0OPEN LOCK",
    "0BELL|4 WITH CANCELLATION STROKE|1OOKMARK|0LINK SYMBOL|0RADIO BUTTON",
    "0BACK WITH LEFTWARDS ARROW ABOVE|0END WITH LEFTWARDS ARROW ABOVE",
    "0ON WITH EXCLAMATION MARK WITH LEFT RIGHT ARROW ABOVE|0SOON WITH RIGHTWARDS ARROW ABOVE",
    "0TOP WITH UPWARDS ARROW ABOVE|0NO ONE UNDER EIGHTEEN SYMBOL|0KEYCAP TEN",
    "0INPUT SYMBOL FOR LATIN CAPITAL LETTERS|GSMALL LETTERS|ANUMBERS|ASYMBOLS|ALATIN LETTERS|0FIRE",
    "0ELECTRIC TORCH|0WRENCH|0HAMMER|0NUT AND BOLT|0HOCHO|0PISTOL|0MICROSCOPE|0TELESCOPE|0CRYSTAL BALL",
    "0SIX POINTED STAR WITH MIDDLE DOT|0JAPANESE SYMBOL FOR BEGINNER|0TRIDENT EMBLEM|0BLACK SQUARE BUTTON",
    "0WHITE SQUARE BUTTON|0LARGE RED CIRCLE|6BLUE CIRCLE|6ORANGE DIAMOND|6BLUE DIAMOND",
    "0SMALL ORANGE DIAMOND|6BLUE DIAMOND|0UP-POINTING RED TRIANGLE|0DOWN-POINTING RED TRIANGLE",
    "0UP-POINTING SMALL RED TRIANGLE|0DOWN-POINTING SMALL RED TRIANGLE|0LOWER RIGHT SHADOWED WHITE CIRCLE",
    "0UPPER RIGHT SHADOWED WHITE CIRCLE|0CIRCLED CROSS POMMEE|1ROSS POMMEE WITH HALF-CIRCLE BELOW|;E",
    "0NOTCHED LEFT SEMICIRCLE WITH THREE DOTS|8RIGHT SEMICIRCLE WITH THREE DOTS|0SYMBOL FOR MARKS CHAPTER",
    "0WHITE LATIN CROSS|0HEAVY LATIN CROSS|0CELTIC CROSS|0OM SYMBOL|0DOVE OF PEACE|0KAABA|0MOSQUE",
    "0SYNAGOGUE|0MENORAH WITH NINE BRANCHES|0BOWL OF HYGIEIA|0CLOCK FACE ONE OCLOCK|;TWO OCLOCK",
    "<HREE OCLOCK|;FOUR OCLOCK|<IVE OCLOCK|;SIX OCLOCK|<EVEN OCLOCK|;EIGHT OCLOCK|;NINE OCLOCK",
    ";TEN OCLOCK|;ELEVEN OCLOCK|;TWELVE OCLOCK|;ONE-THIRTY|;TWO-THIRTY|<HREE-THIRTY|;FOUR-THIRTY",
    "<IVE-THIRTY|;SIX-THIRTY|<EVEN-THIRTY|;EIGHT-THIRTY|;NINE-THIRTY|;TEN-THIRTY|;ELEVEN-THIRTY",
    ";TWELVE-THIRTY|0RIGHT SPEAKER|= WITH ONE SOUND WAVE|CTHREE SOUND WAVES|0BULLHORN|8 WITH SOUND WAVES",
    "0RINGING BELL|0BOOK|0CANDLE|0MANTELPIECE CLOCK|0BLACK SKULL AND CROSSBONES|0NO PIRACY|0HOLE",
    "0MAN IN BUSINESS SUIT LEVITATING|0SLEUTH OR SPY|0DARK SUNGLASSES|0SPIDER|6 WEB|0JOYSTICK",
    "0MAN DANCING|0LEFT HAND TELEPHONE RECEIVER|0TELEPHONE RECEIVER WITH PAGE",
    "0RIGHT HAND TELEPHONE RECEIVER|0WHITE TOUCHTONE TELEPHONE|0BLACK TOUCHTONE TELEPHONE",
    "0TELEPHONE ON TOP OF MODEM|0CLAMSHELL MOBILE PHONE|0BACK OF ENVELOPE|0STAMPED ENVELOPE",
    "0ENVELOPE WITH LIGHTNING|0FLYING ENVELOPE|0PEN OVER STAMPED ENVELOPE|0LINKED PAPERCLIPS",
    "0BLACK PUSHPIN|0LOWER LEFT PENCIL|;BALLPOINT PEN|;FOUNTAIN PEN|;PAINTBRUSH|;CRAYON|1EFT WRITING HAND",
    "0TURNED OK HAND SIGN|0RAISED HAND WITH FINGERS SPLAYED|1EVERSED RAISED HAND WITH FINGERS SPLAYED",
    "9THUMBS UP SIGN|@DOWN SIGN|9VICTORY HAND|9HAND WITH MIDDLE FINGER EXTENDED",
    "1AISED HAND WITH PART BETWEEN MIDDLE AND RING FINGERS|0WHITE DOWN POINTING LEFT HAND INDEX",
    "0SIDEWAYS WHITE LEFT POINTING INDEX|?RIGHT POINTING INDEX|9BLACK LEFT POINTING INDEX",
    "?RIGHT POINTING INDEX|0BLACK LEFT POINTING BACKHAND INDEX|6RIGHT POINTING BACKHAND INDEX",
    "0SIDEWAYS WHITE UP POINTING INDEX|?DOWN POINTING INDEX|9BLACK UP POINTING INDEX|?DOWN POINTING INDEX",
    "0BLACK UP POINTING BACKHAND INDEX|6DOWN POINTING BACKHAND INDEX|6HEART|0DESKTOP COMPUTER",
    "0KEYBOARD AND MOUSE|0THREE NETWORKED COMPUTERS|0PRINTER|1OCKET CALCULATOR",
    "0BLACK HARD SHELL FLOPPY DISK|0WHITE HARD SHELL FLOPPY DISK|0SOFT SHELL FLOPPY DISK|0TAPE CARTRIDGE",
    "0WIRED KEYBOARD|0ONE BUTTON MOUSE|0TWO BUTTON MOUSE|1HREE BUTTON MOUSE|1RACKBALL",
    "0OLD PERSONAL COMPUTER|0HARD DISK|0SCREEN|0PRINTER ICON|0FAX ICON|0OPTICAL DISC ICON",
    "0DOCUMENT WITH TEXT|B AND PICTURE|>PICTURE|0FRAME WITH PICTURE|;TILES|;AN X|0BLACK FOLDER|0FOLDER",
    "0OPEN FOLDER|0CARD INDEX DIVIDERS|5FILE BOX|0FILE CABINET|0EMPTY NOTE|: PAGE|=D|0NOTE|4 PAGE|7D",
    "0EMPTY DOCUMENT|6PAGE|:S|0DOCUMENT|0PAGE|4S|0WASTEBASKET|0SPIRAL NOTE PAD|7CALENDAR PAD",
    "0DESKTOP WINDOW|0MINIMIZE|1AXIMIZE|0OVERLAP|0CLOCKWISE RIGHT AND LEFT SEMICIRCLE ARROWS",
    "1ANCELLATION X|0INCREASE FONT SIZE SYMBOL|0DECREASE FONT SIZE SYMBOL|0COMPRESSION|0OLD KEY",
    "0ROLLED-UP NEWSPAPER|0PAGE WITH CIRCLED TEXT|0STOCK CHART|0DAGGER KNIFE|0LIPS",
    "0SPEAKING HEAD IN SILHOUETTE|0THREE RAYS ABOVE|;BELOW|;LEFT|;RIGHT|0LEFT SPEECH BUBBLE",
    "0RIGHT SPEECH BUBBLE|0TWO SPEECH BUBBLES|1HREE SPEECH BUBBLES|0LEFT THOUGHT BUBBLE",
    "0RIGHT THOUGHT BUBBLE|0LEFT ANGER BUBBLE|0RIGHT ANGER BUBBLE|0MOOD BUBBLE|0LIGHTNING MOOD BUBBLE|=D",
    "0BALLOT BOX WITH BALLOT|7SCRIPT X|7BOX WITH SCRIPT X|9LD SCRIPT X|9X WITH BOLD SCRIPT X",
    "0LIGHT CHECK MARK|0BALLOT BOX WITH BOLD CHECK|0WORLD MAP|0MOUNT FUJI|0TOKYO TOWER|0STATUE OF LIBERTY",
    "1ILHOUETTE OF JAPAN|0MOYAI|0GRINNING FACE|= WITH SMILING EYES|0FACE WITH TEARS OF JOY",
    "0SMILING FACE WITH OPEN MOUTH|L AND SMILING EYES|QCOLD SWEAT|QTIGHTLY-CLOSED EYES|BHALO|CORNS",
    "0WINKING FACE|0SMILING FACE WITH SMILING EYES|0FACE SAVOURING DELICIOUS FOOD|0RELIEVED FACE",
    "0SMILING FACE WITH HEART-SHAPED EYES|BSUNGLASSES|3RKING FACE|0NEUTRAL FACE|0EXPRESSIONLESS FACE",
    "0UNAMUSED FACE|0FACE WITH COLD SWEAT|0PENSIVE FACE|0CONFUSED FACE|4OUNDED FACE|0KISSING FACE",
    "0FACE THROWING A KISS|0KISSING FACE WITH SMILING EYES|BCLOSED EYES|0FACE WITH STUCK-OUT TONGUE",
    "J AND WINKING EYE|OTIGHTLY-CLOSED EYES|0DISAPPOINTED FACE|0WORRIED FACE|0ANGRY FACE|0POUTING FACE",
    "0CRYING FACE|0PERSEVERING FACE|0FACE WITH LOOK OF TRIUMPH|0DISAPPOINTED BUT RELIEVED FACE",
    "0FROWNING FACE WITH OPEN MOUTH|0ANGUISHED FACE|0FEARFUL FACE|0WEARY FACE|0SLEEPY FACE|0TIRED FACE",
    "0GRIMACING FACE|0LOUDLY CRYING FACE|0FACE WITH OPEN MOUTH|0HUSHED FACE",
    "0FACE WITH OPEN MOUTH AND COLD SWEAT|5SCREAMING IN FEAR|0ASTONISHED FACE|0FLUSHED FACE",
    "0SLEEPING FACE|0DIZZY FACE|0FACE WITHOUT MOUTH|9 MEDICAL MASK|0GRINNING CAT FACE WITH SMILING EYES",
    "0CAT FACE WITH TEARS OF JOY|0SMILING CAT FACE WITH OPEN MOUTH|FHEART-SHAPED EYES",
    "0CAT FACE WITH WRY SMILE|0KISSING CAT FACE WITH CLOSED EYES|0POUTING CAT FACE|0CRYING CAT FACE",
    "0WEARY CAT FACE|0SLIGHTLY FROWNING FACE|9SMILING FACE|0UPSIDE-DOWN FACE|0FACE WITH ROLLING EYES",
    ":NO GOOD GESTURE|:OK GESTURE|0PERSON BOWING DEEPLY|0SEE-NO-EVIL MONKEY|0HEAR-NO-EVIL MONKEY",
    "0SPEAK-NO-EVIL MONKEY|0HAPPY PERSON RAISING ONE HAND|0PERSON RAISING BOTH HANDS IN CELEBRATION",
    "7FROWNING|7WITH POUTING FACE|<FOLDED HANDS|0NORTH WEST POINTING LEAF|0SOUTH WEST POINTING LEAF",
    "0NORTH EAST POINTING LEAF|0SOUTH EAST POINTING LEAF|0TURNED NORTH WEST POINTING LEAF",
    "7SOUTH WEST POINTING LEAF|7NORTH EAST POINTING LEAF|7SOUTH EAST POINTING LEAF",
    "0NORTH WEST POINTING VINE LEAF|0SOUTH WEST POINTING VINE LEAF|0NORTH EAST POINTING VINE LEAF",
    "0SOUTH EAST POINTING VINE LEAF|0HEAVY NORTH WEST POINTING VINE LEAF|6SOUTH WEST POINTING VINE LEAF",
    "6NORTH EAST POINTING VINE LEAF|6SOUTH EAST POINTING VINE LEAF|0NORTH WEST POINTING BUD",
    "0SOUTH WEST POINTING BUD|0NORTH EAST POINTING BUD|0SOUTH EAST POINTING BUD",
    "0HEAVY NORTH WEST POINTING BUD|6SOUTH WEST POINTING BUD|6NORTH EAST POINTING BUD",
    "6SOUTH EAST POINTING BUD|1OLLOW QUILT SQUARE ORNAMENT|L IN BLACK SQUARE|0SOLID QUILT SQUARE ORNAMENT",
    "K IN BLACK SQUARE|0LEFTWARDS ROCKET|0UPWARDS ROCKET|0RIGHTWARDS ROCKET|0DOWNWARDS ROCKET",
    "0SCRIPT LIGATURE ET ORNAMENT|0HEAVY SCRIPT LIGATURE ET ORNAMENT|0LIGATURE OPEN ET ORNAMENT",
    "0HEAVY LIGATURE OPEN ET ORNAMENT|6AMPERSAND ORNAMENT|0SWASH AMPERSAND ORNAMENT",
    "1ANS-SERIF HEAVY DOUBLE TURNED COMMA QUOTATION MARK ORNAMENT|HCOMMA QUOTATION MARK ORNAMENT",
    "ALOW DOUBLE COMMA QUOTATION MARK ORNAMENT|0HEAVY INTERROBANG ORNAMENT",
    "0SANS-SERIF INTERROBANG ORNAMENT|0HEAVY SANS-SERIF INTERROBANG ORNAMENT|0VERY HEAVY SOLIDUS",
    ";REVERSE SOLIDUS|0CHECKER BOARD|0REVERSE CHECKER BOARD|1OCKET|0HELICOPTER|0STEAM LOCOMOTIVE",
    "0RAILWAY CAR|0HIGH-SPEED TRAIN|@ WITH BULLET NOSE|0TRAIN|0METRO|0LIGHT RAIL|0STATION|0TRAM|4 CAR",
    "0BUS|0ONCOMING BUS|0TROLLEYBUS|0BUS STOP|0MINIBUS|0AMBULANCE|0FIRE ENGINE|0POLICE CAR",
    "0ONCOMING POLICE CAR|0TAXI|0ONCOMING TAXI|0AUTOMOBILE|0ONCOMING AUTOMOBILE|0RECREATIONAL VEHICLE",
    "0DELIVERY TRUCK|0ARTICULATED LORRY|0TRACTOR|0MONORAIL|2UNTAIN RAILWAY|0SUSPENSION RAILWAY",
    "0MOUNTAIN CABLEWAY|0AERIAL TRAMWAY|0SHIP|0ROWBOAT|0SPEEDBOAT|0HORIZONTAL TRAFFIC LIGHT",
    "0VERTICAL TRAFFIC LIGHT|0CONSTRUCTION SIGN|0POLICE CARS REVOLVING LIGHT|0TRIANGULAR FLAG ON POST",
    "0DOOR|0NO ENTRY SIGN|0SMOKING SYMBOL|0NO SMOKING SYMBOL|0PUT LITTER IN ITS PLACE SYMBOL",
    "0DO NOT LITTER SYMBOL|0POTABLE WATER SYMBOL|0NON-POTABLE WATER SYMBOL|0BICYCLE|0NO BICYCLES",
    "0BICYCLIST|0MOUNTAIN BICYCLIST|0PEDESTRIAN|0NO PEDESTRIANS|0CHILDREN CROSSING|0MENS SYMBOL",
    "0WOMENS SYMBOL|0RESTROOM|0BABY SYMBOL|0TOILET|0WATER CLOSET|0SHOWER|0BATH|4TUB|0PASSPORT CONTROL",
    "0CUSTOMS|0BAGGAGE CLAIM|0LEFT LUGGAGE|0TRIANGLE WITH ROUNDED CORNERS|0PROHIBITED SIGN",
    "0CIRCLED INFORMATION SOURCE|0BOYS SYMBOL|0GIRLS SYMBOL|0COUCH AND LAMP|0SLEEPING ACCOMMODATION",
    "1HOPPING BAGS|0BELLHOP BELL|2D|0PLACE OF WORSHIP|0OCTAGONAL SIGN|0SHOPPING TROLLEY|1TUPA|0PAGODA",
    "0HINDU TEMPLE|1UT|0ELEVATOR||||||0PLAYGROUND SLIDE|0WHEEL|0RING BUOY|0HAMMER AND WRENCH|0SHIELD",
    "0OIL DRUM|0MOTORWAY|0RAILWAY TRACK|0MOTOR BOAT|0UP-POINTING MILITARY AIRPLANE|<AIRPLANE",
    "<SMALL AIRPLANE|0SMALL AIRPLANE|0NORTHEAST-POINTING AIRPLANE|0AIRPLANE DEPARTURE|9ARRIVING|||",
    "0SATELLITE|0ONCOMING FIRE ENGINE|0DIESEL LOCOMOTIVE|0PASSENGER SHIP|0SCOOTER|0MOTOR SCOOTER|0CANOE",
    "0SLED|0FLYING SAUCER|0SKATEBOARD|0AUTO RICKSHAW|0PICKUP TRUCK|0ROLLER SKATE|||",
    "0ALCHEMICAL SYMBOL FOR QUINTESSENCE|FAIR|FFIRE|FEARTH|FWATER|FAQUAFORTIS|J REGIA|P-2|KVITAE|P-2",
    "FVINEGAR|M-2|N3|FSULFUR|FPHILOSOPHERS SULFUR|FBLACK SULFUR|FMERCURY SUBLIMATE|W-2|X3|FCINNABAR|FSALT",
    "FNITRE|FVITRIOL|M-2|FROCK SALT|O-2|FGOLD|FSILVER|FIRON ORE|N-2|FCROCUS OF IRON|FREGULUS OF IRON",
    "FCOPPER ORE|FIRON-COPPER ORE|FSUBLIMATE OF COPPER|FCROCUS OF COPPER|V-2|GOPPER ANTIMONIATE",
    "FSALT OF COPPER ANTIMONIATE|GUBLIMATE OF SALT OF COPPER|FVERDIGRIS|FTIN ORE|FLEAD ORE|FANTIMONY ORE",
    "FSUBLIMATE OF ANTIMONY|GALT OF ANTIMONY|GUBLIMATE OF SALT OF ANTIMONY|FVINEGAR OF ANTIMONY",
    "FREGULUS OF ANTIMONY|Y-2|LS|M-2|N3|N4|FALKALI|L-2|FMARCASITE|FSAL-AMMONIAC|FARSENIC|FREALGAR|M-2",
    "FAURIPIGMENT|FBISMUTH ORE|FTARTAR|L-2|FQUICK LIME|FBORAX|K-2|L3|FALUM|FOIL|FSPIRIT|FTINCTURE|FGUM",
    "FWAX|FPOWDER|FCALX|FTUTTY|FCAPUT MORTUUM|FSCEPTER OF JOVE|FCADUCEUS|FTRIDENT|FSTARRED TRIDENT",
    "FLODESTONE|FSOAP|FURINE|FHORSE DUNG|FASHES|FPOT ASHES|FBRICK|FPOWDERED BRICK|FAMALGAM",
    "FSTRATUM SUPER STRATUM|[-2|GUBLIMATION|FPRECIPITATE|FDISTILL|ISOLVE|N-2|FPURIFY|HTREFACTION",
    "FCRUCIBLE|N-2|O3|O4|O5|FALEMBIC|FBATH OF MARY|NVAPOURS|FRETORT|FHOUR|FNIGHT|FDAY-NIGHT|FMONTH",
    "FHALF DRAM|KOUNCE"]),
  (0x1f780, ["0BLACK LEFT-POINTING ISOSCELES RIGHT TRIANGLE|6UP-POINTING ISOSCELES RIGHT TRIANGLE",
    "6RIGHT-POINTING ISOSCELES RIGHT TRIANGLE|6DOWN-POINTING ISOSCELES RIGHT TRIANGLE",
    "6SLIGHTLY SMALL CIRCLE|0MEDIUM BOLD WHITE CIRCLE|0BOLD WHITE CIRCLE|0HEAVY WHITE CIRCLE",
    "0VERY HEAVY WHITE CIRCLE|0EXTREMELY HEAVY WHITE CIRCLE|0WHITE CIRCLE CONTAINING BLACK SMALL CIRCLE",
    "0ROUND TARGET|0BLACK TINY SQUARE|6SLIGHTLY SMALL SQUARE|0LIGHT WHITE SQUARE|0MEDIUM WHITE SQUARE",
    "0BOLD WHITE SQUARE|0HEAVY WHITE SQUARE|0VERY HEAVY WHITE SQUARE|0EXTREMELY HEAVY WHITE SQUARE",
    "0WHITE SQUARE CONTAINING BLACK VERY SMALL SQUARE|NMEDIUM SQUARE|0SQUARE TARGET|0BLACK TINY DIAMOND",
    "6VERY SMALL DIAMOND|6MEDIUM SMALL DIAMOND|0WHITE DIAMOND CONTAINING BLACK VERY SMALL DIAMOND",
    "OMEDIUM DIAMOND|0DIAMOND TARGET|0BLACK TINY LOZENGE|6VERY SMALL LOZENGE|6MEDIUM SMALL LOZENGE",
    "0WHITE LOZENGE CONTAINING BLACK SMALL LOZENGE|0THIN GREEK CROSS|0LIGHT GREEK CROSS",
    "0MEDIUM GREEK CROSS|0BOLD GREEK CROSS|0VERY BOLD GREEK CROSS|5HEAVY GREEK CROSS",
    "0EXTREMELY HEAVY GREEK CROSS|0THIN SALTIRE|0LIGHT SALTIRE|0MEDIUM SALTIRE|0BOLD SALTIRE",
    "0HEAVY SALTIRE|0VERY HEAVY SALTIRE|0EXTREMELY HEAVY SALTIRE|0LIGHT FIVE SPOKED ASTERISK",
    "0MEDIUM FIVE SPOKED ASTERISK|0BOLD FIVE SPOKED ASTERISK|0HEAVY FIVE SPOKED ASTERISK",
    "0VERY HEAVY FIVE SPOKED ASTERISK|0EXTREMELY HEAVY FIVE SPOKED ASTERISK|0LIGHT SIX SPOKED ASTERISK",
    "0MEDIUM SIX SPOKED ASTERISK|0BOLD SIX SPOKED ASTERISK|0HEAVY SIX SPOKED ASTERISK",
    "0VERY HEAVY SIX SPOKED ASTERISK|0EXTREMELY HEAVY SIX SPOKED ASTERISK|0LIGHT EIGHT SPOKED ASTERISK",
    "0MEDIUM EIGHT SPOKED ASTERISK|0BOLD EIGHT SPOKED ASTERISK|0HEAVY EIGHT SPOKED ASTERISK",
    "0VERY HEAVY EIGHT SPOKED ASTERISK|0LIGHT THREE POINTED BLACK STAR|0MEDIUM THREE POINTED BLACK STAR",
    "0THREE POINTED BLACK STAR|0MEDIUM THREE POINTED PINWHEEL STAR|0LIGHT FOUR POINTED BLACK STAR",
    "0MEDIUM FOUR POINTED BLACK STAR|0FOUR POINTED BLACK STAR|0MEDIUM FOUR POINTED PINWHEEL STAR",
    "0REVERSE LIGHT FOUR POINTED PINWHEEL STAR|0LIGHT FIVE POINTED BLACK STAR",
    "0HEAVY FIVE POINTED BLACK STAR|0MEDIUM SIX POINTED BLACK STAR|0HEAVY SIX POINTED BLACK STAR",
    "0SIX POINTED PINWHEEL STAR|0MEDIUM EIGHT POINTED BLACK STAR|0HEAVY EIGHT POINTED BLACK STAR",
    "0VERY HEAVY EIGHT POINTED BLACK STAR|0HEAVY EIGHT POINTED PINWHEEL STAR",
    "0LIGHT TWELVE POINTED BLACK STAR|0HEAVY TWELVE POINTED BLACK STAR|EPINWHEEL STAR|0CIRCLED TRIANGLE",
    "0NEGATIVE CIRCLED TRIANGLE|0CIRCLED SQUARE|0NEGATIVE CIRCLED SQUARE||||||||0LARGE ORANGE CIRCLE",
    "6YELLOW CIRCLE|6GREEN CIRCLE|6PURPLE CIRCLE|6BROWN CIRCLE|6RED SQUARE|6BLUE SQUARE|6ORANGE SQUARE",
    "6YELLOW SQUARE|6GREEN SQUARE|6PURPLE SQUARE|6BROWN SQUARE|||||0HEAVY EQUALS SIGN"]),
  (0x1f800, ["0LEFTWARDS ARROW WITH SMALL TRIANGLE ARROWHEAD|0UPWARDS ARROW WITH SMALL TRIANGLE ARROWHEAD",
    "0RIGHTWARDS ARROW WITH SMALL TRIANGLE ARROWHEAD|0DOWNWARDS ARROW WITH SMALL TRIANGLE ARROWHEAD",
    "0LEFTWARDS ARROW WITH MEDIUM TRIANGLE ARROWHEAD|0UPWARDS ARROW WITH MEDIUM TRIANGLE ARROWHEAD",
    "0RIGHTWARDS ARROW WITH MEDIUM TRIANGLE ARROWHEAD|0DOWNWARDS ARROW WITH MEDIUM TRIANGLE ARROWHEAD",
    "0LEFTWARDS ARROW WITH LARGE TRIANGLE ARROWHEAD|0UPWARDS ARROW WITH LARGE TRIANGLE ARROWHEAD",
    "0RIGHTWARDS ARROW WITH LARGE TRIANGLE ARROWHEAD|0DOWNWARDS ARROW WITH LARGE TRIANGLE ARROWHEAD||||",
    "0LEFTWARDS ARROW WITH SMALL EQUILATERAL ARROWHEAD|0UPWARDS ARROW WITH SMALL EQUILATERAL ARROWHEAD",
    "0RIGHTWARDS ARROW WITH SMALL EQUILATERAL ARROWHEAD|0DOWNWARDS ARROW WITH SMALL EQUILATERAL ARROWHEAD",
    "0LEFTWARDS ARROW WITH EQUILATERAL ARROWHEAD|0UPWARDS ARROW WITH EQUILATERAL ARROWHEAD",
    "0RIGHTWARDS ARROW WITH EQUILATERAL ARROWHEAD|0DOWNWARDS ARROW WITH EQUILATERAL ARROWHEAD",
    "0HEAVY LEFTWARDS ARROW WITH EQUILATERAL ARROWHEAD|6UPWARDS ARROW WITH EQUILATERAL ARROWHEAD",
    "6RIGHTWARDS ARROW WITH EQUILATERAL ARROWHEAD|6DOWNWARDS ARROW WITH EQUILATERAL ARROWHEAD",
    "6LEFTWARDS ARROW WITH LARGE EQUILATERAL ARROWHEAD|6UPWARDS ARROW WITH LARGE EQUILATERAL ARROWHEAD",
    "6RIGHTWARDS ARROW WITH LARGE EQUILATERAL ARROWHEAD|6DOWNWARDS ARROW WITH LARGE EQUILATERAL ARROWHEAD",
    "0LEFTWARDS TRIANGLE-HEADED ARROW WITH NARROW SHAFT|0UPWARDS TRIANGLE-HEADED ARROW WITH NARROW SHAFT",
    "0RIGHTWARDS TRIANGLE-HEADED ARROW WITH NARROW SHAFT",
    "0DOWNWARDS TRIANGLE-HEADED ARROW WITH NARROW SHAFT",
    "0LEFTWARDS TRIANGLE-HEADED ARROW WITH MEDIUM SHAFT|0UPWARDS TRIANGLE-HEADED ARROW WITH MEDIUM SHAFT",
    "0RIGHTWARDS TRIANGLE-HEADED ARROW WITH MEDIUM SHAFT",
    "0DOWNWARDS TRIANGLE-HEADED ARROW WITH MEDIUM SHAFT|0LEFTWARDS TRIANGLE-HEADED ARROW WITH BOLD SHAFT",
    "0UPWARDS TRIANGLE-HEADED ARROW WITH BOLD SHAFT|0RIGHTWARDS TRIANGLE-HEADED ARROW WITH BOLD SHAFT",
    "0DOWNWARDS TRIANGLE-HEADED ARROW WITH BOLD SHAFT|0LEFTWARDS TRIANGLE-HEADED ARROW WITH HEAVY SHAFT",
    "0UPWARDS TRIANGLE-HEADED ARROW WITH HEAVY SHAFT|0RIGHTWARDS TRIANGLE-HEADED ARROW WITH HEAVY SHAFT",
    "0DOWNWARDS TRIANGLE-HEADED ARROW WITH HEAVY SHAFT",
    "0LEFTWARDS TRIANGLE-HEADED ARROW WITH VERY HEAVY SHAFT",
    "0UPWARDS TRIANGLE-HEADED ARROW WITH VERY HEAVY SHAFT",
    "0RIGHTWARDS TRIANGLE-HEADED ARROW WITH VERY HEAVY SHAFT",
    "0DOWNWARDS TRIANGLE-HEADED ARROW WITH VERY HEAVY SHAFT|0LEFTWARDS FINGER-POST ARROW",
    "0UPWARDS FINGER-POST ARROW|0RIGHTWARDS FINGER-POST ARROW|0DOWNWARDS FINGER-POST ARROW",
    "0LEFTWARDS SQUARED ARROW|0UPWARDS SQUARED ARROW|0RIGHTWARDS SQUARED ARROW|0DOWNWARDS SQUARED ARROW",
    "0LEFTWARDS COMPRESSED ARROW|0UPWARDS COMPRESSED ARROW|0RIGHTWARDS COMPRESSED ARROW",
    "0DOWNWARDS COMPRESSED ARROW|0LEFTWARDS HEAVY COMPRESSED ARROW|0UPWARDS HEAVY COMPRESSED ARROW",
    "0RIGHTWARDS HEAVY COMPRESSED ARROW|0DOWNWARDS HEAVY COMPRESSED ARROW|0LEFTWARDS HEAVY ARROW",
    "0UPWARDS HEAVY ARROW|0RIGHTWARDS HEAVY ARROW|0DOWNWARDS HEAVY ARROW"]),
  (0x1f850, ["0LEFTWARDS SANS-SERIF ARROW|0UPWARDS SANS-SERIF ARROW|0RIGHTWARDS SANS-SERIF ARROW",
    "0DOWNWARDS SANS-SERIF ARROW|0NORTH WEST SANS-SERIF ARROW|6EAST SANS-SERIF ARROW",
    "0SOUTH EAST SANS-SERIF ARROW|6WEST SANS-SERIF ARROW|0LEFT RIGHT SANS-SERIF ARROW",
    "0UP DOWN SANS-SERIF ARROW|||||||0WIDE-HEADED LEFTWARDS LIGHT BARB ARROW|<UPWARDS LIGHT BARB ARROW",
    "<RIGHTWARDS LIGHT BARB ARROW|<DOWNWARDS LIGHT BARB ARROW|<NORTH WEST LIGHT BARB ARROW",
    "BEAST LIGHT BARB ARROW|<SOUTH EAST LIGHT BARB ARROW|BWEST LIGHT BARB ARROW|<LEFTWARDS BARB ARROW",
    "<UPWARDS BARB ARROW|<RIGHTWARDS BARB ARROW|<DOWNWARDS BARB ARROW|<NORTH WEST BARB ARROW",
    "BEAST BARB ARROW|<SOUTH EAST BARB ARROW|BWEST BARB ARROW|<LEFTWARDS MEDIUM BARB ARROW",
    "<UPWARDS MEDIUM BARB ARROW|<RIGHTWARDS MEDIUM BARB ARROW|<DOWNWARDS MEDIUM BARB ARROW",
    "<NORTH WEST MEDIUM BARB ARROW|BEAST MEDIUM BARB ARROW|<SOUTH EAST MEDIUM BARB ARROW",
    "BWEST MEDIUM BARB ARROW|<LEFTWARDS HEAVY BARB ARROW|<UPWARDS HEAVY BARB ARROW",
    "<RIGHTWARDS HEAVY BARB ARROW|<DOWNWARDS HEAVY BARB ARROW|<NORTH WEST HEAVY BARB ARROW",
    "BEAST HEAVY BARB ARROW|<SOUTH EAST HEAVY BARB ARROW|BWEST HEAVY BARB ARROW",
    "<LEFTWARDS VERY HEAVY BARB ARROW|<UPWARDS VERY HEAVY BARB ARROW|<RIGHTWARDS VERY HEAVY BARB ARROW",
    "<DOWNWARDS VERY HEAVY BARB ARROW|<NORTH WEST VERY HEAVY BARB ARROW|BEAST VERY HEAVY BARB ARROW",
    "<SOUTH EAST VERY HEAVY BARB ARROW|BWEST VERY HEAVY BARB ARROW"]),
  (0x1f890, ["0LEFTWARDS TRIANGLE ARROWHEAD|0UPWARDS TRIANGLE ARROWHEAD|0RIGHTWARDS TRIANGLE ARROWHEAD",
    "0DOWNWARDS TRIANGLE ARROWHEAD|0LEFTWARDS WHITE ARROW WITHIN TRIANGLE ARROWHEAD",
    "0UPWARDS WHITE ARROW WITHIN TRIANGLE ARROWHEAD|0RIGHTWARDS WHITE ARROW WITHIN TRIANGLE ARROWHEAD",
    "0DOWNWARDS WHITE ARROW WITHIN TRIANGLE ARROWHEAD|0LEFTWARDS ARROW WITH NOTCHED TAIL",
    "0UPWARDS ARROW WITH NOTCHED TAIL|0RIGHTWARDS ARROW WITH NOTCHED TAIL",
    "0DOWNWARDS ARROW WITH NOTCHED TAIL|0HEAVY ARROW SHAFT WIDTH ONE|HTWO THIRDS|HONE HALF|LTHIRD",
    "0LEFTWARDS BOTTOM-SHADED WHITE ARROW|0RIGHTWARDS BOTTOM SHADED WHITE ARROW",
    "0LEFTWARDS TOP SHADED WHITE ARROW|0RIGHTWARDS TOP SHADED WHITE ARROW",
    "0LEFTWARDS LEFT-SHADED WHITE ARROW|0RIGHTWARDS RIGHT-SHADED WHITE ARROW",
    "0LEFTWARDS RIGHT-SHADED WHITE ARROW|0RIGHTWARDS LEFT-SHADED WHITE ARROW",
    "0LEFTWARDS BACK-TILTED SHADOWED WHITE ARROW|0RIGHTWARDS BACK-TILTED SHADOWED WHITE ARROW",
    "0LEFTWARDS FRONT-TILTED SHADOWED WHITE ARROW|0RIGHTWARDS FRONT-TILTED SHADOWED WHITE ARROW",
    "0WHITE ARROW SHAFT WIDTH ONE|HTWO THIRDS|||0ARROW POINTING UPWARDS THEN NORTH WEST",
    "?RIGHTWARDS THEN CURVING SOUTH WEST"]),
  (0x1f900, ["0CIRCLED CROSS FORMEE WITH FOUR DOTS|JTWO DOTS|CE|0LEFT HALF CIRCLE WITH FOUR DOTS|FTHREE DOTS",
    "GWO DOTS|FDOT|?E|0DOWNWARD FACING HOOK|@NOTCHED HOOK|@HOOK WITH DOT|@NOTCHED HOOK WITH DOT",
    "0PINCHED FINGERS|0WHITE HEART|0BROWN HEART|0PINCHING HAND|0ZIPPER-MOUTH FACE|0MONEY-MOUTH FACE",
    "0FACE WITH THERMOMETER|0NERD FACE|0THINKING FACE|0FACE WITH HEAD-BANDAGE|0ROBOT FACE|0HUGGING FACE",
    "0SIGN OF THE HORNS|0CALL ME HAND|0RAISED BACK OF HAND|0LEFT-FACING FIST|0RIGHT-FACING FIST",
    "0HANDSHAKE|4 WITH INDEX AND MIDDLE FINGERS CROSSED|0I LOVE YOU HAND SIGN|0FACE WITH COWBOY HAT",
    "0CLOWN FACE|0NAUSEATED FACE|0ROLLING ON THE FLOOR LAUGHING|0DROOLING FACE|0LYING FACE|0FACE PALM",
    "0SNEEZING FACE|0FACE WITH ONE EYEBROW RAISED|0GRINNING FACE WITH STAR EYES",
    "CONE LARGE AND ONE SMALL EYE|0FACE WITH FINGER COVERING CLOSED LIPS",
    "0SERIOUS FACE WITH SYMBOLS COVERING MOUTH|1MILING FACE WITH SMILING EYES AND HAND COVERING MOUTH",
    "0FACE WITH OPEN MOUTH VOMITING|0SHOCKED FACE WITH EXPLODING HEAD|0PREGNANT WOMAN|0BREAST-FEEDING",
    "0PALMS UP TOGETHER|0SELFIE|0PRINCE|0MAN IN TUXEDO|1OTHER CHRISTMAS|0SHRUG|0PERSON DOING CARTWHEEL",
    "0JUGGLING|0FENCER|0MODERN PENTATHLON|0WRESTLERS|1ATER POLO|0HANDBALL|0DIVING MASK|0WILTED FLOWER",
    "0DRUM WITH DRUMSTICKS|0CLINKING GLASSES|0TUMBLER GLASS|0SPOON|0GOAL NET|0RIFLE|0FIRST PLACE MEDAL",
    "0SECOND PLACE MEDAL|0THIRD PLACE MEDAL|0BOXING GLOVE|0MARTIAL ARTS UNIFORM|0CURLING STONE",
    "0LACROSSE STICK AND BALL|0SOFTBALL|0FLYING DISC|0CROISSANT|0AVOCADO|0CUCUMBER|0BACON|0POTATO|0CARROT",
    "0BAGUETTE BREAD|0GREEN SALAD|0SHALLOW PAN OF FOOD|1TUFFED FLATBREAD|0EGG|0GLASS OF MILK|0PEANUTS",
    "0KIWIFRUIT|0PANCAKES|0DUMPLING|0FORTUNE COOKIE|0TAKEOUT BOX|0CHOPSTICKS|0BOWL WITH SPOON",
    "0CUP WITH STRAW|1OCONUT|0BROCCOLI|0PIE|1RETZEL|0CUT OF MEAT|0SANDWICH|0CANNED FOOD|0LEAFY GREEN",
    "0MANGO|1OON CAKE|0BAGEL|0SMILING FACE WITH SMILING EYES AND THREE HEARTS|0YAWNING FACE",
    "0SMILING FACE WITH TEAR|0FACE WITH PARTY HORN AND PARTY HAT|:UNEVEN EYES AND WAVY MOUTH",
    "0OVERHEATED FACE|0FREEZING FACE|0NINJA|0DISGUISED FACE|0FACE HOLDING BACK TEARS|5WITH PLEADING EYES",
    "0SARI|0LAB COAT|0GOGGLES|0HIKING BOOT|0FLAT SHOE|0CRAB|0LION FACE|0SCORPION|0TURKEY|0UNICORN FACE",
    "0EAGLE|0DUCK|0BAT|0SHARK|0OWL|0FOX FACE|0BUTTERFLY|0DEER|0GORILLA|0LIZARD|0RHINOCEROS|0SHRIMP|1QUID",
    "0GIRAFFE FACE|0ZEBRA FACE|0HEDGEHOG|0SAUROPOD|0T-REX|0CRICKET|0KANGAROO|0LLAMA|0PEACOCK",
    "0HIPPOPOTAMUS|0PARROT|0RACCOON|0LOBSTER|0MOSQUITO|1ICROBE|0BADGER|0SWAN|0MAMMOTH|0DODO|0SLOTH|0OTTER",
    "1RANGUTAN|0SKUNK|0FLAMINGO|0OYSTER|0BEAVER|1ISON|0SEAL|0GUIDE DOG|0PROBING CANE",
    "0EMOJI COMPONENT RED HAIR|@CURLY HAIR|@BALD|@WHITE HAIR|0BONE|0LEG|0FOOT|0TOOTH|0SUPERHERO|5VILLAIN",
    "1AFETY VEST|0EAR WITH HEARING AID|0MOTORIZED WHEELCHAIR|1ANUAL WHEELCHAIR|1ECHANICAL ARM|;LEG",
    "0CHEESE WEDGE|1UPCAKE|0SALT SHAKER|0BEVERAGE BOX|0GARLIC|0ONION|0FALAFEL|0WAFFLE|0BUTTER|0MATE DRINK",
    "0ICE CUBE|0BUBBLE TEA|0TROLL|0STANDING PERSON|0KNEELING PERSON|0DEAF PERSON|0FACE WITH MONOCLE",
    "0ADULT|0CHILD|0OLDER ADULT|0BEARDED PERSON|0PERSON WITH HEADSCARF|7IN STEAMY ROOM|7CLIMBING",
    "7IN LOTUS POSITION|0MAGE|0FAIRY|0VAMPIRE|0MERPERSON|0ELF|0GENIE|0ZOMBIE|0BRAIN|0ORANGE HEART",
    "0BILLED CAP|0SCARF|0GLOVES|0COAT|0SOCKS|0RED GIFT ENVELOPE|0FIRECRACKER|0JIGSAW PUZZLE PIECE",
    "0TEST TUBE|0PETRI DISH|0DNA DOUBLE HELIX|0COMPASS|0ABACUS|0FIRE EXTINGUISHER|0TOOLBOX|0BRICK|0MAGNET",
    "0LUGGAGE|1OTION BOTTLE|0SPOOL OF THREAD|0BALL OF YARN|0SAFETY PIN|0TEDDY BEAR|0BROOM|1ASKET",
    "0ROLL OF PAPER|0BAR OF SOAP|0SPONGE|0RECEIPT|0NAZAR AMULET|1EUTRAL CHESS KING|>QUEEN|>ROOK|>BISHOP",
    ">KNIGHT|>PAWN|0WHITE CHESS KNIGHT ROTATED FORTY-FIVE DEGREES",
    "0BLACK CHESS KNIGHT ROTATED FORTY-FIVE DEGREES|0NEUTRAL CHESS KNIGHT ROTATED FORTY-FIVE DEGREES",
    "0WHITE CHESS KING ROTATED NINETY DEGREES|<QUEEN ROTATED NINETY DEGREES|<ROOK ROTATED NINETY DEGREES",
    "<BISHOP ROTATED NINETY DEGREES|<KNIGHT ROTATED NINETY DEGREES|<PAWN ROTATED NINETY DEGREES",
    "0BLACK CHESS KING ROTATED NINETY DEGREES|<QUEEN ROTATED NINETY DEGREES|<ROOK ROTATED NINETY DEGREES",
    "<BISHOP ROTATED NINETY DEGREES|<KNIGHT ROTATED NINETY DEGREES|<PAWN ROTATED NINETY DEGREES",
    "0NEUTRAL CHESS KING ROTATED NINETY DEGREES|>QUEEN ROTATED NINETY DEGREES",
    ">ROOK ROTATED NINETY DEGREES|>BISHOP ROTATED NINETY DEGREES|>KNIGHT ROTATED NINETY DEGREES",
    ">PAWN ROTATED NINETY DEGREES|0WHITE CHESS KNIGHT ROTATED ONE HUNDRED THIRTY-FIVE DEGREES",
    "0BLACK CHESS KNIGHT ROTATED ONE HUNDRED THIRTY-FIVE DEGREES",
    "0NEUTRAL CHESS KNIGHT ROTATED ONE HUNDRED THIRTY-FIVE DEGREES|0WHITE CHESS TURNED KING|CQUEEN|CROOK",
    "CBISHOP|CKNIGHT|CPAWN|0BLACK CHESS TURNED KING|CQUEEN|CROOK|CBISHOP|CKNIGHT|CPAWN",
    "0NEUTRAL CHESS TURNED KING|EQUEEN|EROOK|EBISHOP|EKNIGHT|EPAWN",
    "0WHITE CHESS KNIGHT ROTATED TWO HUNDRED TWENTY-FIVE DEGREES",
    "0BLACK CHESS KNIGHT ROTATED TWO HUNDRED TWENTY-FIVE DEGREES",
    "0NEUTRAL CHESS KNIGHT ROTATED TWO HUNDRED TWENTY-FIVE DEGREES",
    "0WHITE CHESS KING ROTATED TWO HUNDRED SEVENTY DEGREES|<QUEEN ROTATED TWO HUNDRED SEVENTY DEGREES",
    "<ROOK ROTATED TWO HUNDRED SEVENTY DEGREES|<BISHOP ROTATED TWO HUNDRED SEVENTY DEGREES",
    "<KNIGHT ROTATED TWO HUNDRED SEVENTY DEGREES|<PAWN ROTATED TWO HUNDRED SEVENTY DEGREES",
    "0BLACK CHESS KING ROTATED TWO HUNDRED SEVENTY DEGREES|<QUEEN ROTATED TWO HUNDRED SEVENTY DEGREES",
    "<ROOK ROTATED TWO HUNDRED SEVENTY DEGREES|<BISHOP ROTATED TWO HUNDRED SEVENTY DEGREES",
    "<KNIGHT ROTATED TWO HUNDRED SEVENTY DEGREES|<PAWN ROTATED TWO HUNDRED SEVENTY DEGREES",
    "0NEUTRAL CHESS KING ROTATED TWO HUNDRED SEVENTY DEGREES|>QUEEN ROTATED TWO HUNDRED SEVENTY DEGREES",
    ">ROOK ROTATED TWO HUNDRED SEVENTY DEGREES|>BISHOP ROTATED TWO HUNDRED SEVENTY DEGREES",
    ">KNIGHT ROTATED TWO HUNDRED SEVENTY DEGREES|>PAWN ROTATED TWO HUNDRED SEVENTY DEGREES",
    "0WHITE CHESS KNIGHT ROTATED THREE HUNDRED FIFTEEN DEGREES",
    "0BLACK CHESS KNIGHT ROTATED THREE HUNDRED FIFTEEN DEGREES",
    "0NEUTRAL CHESS KNIGHT ROTATED THREE HUNDRED FIFTEEN DEGREES|0WHITE CHESS EQUIHOPPER",
    "0BLACK CHESS EQUIHOPPER|0NEUTRAL CHESS EQUIHOPPER|0WHITE CHESS EQUIHOPPER ROTATED NINETY DEGREES",
    "0BLACK CHESS EQUIHOPPER ROTATED NINETY DEGREES|0NEUTRAL CHESS EQUIHOPPER ROTATED NINETY DEGREES",
    "0WHITE CHESS KNIGHT-QUEEN|CROOK|CBISHOP|0BLACK CHESS KNIGHT-QUEEN|CROOK|CBISHOP"]),
  (0x1fa60, ["0XIANGQI RED GENERAL|<MANDARIN|<ELEPHANT|<HORSE|<CHARIOT|=ANNON|<SOLDIER|8BLACK GENERAL|>MANDARIN",
    ">ELEPHANT|>HORSE|>CHARIOT|?ANNON|>SOLDIER|||0BALLET SHOES|0ONE-PIECE SWIMSUIT|0BRIEFS|0SHORTS",
    "0THONG SANDAL||||0DROP OF BLOOD|0ADHESIVE BANDAGE|0STETHOSCOPE|0X-RAY|0CRUTCH||||0YO-YO|0KITE",
    "0PARACHUTE|0BOOMERANG|0MAGIC WAND|0PINATA|0NESTING DOLLS"]),
  (0x1fa90, ["0RINGED PLANET|0CHAIR|0RAZOR|0AXE|0DIYA LAMP|0BANJO|0MILITARY HELMET|0ACCORDION|0LONG DRUM|0COIN",
    "1ARPENTRY SAW|0SCREWDRIVER|0LADDER|0HOOK|0MIRROR|0WINDOW|0PLUNGER|0SEWING NEEDLE|0KNOT|0BUCKET",
    "0MOUSE TRAP|0TOOTHBRUSH|0HEADSTONE|0PLACARD|0ROCK|0MIRROR BALL|0IDENTIFICATION CARD|0LOW BATTERY",
    "0HAMSA||||0FLY|0WORM|0BEETLE|0COCKROACH|0POTTED PLANT|0WOOD|0FEATHER|0LOTUS|0CORAL|0EMPTY NEST",
    "0NEST WITH EGGS||||||0ANATOMICAL HEART|0LUNGS|0PEOPLE HUGGING|1REGNANT MAN|9PERSON|1ERSON WITH CROWN"]),
  (0x1fad0, ["0BLUEBERRIES|1ELL PEPPER|0OLIVE|0FLATBREAD|0TAMALE|0FONDUE|0TEAPOT|0POURING LIQUID|0BEANS|0JAR||||||",
    "0MELTING FACE|0SALUTING FACE|0FACE WITH OPEN EYES AND HAND OVER MOUTH|:PEEKING EYE|:DIAGONAL MOUTH",
    "0DOTTED LINE FACE|0BITING LIP|1UBBLES"]),
  (0x1faf0, ["0HAND WITH INDEX FINGER AND THUMB CROSSED|0RIGHTWARDS HAND|0LEFTWARDS HAND|0PALM DOWN HAND|5UP HAND",
    "0INDEX POINTING AT THE VIEWER|0HEART HANDS"]),
  (0x1fb00, ["0BLOCK SEXTANT-1|>2|>12|>3|>13|>23|>123|>4|>14|>24|>124|>34|>134|>234|>1234|>5|>15|>25|>125|>35|>235",
    ">1235|>45|>145|>245|>1245|>345|>1345|>2345|>12345|>6|>16|>26|>126|>36|>136|>236|>1236|>46|>146|?246",
    ">346|>1346|>2346|>12346|>56|>156|>256|>1256|>356|>1356|>2356|>12356|>456|>1456|>2456|>12456|>3456",
    ">13456|>23456|0LOWER LEFT BLOCK DIAGONAL LOWER MIDDLE LEFT TO LOWER CENTRE|eRIGHT",
    "JUPPER MIDDLE LEFT TO LOWER CENTRE|eRIGHT|PLEFT TO LOWER CENTRE",
    "6RIGHT BLOCK DIAGONAL UPPER MIDDLE LEFT TO UPPER CENTRE|fRIGHT|KLOWER MIDDLE LEFT TO UPPER CENTRE",
    "fRIGHT|QLEFT TO UPPER CENTRE|QMIDDLE LEFT TO UPPER MIDDLE RIGHT|QCENTRE TO LOWER MIDDLE RIGHT",
    "QLEFT TO LOWER MIDDLE RIGHT|QCENTRE TO UPPER MIDDLE RIGHT|QLEFT TO UPPER MIDDLE RIGHT",
    "QCENTRE TO UPPER RIGHT|6LEFT BLOCK DIAGONAL UPPER CENTRE TO UPPER MIDDLE RIGHT",
    "PLEFT TO UPPER MIDDLE RIGHT|PCENTRE TO LOWER MIDDLE RIGHT|PLEFT TO LOWER MIDDLE RIGHT",
    "PCENTRE TO LOWER RIGHT|PMIDDLE LEFT TO LOWER MIDDLE RIGHT",
    "0UPPER RIGHT BLOCK DIAGONAL LOWER MIDDLE LEFT TO LOWER CENTRE|fRIGHT",
    "KUPPER MIDDLE LEFT TO LOWER CENTRE|fRIGHT|QLEFT TO LOWER CENTRE",
    "6LEFT BLOCK DIAGONAL UPPER MIDDLE LEFT TO UPPER CENTRE|eRIGHT|JLOWER MIDDLE LEFT TO UPPER CENTRE",
    "eRIGHT|PLEFT TO UPPER CENTRE|PMIDDLE LEFT TO UPPER MIDDLE RIGHT|PCENTRE TO LOWER MIDDLE RIGHT",
    "PLEFT TO LOWER MIDDLE RIGHT|PCENTRE TO UPPER MIDDLE RIGHT|PLEFT TO UPPER MIDDLE RIGHT",
    "PCENTRE TO UPPER RIGHT|6RIGHT BLOCK DIAGONAL UPPER CENTRE TO UPPER MIDDLE RIGHT",
    "QLEFT TO UPPER MIDDLE RIGHT|QCENTRE TO LOWER MIDDLE RIGHT|QLEFT TO LOWER MIDDLE RIGHT",
    "QCENTRE TO LOWER RIGHT|QMIDDLE LEFT TO LOWER MIDDLE RIGHT",
    "6AND RIGHT AND LOWER TRIANGULAR THREE QUARTERS BLOCK",
    "0LEFT AND LOWER AND RIGHT TRIANGULAR THREE QUARTERS BLOCK",
    "0UPPER AND LEFT AND LOWER TRIANGULAR THREE QUARTERS BLOCK",
    "0LEFT AND UPPER AND RIGHT TRIANGULAR THREE QUARTERS BLOCK|5TRIANGULAR ONE QUARTER BLOCK",
    "0UPPER TRIANGULAR ONE QUARTER BLOCK|0RIGHT TRIANGULAR ONE QUARTER BLOCK",
    "0LOWER TRIANGULAR ONE QUARTER BLOCK|0VERTICAL ONE EIGHTH BLOCK-2|J3|J4|J5|J6|J7",
    "0HORIZONTAL ONE EIGHTH BLOCK-2|L3|L4|L5|L6|L7|0LEFT AND LOWER ONE EIGHTH BLOCK",
    "9UPPER ONE EIGHTH BLOCK|0RIGHT AND UPPER ONE EIGHTH BLOCK|:LOWER ONE EIGHTH BLOCK",
    "0UPPER AND LOWER ONE EIGHTH BLOCK|0HORIZONTAL ONE EIGHTH BLOCK-1358|0UPPER ONE QUARTER BLOCK",
    "6THREE EIGHTHS BLOCK|6FIVE EIGHTHS BLOCK|6THREE QUARTERS BLOCK|6SEVEN EIGHTHS BLOCK",
    "0RIGHT ONE QUARTER BLOCK|6THREE EIGHTHS BLOCK|6FIVE EIGHTHS BLOCK|6THREE QUARTERS BLOCK",
    "6SEVEN EIGHTHS BLOCK|0LEFT HALF MEDIUM SHADE|0RIGHT HALF MEDIUM SHADE|0UPPER HALF MEDIUM SHADE",
    "0LOWER HALF MEDIUM SHADE|0INVERSE MEDIUM SHADE|0UPPER HALF BLOCK AND LOWER HALF INVERSE MEDIUM SHADE",
    ";INVERSE MEDIUM SHADE AND LOWER HALF BLOCK||0LEFT HALF INVERSE MEDIUM SHADE AND RIGHT HALF BLOCK",
    "0CHECKER BOARD FILL|0INVERSE CHECKER BOARD FILL|0HEAVY HORIZONTAL FILL",
    "0UPPER LEFT TO LOWER RIGHT FILL|6RIGHT TO LOWER LEFT FILL|6AND LOWER TRIANGULAR HALF BLOCK",
    "0LEFT AND RIGHT TRIANGULAR HALF BLOCK|0UPPER LEFT TRIANGULAR MEDIUM SHADE",
    "6RIGHT TRIANGULAR MEDIUM SHADE|0LOWER RIGHT TRIANGULAR MEDIUM SHADE|6LEFT TRIANGULAR MEDIUM SHADE",
    "0BOX DRAWINGS LIGHT DIAGONAL UPPER CENTRE TO MIDDLE LEFT|cRIGHT|LMIDDLE LEFT TO LOWER CENTRE",
    "SRIGHT TO LOWER CENTRE|LUPPER CENTRE TO MIDDLE LEFT TO LOWER CENTRE|cRIGHT TO LOWER CENTRE",
    "LMIDDLE LEFT TO LOWER CENTRE TO MIDDLE RIGHT|[UPPER CENTRE TO MIDDLE RIGHT",
    "LUPPER CENTRE TO MIDDLE LEFT AND MIDDLE RIGHT TO LOWER CENTRE|cRIGHT AND MIDDLE LEFT TO LOWER CENTRE",
    "iTO LOWER CENTRE TO MIDDLE LEFT|cLEFT TO LOWER CENTRE TO MIDDLE RIGHT",
    "LMIDDLE LEFT TO UPPER CENTRE TO MIDDLE RIGHT TO LOWER CENTRE",
    "SRIGHT TO UPPER CENTRE TO MIDDLE LEFT TO LOWER CENTRE|LDIAMOND|CHORIZONTAL WITH VERTICAL STROKE",
    "0ARROWHEAD-SHAPED POINTER|0INVERSE CHECK MARK|0LEFT HALF RUNNING MAN|0RIGHT HALF RUNNING MAN",
    "0INVERSE DOWNWARDS ARROW WITH TIP LEFTWARDS|0LEFTWARDS ARROW AND UPPER AND LOWER ONE EIGHTH BLOCK",
    "0RIGHTWARDS ARROW AND UPPER AND LOWER ONE EIGHTH BLOCK|0DOWNWARDS ARROW AND RIGHT ONE EIGHTH BLOCK",
    "0UPWARDS ARROW AND RIGHT ONE EIGHTH BLOCK|0LEFT HALF FOLDER|0RIGHT HALF FOLDER|0VOIDED GREEK CROSS",
    "0RIGHT OPEN SQUARED DOT|0NEGATIVE DIAGONAL CROSS|BMIDDLE RIGHT TO LOWER CENTRE|BDIAMOND",
    "0WHITE HEAVY SALTIRE WITH ROUNDED CORNERS|0LEFT THIRD WHITE RIGHT POINTING INDEX",
    "0MIDDLE THIRD WHITE RIGHT POINTING INDEX|0RIGHT THIRD WHITE RIGHT POINTING INDEX",
    "0NEGATIVE SQUARED QUESTION MARK|0STICK FIGURE|< WITH ARMS RAISED|=LEANING LEFT|ERIGHT|=WITH DRESS",
    "0WHITE UP-POINTING CHEVRON"]),
  (0x1fbf0, ["0SEGMENTED DIGIT ZERO|@ONE|@TWO|AHREE|@FOUR|AIVE|@SIX|AEVEN|@EIGHT|@NINE"]),
  (0xe0001, ["0LANGUAGE TAG"]),
  (0xe0020, ["0TAG SPACE|4EXCLAMATION MARK|4QUOTATION MARK|4NUMBER SIGN|4DOLLAR SIGN|4PERCENT SIGN|4AMPERSAND",
    "5POSTROPHE|4LEFT PARENTHESIS|4RIGHT PARENTHESIS|4ASTERISK|4PLUS SIGN|4COMMA|4HYPHEN-MINUS|4FULL STOP",
    "4SOLIDUS|4DIGIT ZERO|:ONE|:TWO|;HREE|:FOUR|;IVE|:SIX|;EVEN|:EIGHT|:NINE|4COLON|4SEMICOLON",
    "4LESS-THAN SIGN|4EQUALS SIGN|4GREATER-THAN SIGN|4QUESTION MARK|4COMMERCIAL AT",
    "4LATIN CAPITAL LETTER A|IB|IC|ID|IE|IF|IG|IH|II|IJ|IK|IL|IM|IN|IO|IP|IQ|IR|IS|IT|IU|IV|IW|IX|IY|IZ",
    "5EFT SQUARE BRACKET|4REVERSE SOLIDUS|5IGHT SQUARE BRACKET|4CIRCUMFLEX ACCENT|4LOW LINE|4GRAVE ACCENT",
    "4LATIN SMALL LETTER A|GB|GC|GD|GE|GF|GG|GH|GI|GJ|GK|GL|GM|GN|GO|GP|GQ|GR|GS|GT|GU|GV|GW|GX|GY|GZ",
    "5EFT CURLY BRACKET|4VERTICAL LINE|4RIGHT CURLY BRACKET|4TILDE|0CANCEL TAG"])]

end AccessorForge.Text.CharName.Pictographs

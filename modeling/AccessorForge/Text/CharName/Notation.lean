/-! Names of characters: shorthand, music, mathematical letters and written gestures. -/
namespace AccessorForge.Text.CharName.Notation

def runs : List (Nat × List String) := [
  (0x1bc00, ["0DUPLOYAN LETTER H|@X|@P|@T|@F|@K|@L|@B|@D|@V|@G|@R|@P N|@D S|@F N|@K M|@R S|@TH|@SLOAN DH|@DH|@KK",
    "@SLOAN J|@HL|@LH|@RH|@M|@N|@J|@S|@M N|@N M|@J M|@S J|@M WITH DOT|@N WITH DOT|@J WITH DOT",
    "JS INSIDE AND ABOVE|@S WITH DOT|J BELOW|@M S|@N S|@J S|@S S|@M N S|@N M S|@J M S|@S J S",
    "@J S WITH DOT|BN|C S|@S T|C R|BP|C R|@T S|BR S|@W|AH|A R|@S N|BM|@K R S|@G R S|@S K|C R|@A|@SLOAN OW",
    "@OA|@O|@AOU|@I|@E|@IE|@SHORT I|@UI|@EE|@SLOAN EH|@ROMANIAN I|@SLOAN EE|@LONG I|@YE|@U|@EU|@XW|@U N",
    "@LONG U|@ROMANIAN U|@UH|@SLOAN U|@OOH|AW|AU|@WA|AO|AI|AEI|AOW|@NASAL U|FO|FI|FA|@PERNIN AN|HM",
    "@SLOAN EN|FAN|FON|@VOCALIC M||||||9AFFIX LEFT HORIZONTAL SECANT|?MID HORIZONTAL SECANT",
    "?RIGHT HORIZONTAL SECANT|?LOW VERTICAL SECANT|?MID VERTICAL SECANT|?HIGH VERTICAL SECANT",
    "?ATTACHED SECANT|HLEFT-TO-RIGHT SECANT|HTANGENT|JIL|HE HOOK|HI HOOK|HTANGENT HOOK||||?HIGH ACUTE",
    "DTIGHT ACUTE|DGRAVE|DLONG GRAVE|DDOT|DCIRCLE|DLINE|DWAVE|DVERTICAL||||||||?LOW ACUTE|CTIGHT ACUTE",
    "CGRAVE|CLONG GRAVE|CDOT|CCIRCLE|CLINE|CWAVE|CVERTICAL|CARROW|||9SIGN O WITH CROSS",
    "9THICK LETTER SELECTOR|9DOUBLE MARK|9PUNCTUATION CHINOOK FULL STOP|0SHORTHAND FORMAT LETTER OVERLAP",
    "ACONTINUING OVERLAP|ADOWN STEP|AUP STEP"]),
  (0x1cf00, ["0ZNAMENNY COMBINING MARK GORAZDO NIZKO S KRYZHEM ON LEFT|HNIZKO S KRYZHEM ON LEFT|HTSATA ON LEFT",
    "HGORAZDO NIZKO ON LEFT|HNIZKO ON LEFT|HSREDNE ON LEFT|HMALO POVYSHE ON LEFT|HPOVYSHE ON LEFT",
    "HVYSOKO ON LEFT|HMALO POVYSHE S KHOKHLOM ON LEFT|HPOVYSHE S KHOKHLOM ON LEFT",
    "HVYSOKO S KHOKHLOM ON LEFT|HGORAZDO NIZKO S KRYZHEM ON RIGHT|HNIZKO S KRYZHEM ON RIGHT",
    "HTSATA ON RIGHT|HGORAZDO NIZKO ON RIGHT|HNIZKO ON RIGHT|HSREDNE ON RIGHT|HMALO POVYSHE ON RIGHT",
    "HPOVYSHE ON RIGHT|HVYSOKO ON RIGHT|HMALO POVYSHE S KHOKHLOM ON RIGHT|HPOVYSHE S KHOKHLOM ON RIGHT",
    "HVYSOKO S KHOKHLOM ON RIGHT|HTSATA S KRYZHEM|HMALO POVYSHE S KRYZHEM|HSTRANNO MALO POVYSHE",
    "HPOVYSHE S KRYZHEM|QTRANNO|HVYSOKO S KRYZHEM|HMALO POVYSHE STRANNO|HGORAZDO VYSOKO|HZELO|HON|HRAVNO",
    "HTIKHAYA|HBORZAYA|HUDARKA|HPODVERTKA|HLOMKA|HKUPNAYA|IACHKA|HZEVOK|HSKOBA|HRAZSEKA|HKRYZH ON LEFT||",
    "CTONAL RANGE MARK MRACHNO|TSVETLO|TTRESVETLO|CMARK ZADERZHKA|HDEMESTVENNY ZADERZHKA|HOTSECHKA",
    "HPODCHASHIE|R WITH VERTICAL STROKE|HCHASHKA|O POLNAYA|HOBLACHKO|HSOROCHYA NOZHKA|HTOCHKA|HDVOETOCHIE",
    "CATTACHING VERTICAL OMET|CMARK CURVED OMET|HKRYZH|CLOWER TONAL RANGE INDICATOR",
    "9PRIZNAK MODIFIER LEVEL-2|P3|JDIRECTION FLIP|JKRYZH|JROG"]),
  (0x1cf50, ["0ZNAMENNY NEUME KRYUK|D TIKHY|?PARAKLIT|?DVA V CHELNU|?KLYUCH|?ZANOZHEK|?STOPITSA|G S OCHKOM",
    "?PEREVODKA|H NEPOSTOYANNAYA|?STOPITSA WITH SOROCHYA NOZHKA|?CHELYUSTKA|?PALKA|?ZAPYATAYA",
    "?GOLUBCHIK BORZY|ITIKHY|IMRACHNY|ISVETLY|ITRESVETLY|?VRAKHIYA PROSTAYA|HMRACHNAYA|HSVETLAYA",
    "HTRESVETLAYA|HKLYUCHEVAYA PROSTAYA|TMRACHNAYA|TSVETLAYA|TTRESVETLAYA|?DOUBLE ZAPYATAYA",
    "?REVERSED CHELYUSTKA|?DERBITSA|?KHAMILO|?CHASHKA|?PODCHASHIE|?SKAMEYTSA MRACHNAYA|ISVETLAYA",
    "ITRESVETLAYA|JIKHAYA|?DEMESTVENNY KLYUCH|?SKAMEYTSA KLYUCHEVAYA SVETLAYA|PNEPOSTOYANNAYA",
    "PVAYA TIKHAYA|IDVOECHELNAYA PROSTAYA|VSVETLAYA|VNEPOSTOYANNAYA|VKLYUCHEVAYA|@LOZHITIE|H S ZAPYATOY",
    "IZAKRYTOE|IS KRYZHEM|?KRYZH|?ROG|?FITA|?KOBYLA|?ZMEYTSA|?STATYA|E S ZAPYATOY|HKRYZHEM",
    "HZAPYATOY I KRYZHEM|HKRYZHEM I ZAPYATOY|FZAKRYTAYA|O S ZAPYATOY|FS ROGOM|HDVUMYA ZAPYATYMI",
    "HZAPYATOY I PODCHASHIEM|?POLKULIZMY|?STATYA NEPOSTOYANNAYA|ARELA PROSTAYA|FMRACHNOTIKHAYA",
    "FKRYZHEVAYA|FPOLUPOVODNAYA|HVODNAYA|FNEPOSTOYANNAYA|FKLYUCHEPOVODNAYA|MNEPOSTOYANNAYA",
    "FTIKHAYA PUTNAYA|FDVOECHELNAYA|OOKRYZHEVAYA|PPOVODNAYA|OAYA KLYUCHEVAYA|OOPOVODNAYA KLYUCHEVAYA",
    "FGROMNAYA WITH SINGLE ZAPYATAYA|JOPOVODNAYA WITH SINGLE ZAPYATAYA|JNAYA|JOPOVODNAYA",
    "T WITH DOUBLE ZAPYATAYA|KKRYZHEVAYA|U POVODNAYA|?MECHIK|E POVODNY|FKLYUCHEVOY|MPOVODNY|MNEPOSTOYANNY",
    "?STRELA TRYASOGLASNAYA|LPOVODNAYA|LSTRELNAYA|?OSOKA|D SVETLAYA|ETRESVETLAYA|EKRYUKOVAYA SVETLAYA",
    "FLYUCHEVAYA SVETLAYA|QNEPOSTOYANNAYA|?STRELA KRYUKOVAYA|P POVODNAYA|QGROMNAYA WITH SINGLE ZAPYATAYA",
    "UOPOVODNAYA WITH SINGLE ZAPYATAYA|UNAYA|UOPOVODNAYA|_ WITH DOUBLE ZAPYATAYA|VKRYZHEVAYA|_A POVODNAYA",
    "QTRYASKA|?KUFISMA|?OBLAKO|?DUDA|?NEMKA|?PAUK"]),
  (0x1d000, ["0BYZANTINE MUSICAL SYMBOL PSILI|IDASEIA|IPERISPOMENI|IOXEIA EKFONITIKON|ODIPLI|IVAREIA EKFONITIKON",
    "PDIPLI|IKATHISTI|ISYRMATIKI|IPARAKLITIKI|IYPOKRISIS|R DIPLI|IKREMASTI|IAPESO EKFONITIKON",
    "IEXO EKFONITIKON|ITELEIA|IKENTIMATA|IAPOSTROFOS|S DIPLI|ISYNEVMA|ITHITA|IOLIGON ARCHAION",
    "IGORGON ARCHAION|IPSILON|ICHAMILON|IVATHY|IISON ARCHAION|IKENTIMA ARCHAION|PTA ARCHAION|ISAXIMATA",
    "IPARICHON|ISTAVROS APODEXIA|IOXEIAI ARCHAION|IVAREIAI ARCHAION|IAPODERMA ARCHAION|LTHEMA|IKLASMA",
    "IREVMA|IPIASMA ARCHAION|ITINAGMA|IANATRICHISMA|ISEISMA|JYNAGMA ARCHAION|QMETA STAVROU",
    "IOYRANISMA ARCHAION|ITHEMA|ILEMOI|IDYO|ITRIA|JESSERA|IKRATIMATA|IAPESO EXO NEO|IFTHORA ARCHAION",
    "IIMIFTHORA|ITROMIKON ARCHAION|IKATAVA TROMIKON|IPELASTON|JSIFISTON|IKONTEVMA|ICHOREVMA ARCHAION",
    "IRAPISMA|IPARAKALESMA ARCHAION|NLITIKI ARCHAION|IICHADIN|INANA|IPETASMA|IKONTEVMA ALLO",
    "ITROMIKON ALLO|ISTRAGGISMATA|IGRONTHISMATA|IISON NEO|IOLIGON NEO|JXEIA NEO|IPETASTI|IKOUFISMA",
    "IPETASTOKOUFISMA|IKRATIMOKOUFISMA|IPELASTON NEO|IKENTIMATA NEO ANO|P NEO ANO|IYPSILI|IAPOSTROFOS NEO",
    "RI SYNDESMOS NEO|IYPORROI|IKRATIMOYPORROON|IELAFRON|ICHAMILI|IMIKRON ISON|IVAREIA NEO|IPIASMA NEO",
    "JSIFISTON NEO|IOMALON|IANTIKENOMA|ILYGISMA|IPARAKLITIKI NEO|NALESMA NEO|IETERON PARAKALESMA|IKYLISMA",
    "IANTIKENOKYLISMA|ITROMIKON NEO|IEKSTREPTON|ISYNAGMA NEO|KRMA|ICHOREVMA NEO|IEPEGERMA|ISEISMA NEO",
    "IXIRON KLASMA|ITROMIKOPSIFISTON|IPSIFISTOLYGISMA|ITROMIKOLYGISMA|PPARAKALESMA|IPSIFISTOPARAKALESMA",
    "ITROMIKOSYNAGMA|IPSIFISTOSYNAGMA|IGORGOSYNTHETON|IARGOSYNTHETON|IETERON ARGOSYNTHETON|IOYRANISMA NEO",
    "ITHEMATISMOS ESO|VXO|N APLOUN|LS KAI APOTHES|IKATAVASMA|IENDOFONON|IYFEN KATO|NANO|ISTAVROS",
    "IKLASMA ANO|IDIPLI ARCHAION|IKRATIMA ARCHAION|RLLO|QNEO|IAPODERMA NEO|KLI|IDIPLI|ITRIPLI|JETRAPLI",
    "IKORONIS|ILEIMMA ENOS CHRONOU|PDYO CHRONON|PTRION CHRONON|QESSARON CHRONON|PIMISEOS CHRONOU",
    "IGORGON NEO ANO|PPARESTIGMENON ARISTERA|^DEXIA|IDIGORGON|Q PARESTIGMENON ARISTERA KATO|iANO|_ DEXIA",
    "ITRIGORGON|IARGON|IIMIDIARGON|IDIARGON|IAGOGI POLI ARGI|OARGOTERI|RI|OMETRIA|QSI|OGORGI|SOTERI",
    "OPOLI GORGI|IMARTYRIA PROTOS ICHOS|RALLI PROTOS ICHOS|RDEYTEROS ICHOS|RALLI DEYTEROS ICHOS",
    "RTRITOS ICHOS|UFONIAS|SETARTOS ICHOS|[LEGETOS ICHOS|RLEGETOS ICHOS|RPLAGIOS ICHOS",
    "IISAKIA TELOUS ICHIMATOS|IAPOSTROFOI TELOUS ICHIMATOS|IFANEROSIS TETRAFONIAS|SMONOFONIAS|SDIFONIAS",
    "IMARTYRIA VARYS ICHOS|RPROTOVARYS ICHOS|SLAGIOS TETARTOS ICHOS|IGORTHMIKON N APLOUN|VDIPLOUN",
    "IENARXIS KAI FTHORA VOU|IIMIFONON|MTHORON|IFTHORA ARCHAION DEYTEROU ICHOU|PDIATONIKI PA|ZNANA",
    "PNAOS ICHOS|PDIATONIKI DI|PSKLIRON DIATONON DI|PDIATONIKI KE|ZZO|ZNI KATO|]ANO",
    "PMALAKON CHROMA DIFONIAS|_MONOFONIAS|JHTORA SKLIRON CHROMA VASIS|JTHORA SKLIRON CHROMA SYNAFI",
    "PNENANO|ICHROA ZYGOS|OKLITON|OSPATHI|IFTHORA I YFESIS TETARTIMORION|PENARMONIOS ANTIFONIA",
    "IYFESIS TRITIMORION|IDIESIS TRITIMORION|QETARTIMORION|PAPLI DYO DODEKATA",
    "PMONOGRAMMOS TESSERA DODEKATA|PDIGRAMMOS EX DODEKATA|PTRIGRAMMOS OKTO DODEKATA",
    "IYFESIS APLI DYO DODEKATA|PMONOGRAMMOS TESSERA DODEKATA|PDIGRAMMOS EX DODEKATA",
    "PTRIGRAMMOS OKTO DODEKATA|IGENIKI DIESIS|PYFESIS|IDIASTOLI APLI MIKRI|XEGALI|RDIPLI|RTHESEOS",
    "ISIMANSIS THESEOS|Y DISIMOU|ZTRISIMOU|[ETRASIMOU|RARSEOS|X DISIMOU|YTRISIMOU|ZETRASIMOU|IDIGRAMMA GG",
    "KFTOGGOS OU|ISTIGMA|IARKTIKO PA|QVOU|QGA|QDI|QKE|QZO|QNI|IKENTIMATA NEO MESO|P NEO MESO|PTA NEO KATO",
    "P NEO KATO|JLASMA KATO|IGORGON NEO KATO"]),
  (0x1d100, ["0MUSICAL SYMBOL SINGLE BARLINE|?DOUBLE BARLINE|?FINAL BARLINE|?REVERSE FINAL BARLINE|?DASHED BARLINE",
    "?SHORT BARLINE|?LEFT REPEAT SIGN|?RIGHT REPEAT SIGN|@EPEAT DOTS|?DAL SEGNO|A CAPO|?SEGNO|?CODA",
    "?REPEATED FIGURE-1|O2|O3|?FERMATA|F BELOW|?BREATH MARK|?CAESURA|?BRACE|CKET|?ONE-LINE STAFF",
    "?TWO-LINE STAFF|@HREE-LINE STAFF|?FOUR-LINE STAFF|@IVE-LINE STAFF|?SIX-LINE STAFF|CSTRING FRETBOARD",
    "?FOUR-STRING FRETBOARD|?G CLEF|E OTTAVA ALTA|MBASSA|?C CLEF|?F CLEF|E OTTAVA ALTA|MBASSA",
    "?DRUM CLEF-1|I2|||?MULTIPLE MEASURE REST|?DOUBLE SHARP|FFLAT|?FLAT UP|DDOWN|?NATURAL UP|GDOWN",
    "?SHARP UP|EDOWN|?QUARTER TONE SHARP|LFLAT|?COMMON TIME|@UT TIME|?OTTAVA ALTA|FBASSA",
    "?QUINDICESIMA ALTA|LBASSA|?MULTI REST|?WHOLE REST|?HALF REST|?QUARTER REST|?EIGHTH REST",
    "?SIXTEENTH REST|?THIRTY-SECOND REST|?SIXTY-FOURTH REST|?ONE HUNDRED TWENTY-EIGHTH REST|?X NOTEHEAD",
    "?PLUS NOTEHEAD|?CIRCLE X NOTEHEAD|?SQUARE NOTEHEAD WHITE|OBLACK|?TRIANGLE NOTEHEAD UP WHITE|TBLACK",
    "QLEFT WHITE|VBLACK|QRIGHT WHITE|WBLACK|QDOWN WHITE|VBLACK|QUP RIGHT WHITE|ZBLACK",
    "?MOON NOTEHEAD WHITE|MBLACK|?TRIANGLE-ROUND NOTEHEAD DOWN WHITE|[ BLACK|?PARENTHESIS NOTEHEAD",
    "?VOID NOTEHEAD|?NOTEHEAD BLACK|@ULL NOTEHEAD|?CLUSTER NOTEHEAD WHITE|PBLACK|?BREVE|?WHOLE NOTE",
    "?HALF NOTE|?QUARTER NOTE|?EIGHTH NOTE|?SIXTEENTH NOTE|?THIRTY-SECOND NOTE|?SIXTY-FOURTH NOTE",
    "?ONE HUNDRED TWENTY-EIGHTH NOTE|?COMBINING STEM|JPRECHGESANG STEM|ITREMOLO-1|Q2|Q3",
    "?FINGERED TREMOLO-1|P2|P3|?COMBINING AUGMENTATION DOT|IFLAG-1|N2|N3|N4|N5|?BEGIN BEAM|?END BEAM",
    "?BEGIN TIE|?END TIE|?BEGIN SLUR|?END SLUR|?BEGIN PHRASE|?END PHRASE|?COMBINING ACCENT|ISTACCATO",
    "ITENUTO|ISTACCATISSIMO|IMARCATO|P-STACCATO|IACCENT-STACCATO|ILOURE|?ARPEGGIATO UP|JDOWN",
    "?COMBINING DOIT|IRIP|IFLIP|ISMEAR|IBEND|IDOUBLE TONGUE|ITRIPLE TONGUE|?RINFORZANDO|?SUBITO|?Z|?PIANO",
    "?MEZZO|?FORTE|?CRESCENDO|?DECRESCENDO|?GRACE NOTE SLASH|JNO SLASH|?TR|@URN|?INVERTED TURN",
    "?TURN SLASH|DUP|?ORNAMENT STROKE-1|O2|O3|O4|O5|O6|O7|O8|O9|O10|P1|?HAUPTSTIMME|?NEBENSTIMME",
    "?END OF STIMME|?DEGREE SLASH|?COMBINING DOWN BOW|IUP BOW|IHARMONIC|ISNAP PIZZICATO|?PEDAL MARK",
    "EUP MARK|?HALF PEDAL MARK|?GLISSANDO UP|IDOWN|?WITH FINGERNAILS|?DAMP|C ALL|?MAXIMA|?LONGA|?BREVIS",
    "?SEMIBREVIS WHITE|JBLACK|?MINIMA|E BLACK|?SEMIMINIMA WHITE|JBLACK|?FUSA WHITE|DBLACK",
    "?LONGA PERFECTA REST|EIMPERFECTA REST|?BREVIS REST|?SEMIBREVIS REST|?MINIMA REST|?SEMIMINIMA REST",
    "?TEMPUS PERFECTUM CUM PROLATIONE PERFECTA|_IMPERFECTA|_PERFECTA DIMINUTION-1",
    "FIMPERFECTUM CUM PROLATIONE PERFECTA|aIMPERFECTA|k DIMINUTION-1|w2|w3|?CROIX|?GREGORIAN C CLEF",
    "IF CLEF|?SQUARE B|?VIRGA|?PODATUS|?CLIVIS|?SCANDICUS|?CLIMACUS|?TORCULUS|?PORRECTUS|H FLEXUS",
    "?SCANDICUS FLEXUS|?TORCULUS RESUPINUS|?PES SUBPUNCTIS|?KIEVAN C CLEF|FEND OF PIECE|FFINAL NOTE",
    "FRECITATIVE MARK|FWHOLE NOTE|FHALF NOTE|FQUARTER NOTE STEM DOWN|XUP|FEIGHTH NOTE STEM DOWN|WUP",
    "FFLAT SIGN|?SORI|?KORON"]),
  (0x1d200, ["0GREEK VOCAL NOTATION SYMBOL-1|L2|L3|L4|L5|L6|L7|L8|L9|L10|M1|M2|M3|M4|M5|M6|M7|M8|M9|L20|M1|M2|M3",
    "M4|L50|M1|M2|M3|M4|6INSTRUMENTAL NOTATION SYMBOL-1|S2|S4|S5|S7|S8|S11|T2|T3|T4|T7|T8|T9|S23|T4|T5|T6",
    "T7|T9|S30|T2|T6|T7|T8|T9|S40|T2|T3|T5|T7|T8|T9|S50|T1|T2|T3|T4|0COMBINING GREEK MUSICAL TRISEME",
    "IETRASEME|HPENTASEME|0GREEK MUSICAL LEIMMA"]),
  (0x1d2e0, ["0MAYAN NUMERAL ZERO|>ONE|>TWO|?HREE|>FOUR|?IVE|>SIX|?EVEN|>EIGHT|>NINE|>TEN|>ELEVEN|>TWELVE|?HIRTEEN",
    ">FOURTEEN|?IFTEEN|>SIXTEEN|?EVENTEEN|>EIGHTEEN|>NINETEEN"]),
  (0x1d300, ["0MONOGRAM FOR EARTH|0DIGRAM FOR HEAVENLY EARTH|<UMAN EARTH|;EARTHLY HEAVEN|DUMAN|?H",
    "0TETRAGRAM FOR CENTRE|>FULL CIRCLE|>MIRED|>BARRIER|>KEEPING SMALL|>CONTRARIETY|>ASCENT|>OPPOSITION",
    ">BRANCHING OUT|>DEFECTIVENESS OR DISTORTION|?IVERGENCE|>YOUTHFULNESS|>INCREASE|>PENETRATION|>REACH",
    ">CONTACT|>HOLDING BACK|>WAITING|>FOLLOWING|>ADVANCE|>RELEASE|@SISTANCE|>EASE|>JOY|>CONTENTION",
    ">ENDEAVOUR|>DUTIES|>CHANGE|>DECISIVENESS|>BOLD RESOLUTION|>PACKING|>LEGION|>CLOSENESS|>KINSHIP",
    ">GATHERING|>STRENGTH|>PURITY|>FULLNESS|>RESIDENCE|>LAW OR MODEL|>RESPONSE|>GOING TO MEET|>ENCOUNTERS",
    ">STOVE|>GREATNESS|>ENLARGEMENT|>PATTERN|>RITUAL|>FLIGHT|>VASTNESS OR WASTING|>CONSTANCY|>MEASURE",
    ">ETERNITY|>UNITY|>DIMINISHMENT|>CLOSED MOUTH|>GUARDEDNESS|?ATHERING IN|>MASSING|>ACCUMULATION",
    ">EMBELLISHMENT|>DOUBT|>WATCH|>SINKING|>INNER|>DEPARTURE|?ARKENING|?IMMING|>EXHAUSTION|>SEVERANCE",
    "?TOPPAGE|>HARDNESS|>COMPLETION|?LOSURE|>FAILURE|>AGGRAVATION|>COMPLIANCE|>ON THE VERGE|>DIFFICULTIES",
    ">LABOURING|>FOSTERING"]),
  (0x1d360, ["0COUNTING ROD UNIT DIGIT ONE|HTWO|IHREE|HFOUR|IIVE|HSIX|IEVEN|HEIGHT|HNINE|=TENS DIGIT ONE|HTWO",
    "IHREE|HFOUR|IIVE|HSIX|IEVEN|HEIGHT|HNINE|0IDEOGRAPHIC TALLY MARK ONE|GTWO|HHREE|GFOUR|HIVE",
    "0TALLY MARK ONE|;FIVE"]),
  (0x1d400, ["0MATHEMATICAL BOLD CAPITAL A|JB|JC|JD|JE|JF|JG|JH|JI|JJ|JK|JL|JM|JN|JO|JP|JQ|JR|JS|JT|JU|JV|JW|JX|JY",
    "JZ|BSMALL A|HB|HC|HD|HE|HF|HG|HH|HI|HJ|HK|HL|HM|HN|HO|HP|HQ|HR|HS|HT|HU|HV|HW|HX|HY|HZ",
    "=ITALIC CAPITAL A|LB|LC|LD|LE|LF|LG|LH|LI|LJ|LK|LL|LM|LN|LO|LP|LQ|LR|LS|LT|LU|LV|LW|LX|LY|LZ",
    "DSMALL A|JB|JC|JD|JE|JF|JG||JI|JJ|JK|JL|JM|JN|JO|JP|JQ|JR|JS|JT|JU|JV|JW|JX|JY|JZ",
    "=BOLD ITALIC CAPITAL A|QB|QC|QD|QE|QF|QG|QH|QI|QJ|QK|QL|QM|QN|QO|QP|QQ|QR|QS|QT|QU|QV|QW|QX|QY|QZ",
    "ISMALL A|OB|OC|OD|OE|OF|OG|OH|OI|OJ|OK|OL|OM|ON|OO|OP|OQ|OR|OS|OT|OU|OV|OW|OX|OY|OZ",
    "=SCRIPT CAPITAL A||LC|LD|||LG|||LJ|LK|||LN|LO|LP|LQ||LS|LT|LU|LV|LW|LX|LY|LZ|DSMALL A|JB|JC|JD||JF|",
    "JH|JI|JJ|JK|JL|JM|JN||JP|JQ|JR|JS|JT|JU|JV|JW|JX|JY|JZ|=BOLD SCRIPT CAPITAL A|QB|QC|QD|QE|QF|QG|QH",
    "QI|QJ|QK|QL|QM|QN|QO|QP|QQ|QR|QS|QT|QU|QV|QW|QX|QY|QZ|ISMALL A|OB|OC|OD|OE|OF|OG|OH|OI|OJ|OK|OL|OM",
    "ON|OO|OP|OQ|OR|OS|OT|OU|OV|OW|OX|OY|OZ|=FRAKTUR CAPITAL A|MB||MD|ME|MF|MG|||MJ|MK|ML|MM|MN|MO|MP|MQ|",
    "MS|MT|MU|MV|MW|MX|MY||ESMALL A|KB|KC|KD|KE|KF|KG|KH|KI|KJ|KK|KL|KM|KN|KO|KP|KQ|KR|KS|KT|KU|KV|KW|KX",
    "KY|KZ|=DOUBLE-STRUCK CAPITAL A|SB||SD|SE|SF|SG||SI|SJ|SK|SL|SM||SO||||SS|ST|SU|SV|SW|SX|SY||KSMALL A",
    "QB|QC|QD|QE|QF|QG|QH|QI|QJ|QK|QL|QM|QN|QO|QP|QQ|QR|QS|QT|QU|QV|QW|QX|QY|QZ|=BOLD FRAKTUR CAPITAL A",
    "RB|RC|RD|RE|RF|RG|RH|RI|RJ|RK|RL|RM|RN|RO|RP|RQ|RR|RS|RT|RU|RV|RW|RX|RY|RZ|JSMALL A|PB|PC|PD|PE|PF",
    "PG|PH|PI|PJ|PK|PL|PM|PN|PO|PP|PQ|PR|PS|PT|PU|PV|PW|PX|PY|PZ|=SANS-SERIF CAPITAL A|PB|PC|PD|PE|PF|PG",
    "PH|PI|PJ|PK|PL|PM|PN|PO|PP|PQ|PR|PS|PT|PU|PV|PW|PX|PY|PZ|HSMALL A|NB|NC|ND|NE|NF|NG|NH|NI|NJ|NK|NL",
    "NM|NN|NO|NP|NQ|NR|NS|NT|NU|NV|NW|NX|NY|NZ|HBOLD CAPITAL A|UB|UC|UD|UE|UF|UG|UH|UI|UJ|UK|UL|UM|UN|UO",
    "UP|UQ|UR|US|UT|UU|UV|UW|UX|UY|UZ|MSMALL A|SB|SC|SD|SE|SF|SG|SH|SI|SJ|SK|SL|SM|SN|SO|SP|SQ|SR|SS|ST",
    "SU|SV|SW|SX|SY|SZ|HITALIC CAPITAL A|WB|WC|WD|WE|WF|WG|WH|WI|WJ|WK|WL|WM|WN|WO|WP|WQ|WR|WS|WT|WU|WV",
    "WW|WX|WY|WZ|OSMALL A|UB|UC|UD|UE|UF|UG|UH|UI|UJ|UK|UL|UM|UN|UO|UP|UQ|UR|US|UT|UU|UV|UW|UX|UY|UZ",
    "HBOLD ITALIC CAPITAL A|[ B|[ C|[ D|[ E|[ F|[ G|[ H|[ I|[ J|[ K|[ L|[ M|[ N|[ O|[ P|[ Q|[ R|[ S|[ T",
    "[ U|[ V|[ W|[ X|[ Y|[ Z|TSMALL A|ZB|ZC|ZD|ZE|ZF|ZG|ZH|ZI|ZJ|ZK|ZL|ZM|ZN|ZO|ZP|ZQ|ZR|ZS|ZT|ZU|ZV|ZW",
    "ZX|ZY|ZZ|=MONOSPACE CAPITAL A|OB|OC|OD|OE|OF|OG|OH|OI|OJ|OK|OL|OM|ON|OO|OP|OQ|OR|OS|OT|OU|OV|OW|OX",
    "OY|OZ|GSMALL A|MB|MC|MD|ME|MF|MG|MH|MI|MJ|MK|ML|MM|MN|MO|MP|MQ|MR|MS|MT|MU|MV|MW|MX|MY|MZ",
    "=ITALIC SMALL DOTLESS I|RJ|||=BOLD CAPITAL ALPHA|JBETA|JGAMMA|JDELTA|JEPSILON|JZETA|JETA|JTHETA",
    "JIOTA|JKAPPA|JLAMDA|JMU|JNU|JXI|JOMICRON|JPI|JRHO|JTHETA SYMBOL|JSIGMA|JTAU|JUPSILON|JPHI|JCHI|JPSI",
    "JOMEGA|BNABLA|BSMALL ALPHA|HBETA|HGAMMA|HDELTA|HEPSILON|HZETA|HETA|HTHETA|HIOTA|HKAPPA|HLAMDA|HMU",
    "HNU|HXI|HOMICRON|HPI|HRHO|HFINAL SIGMA|HSIGMA|HTAU|HUPSILON|HPHI|HCHI|HPSI|HOMEGA",
    "BPARTIAL DIFFERENTIAL|BEPSILON SYMBOL|BTHETA SYMBOL|BKAPPA SYMBOL|BPHI SYMBOL|BRHO SYMBOL|BPI SYMBOL",
    "=ITALIC CAPITAL ALPHA|LBETA|LGAMMA|LDELTA|LEPSILON|LZETA|LETA|LTHETA|LIOTA|LKAPPA|LLAMDA|LMU|LNU|LXI",
    "LOMICRON|LPI|LRHO|LTHETA SYMBOL|LSIGMA|LTAU|LUPSILON|LPHI|LCHI|LPSI|LOMEGA|DNABLA|DSMALL ALPHA|JBETA",
    "JGAMMA|JDELTA|JEPSILON|JZETA|JETA|JTHETA|JIOTA|JKAPPA|JLAMDA|JMU|JNU|JXI|JOMICRON|JPI|JRHO",
    "JFINAL SIGMA|JSIGMA|JTAU|JUPSILON|JPHI|JCHI|JPSI|JOMEGA|DPARTIAL DIFFERENTIAL|DEPSILON SYMBOL",
    "DTHETA SYMBOL|DKAPPA SYMBOL|DPHI SYMBOL|DRHO SYMBOL|DPI SYMBOL|=BOLD ITALIC CAPITAL ALPHA|QBETA",
    "QGAMMA|QDELTA|QEPSILON|QZETA|QETA|QTHETA|QIOTA|QKAPPA|QLAMDA|QMU|QNU|QXI|QOMICRON|QPI|QRHO",
    "QTHETA SYMBOL|QSIGMA|QTAU|QUPSILON|QPHI|QCHI|QPSI|QOMEGA|INABLA|ISMALL ALPHA|OBETA|OGAMMA|ODELTA",
    "OEPSILON|OZETA|OETA|OTHETA|OIOTA|OKAPPA|OLAMDA|OMU|ONU|OXI|OOMICRON|OPI|ORHO|OFINAL SIGMA|OSIGMA",
    "OTAU|OUPSILON|OPHI|OCHI|OPSI|OOMEGA|IPARTIAL DIFFERENTIAL|IEPSILON SYMBOL|ITHETA SYMBOL",
    "IKAPPA SYMBOL|IPHI SYMBOL|IRHO SYMBOL|IPI SYMBOL|=SANS-SERIF BOLD CAPITAL ALPHA|UBETA|UGAMMA|UDELTA",
    "UEPSILON|UZETA|UETA|UTHETA|UIOTA|UKAPPA|ULAMDA|UMU|UNU|UXI|UOMICRON|UPI|URHO|UTHETA SYMBOL|USIGMA",
    "UTAU|UUPSILON|UPHI|UCHI|UPSI|UOMEGA|MNABLA|MSMALL ALPHA|SBETA|SGAMMA|SDELTA|SEPSILON|SZETA|SETA",
    "STHETA|SIOTA|SKAPPA|SLAMDA|SMU|SNU|SXI|SOMICRON|SPI|SRHO|SFINAL SIGMA|SSIGMA|STAU|SUPSILON|SPHI|SCHI",
    "SPSI|SOMEGA|MPARTIAL DIFFERENTIAL|MEPSILON SYMBOL|MTHETA SYMBOL|MKAPPA SYMBOL|MPHI SYMBOL",
    "MRHO SYMBOL|MPI SYMBOL|MITALIC CAPITAL ALPHA|[ BETA|[ GAMMA|[ DELTA|[ EPSILON|[ ZETA|[ ETA|[ THETA",
    "[ IOTA|[ KAPPA|[ LAMDA|[ MU|[ NU|[ XI|[ OMICRON|[ PI|[ RHO|[ THETA SYMBOL|[ SIGMA|[ TAU|[ UPSILON",
    "[ PHI|[ CHI|[ PSI|[ OMEGA|TNABLA|TSMALL ALPHA|ZBETA|ZGAMMA|ZDELTA|ZEPSILON|ZZETA|ZETA|ZTHETA|ZIOTA",
    "ZKAPPA|ZLAMDA|ZMU|ZNU|ZXI|ZOMICRON|ZPI|ZRHO|ZFINAL SIGMA|ZSIGMA|ZTAU|ZUPSILON|ZPHI|ZCHI|ZPSI|ZOMEGA",
    "TPARTIAL DIFFERENTIAL|TEPSILON SYMBOL|TTHETA SYMBOL|TKAPPA SYMBOL|TPHI SYMBOL|TRHO SYMBOL|TPI SYMBOL",
    "=BOLD CAPITAL DIGAMMA|BSMALL DIGAMMA|||BDIGIT ZERO|HONE|HTWO|IHREE|HFOUR|IIVE|HSIX|IEVEN|HEIGHT",
    "HNINE|=DOUBLE-STRUCK DIGIT ZERO|QONE|QTWO|RHREE|QFOUR|RIVE|QSIX|REVEN|QEIGHT|QNINE",
    "=SANS-SERIF DIGIT ZERO|NONE|NTWO|OHREE|NFOUR|OIVE|NSIX|OEVEN|NEIGHT|NNINE|HBOLD DIGIT ZERO|SONE|STWO",
    "THREE|SFOUR|TIVE|SSIX|TEVEN|SEIGHT|SNINE|=MONOSPACE DIGIT ZERO|MONE|MTWO|NHREE|MFOUR|NIVE|MSIX|NEVEN",
    "MEIGHT|MNINE|0SIGNWRITING HAND-FIST INDEX|ACIRCLE INDEX|BUP INDEX|AOVAL INDEX|AHINGE INDEX",
    "AANGLE INDEX|AFIST INDEX BENT|ACIRCLE INDEX BENT|AFIST THUMB UNDER INDEX BENT|FINDEX RAISED KNUCKLE",
    "LCUPPED|LHINGED|R LOW|ACIRCLE INDEX HINGE|AFIST INDEX MIDDLE|ACIRCLE INDEX MIDDLE",
    "AFIST INDEX MIDDLE BENT|SRAISED KNUCKLES|SHINGED|LUP MIDDLE HINGED|LHINGED MIDDLE UP",
    "LMIDDLE CONJOINED|[D INDEX BENT|]MIDDLE BENT|]CUPPED|]HINGED|TROSSED|ACIRCLE INDEX MIDDLE CROSSED",
    "AFIST MIDDLE BENT OVER INDEX|FINDEX BENT OVER MIDDLE|LMIDDLE THUMB|ACIRCLE INDEX MIDDLE THUMB",
    "AFIST INDEX MIDDLE STRAIGHT THUMB BENT|SBENT THUMB STRAIGHT|STHUMB BENT|SHINGED SPREAD THUMB SIDE",
    "LUP MIDDLE HINGED THUMB SIDE|cCONJOINED|LHINGED MIDDLE UP THUMB SIDE|LMIDDLE UP SPREAD THUMB FORWARD",
    "STHUMB CUPPED|ZIRCLED|YHOOKED|ZINGED|FTHUMB BETWEEN INDEX MIDDLE STRAIGHT",
    "FINDEX MIDDLE CONJOINED THUMB SIDE|g CONJOINED|hBENT|FMIDDLE THUMB HOOKED INDEX UP",
    "FINDEX THUMB HOOKED MIDDLE UP|LMIDDLE CONJOINED HINGED THUMB SIDE|TROSSED THUMB SIDE",
    "TONJOINED THUMB FORWARD|]CUPPED THUMB FORWARD|FMIDDLE THUMB CUPPED INDEX UP",
    "FINDEX THUMB CUPPED MIDDLE UP|FMIDDLE THUMB CIRCLED INDEX UP|aHINGED",
    "FINDEX THUMB ANGLED OUT MIDDLE UP|YIN MIDDLE UP|RCIRCLED MIDDLE UP|LMIDDLE THUMB CONJOINED HINGED",
    "YANGLED OUT|^D|FMIDDLE THUMB ANGLED OUT INDEX UP|dCROSSED|ZINDEX UP",
    "FINDEX THUMB HOOKED MIDDLE HINGED|BLAT FOUR FINGERS|R BENT|SHINGED|SCONJOINED|[D SPLIT",
    "ACLAW FOUR FINGERS CONJOINED|AFIST FOUR FINGERS CONJOINED BENT|AHINGE FOUR FINGERS CONJOINED",
    "AFLAT FIVE FINGERS SPREAD|FHEEL FIVE FINGERS SPREAD|FFIVE FINGERS SPREAD FOUR BENT",
    "FHEEL FIVE FINGERS SPREAD FOUR BENT|FFIVE FINGERS SPREAD BENT|FHEEL FIVE FINGERS SPREAD BENT",
    "FFIVE FINGERS SPREAD THUMB FORWARD|ACUP FIVE FINGERS SPREAD|X OPEN|AHINGE FIVE FINGERS SPREAD OPEN",
    "AOVAL FIVE FINGERS SPREAD|AFLAT FIVE FINGERS SPREAD HINGED|_D THUMB SIDE|aNO THUMB|DT",
    "E BETWEEN PALM FACINGS|FHEEL|FTHUMB SIDE|FHEEL THUMB SIDE|FTHUMB BENT|LFORWARD",
    "FSPLIT INDEX THUMB SIDE|LCENTRE|R THUMB SIDE|] BENT|LLITTLE|ACLAW|E THUMB SIDE|FNO THUMB",
    "FTHUMB FORWARD|AHOOK CURLICUE|DK|ACUP OPEN|CP|D OPEN THUMB SIDE|ETHUMB SIDE|EOPEN NO THUMB|ENO THUMB",
    "EOPEN THUMB FORWARD|ETHUMB FORWARD|CRLICUE OPEN|HE|BIRCLE|AOVAL|E THUMB SIDE|FNO THUMB",
    "FTHUMB FORWARD|AHINGE OPEN|K THUMB FORWARD|EE|F SMALL|GOPEN THUMB SIDE|GTHUMB SIDE|GOPEN NO THUMB",
    "GNO THUMB|GTHUMB SIDE TOUCHING INDEX|MBETWEEN MIDDLE RING|AANGLE|AFIST INDEX MIDDLE RING",
    "ACIRCLE INDEX MIDDLE RING|AHINGE INDEX MIDDLE RING|AANGLE INDEX MIDDLE RING|AHINGE LITTLE",
    "AFIST INDEX MIDDLE RING BENT|XCONJOINED|AHINGE INDEX MIDDLE RING CONJOINED|AFIST LITTLE DOWN",
    "Q RIPPLE STRAIGHT|YCURVED|ROTHERS CIRCLED|MUP|FTHUMB UNDER LITTLE UP|ACIRCLE LITTLE UP",
    "AOVAL LITTLE UP|AANGLE LITTLE UP|AFIST LITTLE RAISED KNUCKLE|MBENT|MTOUCHES THUMB|NHUMB",
    "AHINGE LITTLE THUMB|AFIST LITTLE INDEX THUMB|AHINGE LITTLE INDEX THUMB",
    "AANGLE LITTLE INDEX THUMB INDEX THUMB OUT|dB|AFIST LITTLE INDEX|ACIRCLE LITTLE INDEX",
    "AHINGE LITTLE INDEX|AANGLE LITTLE INDEX|AFIST INDEX MIDDLE LITTLE|ACIRCLE INDEX MIDDLE LITTLE",
    "AHINGE INDEX MIDDLE LITTLE|GRING|AANGLE INDEX MIDDLE LITTLE|AFIST INDEX MIDDLE CROSS LITTLE",
    "ACIRCLE INDEX MIDDLE CROSS LITTLE|AFIST RING DOWN|AHINGE RING DOWN INDEX THUMB HOOK MIDDLE",
    "AANGLE RING DOWN MIDDLE THUMB INDEX CROSS|AFIST RING UP|KRAISED KNUCKLE|KLITTLE|ACIRCLE RING LITTLE",
    "AOVAL RING LITTLE|AANGLE RING LITTLE|AFIST RING MIDDLE|Q CONJOINED|RRAISED KNUCKLES|KINDEX|KTHUMB",
    "AHOOK RING THUMB|AFIST INDEX RING LITTLE|ACIRCLE INDEX RING LITTLE|BURLICUE INDEX RING LITTLE ON",
    "AHOOK INDEX RING LITTLE OUT|XIN|XUNDER|ACUP INDEX RING LITTLE|AHINGE INDEX RING LITTLE",
    "AANGLE INDEX RING LITTLE OUT|WE|AFIST MIDDLE DOWN|AHINGE MIDDLE|AFIST MIDDLE UP|ACIRCLE MIDDLE UP",
    "AFIST MIDDLE RAISED KNUCKLE|MUP THUMB SIDE|AHOOK MIDDLE THUMB|AFIST MIDDLE THUMB LITTLE|MLITTLE",
    "MRING LITTLE|ACIRCLE MIDDLE RING LITTLE|BURLICUE MIDDLE RING LITTLE ON|CP MIDDLE RING LITTLE",
    "AHINGE MIDDLE RING LITTLE|AANGLE MIDDLE RING LITTLE OUT|ZIN|XE|ACIRCLE MIDDLE RING LITTLE BENT",
    "BLAW MIDDLE RING LITTLE CONJOINED|b SIDE|AHOOK MIDDLE RING LITTLE CONJOINED OUT|cIN|aD",
    "BINGE INDEX HINGED|AFIST INDEX THUMB SIDE|AHINGE INDEX THUMB SIDE",
    "AFIST INDEX THUMB SIDE THUMB DIAGONAL|]CONJOINED|]BENT|WINDEX BENT|WBOTH BENT|WINDEX HINGE",
    "RFORWARD INDEX STRAIGHT|_ BENT|RHOOK|RCURLICUE|UVE THUMB INSIDE|ACLAW INDEX THUMB CURVE THUMB INSIDE",
    "AFIST INDEX THUMB CURVE THUMB UNDER|SIRCLE|ACUP INDEX THUMB|P OPEN|AHINGE INDEX THUMB OPEN|SLARGE|QB",
    "R SMALL|AANGLE INDEX THUMB OUT|SIN|QB|AFIST THUMB|K HEEL|LSIDE DIAGONAL|QCONJOINED|QBENT|LFORWARD",
    "LBETWEEN INDEX MIDDLE|TMIDDLE RING|TRING LITTLE|LUNDER TWO FINGERS|LOVER TWO FINGERS",
    "LUNDER THREE FINGERS|RFOUR FINGERS|LOVER FOUR RAISED KNUCKLES|DT|E HEEL|<TOUCH SINGLE|BMULTIPLE",
    "BBETWEEN|<GRASP SINGLE|BMULTIPLE|BBETWEEN|<STRIKE SINGLE|CMULTIPLE|CBETWEEN|<BRUSH SINGLE|BMULTIPLE",
    "BBETWEEN|<RUB SINGLE|@MULTIPLE|@BETWEEN|<SURFACE SYMBOLS|DBETWEEN|=QUEEZE LARGE SINGLE|DSMALL SINGLE",
    "DLARGE MULTIPLE|DSMALL MULTIPLE|EEQUENTIAL|<FLICK LARGE SINGLE|BSMALL SINGLE|BLARGE MULTIPLE",
    "BSMALL MULTIPLE|CEQUENTIAL|<SQUEEZE FLICK ALTERNATING|<MOVEMENT-HINGE UP DOWN LARGE|SSMALL",
    "NSEQUENTIAL|KDOWN SEQUENTIAL|KUP DOWN ALTERNATING LARGE|_SMALL|KSIDE TO SIDE SCISSORS",
    "EWALLPLANE FINGER CONTACT|EFLOORPLANE FINGER CONTACT|EWALLPLANE SINGLE STRAIGHT SMALL|_MEDIUM|_LARGE",
    "dST|VWRIST FLEX|ODOUBLE STRAIGHT|VWRIST FLEX|VALTERNATING|a WRIST FLEX|OCROSS",
    "OTRIPLE STRAIGHT MOVEMENT|VWRIST FLEX|VALTERNATING|a WRIST FLEX|OBEND SMALL|TMEDIUM|TLARGE",
    "OCORNER SMALL|VMEDIUM|VLARGE|VROTATION|PHECK SMALL|UMEDIUM|ULARGE|OBOX SMALL|SMEDIUM|SLARGE",
    "OZIGZAG SMALL|VMEDIUM|VLARGE|OPEAKS SMALL|UMEDIUM|ULARGE|<TRAVEL-WALLPLANE ROTATION-WALLPLANE SINGLE",
    "_ DOUBLE|_ ALTERNATING|VFLOORPLANE SINGLE|aDOUBLE|aALTERNATING|MSHAKING|MARM SPIRAL SINGLE|XDOUBLE",
    "XTRIPLE|<MOVEMENT-DIAGONAL AWAY SMALL|SMEDIUM|SLARGE|XST|NTOWARDS SMALL|VMEDIUM|VLARGE|[ST",
    "NBETWEEN AWAY SMALL|[MEDIUM|[LARGE|_EST|VTOWARDS SMALL|^MEDIUM|^LARGE|cST",
    "EFLOORPLANE SINGLE STRAIGHT SMALL|_ MEDIUM|_ LARGE|eST|WWRIST FLEX|PDOUBLE STRAIGHT|WWRIST FLEX",
    "WALTERNATING|b WRIST FLEX|PCROSS|PTRIPLE STRAIGHT MOVEMENT|WWRIST FLEX|WALTERNATING MOVEMENT",
    "cWRIST FLEX|PBEND|PCORNER SMALL|WMEDIUM|WLARGE|QHECK|PBOX SMALL|TMEDIUM|TLARGE|PZIGZAG SMALL|WMEDIUM",
    "WLARGE|PPEAKS SMALL|VMEDIUM|VLARGE|<TRAVEL-FLOORPLANE ROTATION-FLOORPLANE SINGLE|bDOUBLE",
    "bALTERNATING|WWALLPLANE SINGLE|aDOUBLE|aALTERNATING|NSHAKING|<MOVEMENT-WALLPLANE CURVE QUARTER SMALL",
    "]MEDIUM|]LARGE|bST|UHALF-CIRCLE SMALL|aMEDIUM|aLARGE|fST|UTHREE-QUARTER CIRCLE SMALL|jMEDIUM",
    "OHUMP SMALL|TMEDIUM|TLARGE|OLOOP SMALL|TMEDIUM|TLARGE|TSMALL DOUBLE|OWAVE CURVE DOUBLE SMALL|aMEDIUM",
    "aLARGE|ZTRIPLE SMALL|aMEDIUM|aLARGE|OCURVE THEN STRAIGHT|TD CROSS SMALL|[ MEDIUM",
    "<ROTATION-WALLPLANE SINGLE|ODOUBLE|OALTERNATE|<MOVEMENT-WALLPLANE SHAKING|OCURVE HITTING FRONT WALL",
    "OHUMP HITTING FRONT WALL|OLOOP HITTING FRONT WALL|OWAVE HITTING FRONT WALL",
    "<ROTATION-WALLPLANE SINGLE HITTING FRONT WALL|ODOUBLE HITTING FRONT WALL",
    "OALTERNATING HITTING FRONT WALL|<MOVEMENT-WALLPLANE CURVE HITTING CHEST|OHUMP HITTING CHEST",
    "OLOOP HITTING CHEST|OWAVE HITTING CHEST|<ROTATION-WALLPLANE SINGLE HITTING CHEST",
    "ODOUBLE HITTING CHEST|OALTERNATING HITTING CHEST|<MOVEMENT-WALLPLANE WAVE DIAGONAL PATH SMALL",
    "bMEDIUM|bLARGE|EFLOORPLANE CURVE HITTING CEILING SMALL|fLARGE|PHUMP HITTING CEILING SMALL DOUBLE",
    "eLARGE DOUBLE|eSMALL TRIPLE|eLARGE TRIPLE|PLOOP HITTING CEILING SMALL SINGLE|eLARGE SINGLE",
    "eSMALL DOUBLE|eLARGE DOUBLE|PWAVE HITTING CEILING SMALL|eLARGE",
    "<ROTATION-FLOORPLANE SINGLE HITTING CEILING|PDOUBLE HITTING CEILING|PALTERNATING HITTING CEILING",
    "<MOVEMENT-FLOORPLANE CURVE HITTING FLOOR SMALL|dLARGE|PHUMP HITTING FLOOR SMALL DOUBLE|cLARGE DOUBLE",
    "cTRIPLE SMALL TRIPLE|jLARGE TRIPLE|PLOOP HITTING FLOOR SMALL SINGLE|cLARGE SINGLE|cSMALL DOUBLE",
    "cLARGE DOUBLE|PWAVE HITTING FLOOR SMALL|cLARGE|<ROTATION-FLOORPLANE SINGLE HITTING FLOOR",
    "PDOUBLE HITTING FLOOR|PALTERNATING HITTING FLOOR|<MOVEMENT-FLOORPLANE CURVE SMALL|VMEDIUM|VLARGE|[ST",
    "VCOMBINED|PHUMP SMALL|PLOOP SMALL|PWAVE SNAKE|VMALL|ULARGE|<ROTATION-FLOORPLANE SINGLE|PDOUBLE",
    "PALTERNATING|<MOVEMENT-FLOORPLANE SHAKING PARALLEL|EWALLPLANE ARM CIRCLE SMALL SINGLE|ZMEDIUM SINGLE",
    "ZSMALL DOUBLE|ZMEDIUM DOUBLE|EFLOORPLANE ARM CIRCLE HITTING WALL SMALL SINGLE|hMEDIUM SINGLE",
    "hLARGE SINGLE|hSMALL DOUBLE|hMEDIUM DOUBLE|hLARGE DOUBLE|EWALLPLANE WRIST CIRCLE FRONT SINGLE",
    "bDOUBLE|EFLOORPLANE WRIST CIRCLE HITTING WALL SINGLE|jDOUBLE|EWALLPLANE FINGER CIRCLES SINGLE",
    "^DOUBLE|EFLOORPLANE FINGER CIRCLES HITTING WALL SINGLE|lDOUBLE|<DYNAMIC ARROWHEAD SMALL|NLARGE|DFAST",
    "DSLOW|DTENSE|DRELAXED|DSIMULTANEOUS|P ALTERNATING|DEVERY OTHER TIME|DGRADUAL|<HEAD|@ RIM",
    "AMOVEMENT-WALLPLANE STRAIGHT|TTILT|JFLOORPLANE STRAIGHT|JWALLPLANE CURVE|JFLOORPLANE CURVE|I CIRCLE",
    "<FACE DIRECTION POSITION NOSE FORWARD TILTING|YUP OR DOWN|c TILTING|<EYEBROWS STRAIGHT UP|NNEUTRAL",
    "NDOWN|<DREAMY EYEBROWS NEUTRAL DOWN|LDOWN NEUTRAL|LUP NEUTRAL|LNEUTRAL UP|<FOREHEAD NEUTRAL|ECONTACT",
    "EWRINKLED|<EYES OPEN|ASQUEEZED|ACLOSED|? BLINK SINGLE|FMULTIPLE|?S HALF OPEN|AWIDE OPEN|AHALF CLOSED",
    "AWIDENING MOVEMENT|? WINK|?LASHES UP|FDOWN|FFLUTTERING|?GAZE-WALLPLANE STRAIGHT|V DOUBLE",
    "WALTERNATING|DFLOORPLANE STRAIGHT|W DOUBLE|XALTERNATING|DWALLPLANE CURVED|DFLOORPLANE CURVED",
    "DWALLPLANE CIRCLING|<CHEEKS PUFFED|CNEUTRAL|CSUCKED|<TENSE CHEEKS HIGH|IMIDDLE|ILOW|<EARS",
    "<NOSE NEUTRAL|ACONTACT|AWRINKLES|BIGGLES|<AIR BLOWING OUT|@SUCKING IN|@BLOW SMALL ROTATIONS",
    "@SUCK SMALL ROTATIONS|<BREATH INHALE|CEXHALE|<MOUTH CLOSED NEUTRAL|IFORWARD|ICONTACT|BSMILE",
    "G WRINKLED|HOPEN|BFROWN|G WRINKLED|HOPEN|BOPEN CIRCLE|GFORWARD|GWRINKLED|GOVAL|K WRINKLED|LYAWN",
    "GRECTANGLE|P WRINKLED|QYAWN|BKISS|F FORWARD|GWRINKLED|BTENSE|G FORWARD|HSUCKED",
    "<LIPS PRESSED TOGETHER|? LOWER OVER UPPER|@UPPER OVER LOWER|<MOUTH CORNERS|BWRINKLES SINGLE|KDOUBLE",
    "<TONGUE STICKING OUT FAR|CLICKING LIPS|CTIP BETWEEN LIPS|GTOUCHING INSIDE MOUTH",
    "CINSIDE MOUTH RELAXED|CMOVES AGAINST CHEEK|CCENTRE STICKING OUT|JINSIDE MOUTH|=EETH|A MOVEMENT",
    "BON TONGUE|K MOVEMENT|ELIPS|I MOVEMENT|BBITE LIPS|<MOVEMENT-WALLPLANE JAW|EFLOORPLANE JAW|<NECK",
    "<HAIR|<EXCITEMENT|<SHOULDER HIP SPINE|IPOSITIONS|<WALLPLANE SHOULDER HIP MOVE",
    "<FLOORPLANE SHOULDER HIP MOVE|<SHOULDER TILTING FROM WAIST|<TORSO-WALLPLANE STRAIGHT STRETCH",
    "LCURVED BEND|BFLOORPLANE TWISTING|<UPPER BODY TILTING FROM HIP JOINTS|<LIMB COMBINATION|ALENGTH-1|H2",
    "H3|H4|H5|H6|H7|<FINGER|<LOCATION-WALLPLANE SPACE|EFLOORPLANE SPACE|D HEIGHT|EWIDTH|EDEPTH|EHEAD NECK",
    "ETORSO|ELIMBS DIGITS|<COMMA|<FULL STOP|<SEMICOLON|<COLON|<PARENTHESIS"]),
  (0x1da9b, ["0SIGNWRITING FILL MODIFIER-2|J3|J4|J5|J6||<ROTATION MODIFIER-2|N3|N4|N5|N6|N7|N8|N9|N10|O1|O2|O3|O4",
    "O5|O6"]),
  (0x1df00, ["0LATIN SMALL LETTER FENG DIGRAPH WITH TRILL|CREVERSED SCRIPT G|6LETTER SMALL CAPITAL TURNED G",
    "6SMALL LETTER REVERSED K|6LETTER SMALL CAPITAL L WITH BELT|6SMALL LETTER LEZH WITH RETROFLEX HOOK",
    "CTURNED Y WITH BELT|CREVERSED ENG|CTURNED R WITH LONG LEG AND RETROFLEX HOOK",
    "D WITH HOOK AND RETROFLEX HOOK|6LETTER RETROFLEX CLICK WITH RETROFLEX HOOK",
    "6SMALL LETTER ESH WITH DOUBLE BAR|V AND CURL|CTURNED T WITH CURL",
    "6LETTER INVERTED GLOTTAL STOP WITH CURL|=STRETCHED C WITH CURL|>MALL CAPITAL TURNED K",
    "6SMALL LETTER L WITH FISHHOOK|CDEZH DIGRAPH WITH PALATAL HOOK|CL WITH BELT AND PALATAL HOOK",
    "CENG WITH PALATAL HOOK|CTURNED R WITH PALATAL HOOK|CR WITH FISHHOOK AND PALATAL HOOK",
    "CTESH DIGRAPH WITH PALATAL HOOK|CEZH WITH PALATAL HOOK|CDEZH DIGRAPH WITH RETROFLEX HOOK",
    "CI WITH STROKE AND RETROFLEX HOOK|CO WITH RETROFLEX HOOK|CTESH DIGRAPH WITH RETROFLEX HOOK",
    "CC WITH RETROFLEX HOOK|CS WITH CURL"])]

end AccessorForge.Text.CharName.Notation

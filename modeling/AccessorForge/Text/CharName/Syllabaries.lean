/-! Names of characters: jamo, syllabaries and further scripts. -/
namespace AccessorForge.Text.CharName.Syllabaries

def runs : List (Nat × List String) := [
  (0x10a0, ["0GEORGIAN CAPITAL LETTER AN|HBAN|HGAN|HDON|HEN|HVIN|HZEN|HTAN|HIN|HKAN|HLAS|HMAN|HNAR|HON|HPAR|HZHAR",
    "HRAE|HSAN|HTAR|HUN|HPHAR|HKHAR|HGHAN|HQAR|HSHIN|HCHIN|IAN|HJIL|HCIL|IHAR|HXAN|HJHAN|HHAE|IE|IIE|HWE",
    "HHAR|IOE||HYN||||||HAEN|||9LETTER AN|@BAN|@GAN|@DON|@EN|@VIN|@ZEN|@TAN|@IN|@KAN|@LAS|@MAN|@NAR|@ON",
    "@PAR|@ZHAR|@RAE|@SAN|@TAR|@UN|@PHAR|@KHAR|@GHAN|@QAR|@SHIN|@CHIN|AAN|@JIL|@CIL|AHAR|@XAN|@JHAN|@HAE",
    "AE|AIE|@WE|@HAR|AOE|@FI|@YN|@ELIFI|@TURNED GAN|@AIN|9PARAGRAPH SEPARATOR",
    "0MODIFIER LETTER GEORGIAN NAR|0GEORGIAN LETTER AEN|@HARD SIGN|@LABIAL SIGN|0HANGUL CHOSEONG KIYEOK",
    "@SSANGKIYEOK|@NIEUN|@TIKEUT|@SSANGTIKEUT|@RIEUL|@MIEUM|@PIEUP|@SSANGPIEUP|AIOS|ASANGSIOS|@IEUNG",
    "@CIEUC|@SSANGCIEUC|@CHIEUCH|@KHIEUKH|@THIEUTH|@PHIEUPH|@HIEUH|@NIEUN-KIYEOK|@SSANGNIEUN",
    "@NIEUN-TIKEUT|FPIEUP|@TIKEUT-KIYEOK|@RIEUL-NIEUN|@SSANGRIEUL|@RIEUL-HIEUH|@KAPYEOUNRIEUL",
    "@MIEUM-PIEUP|@KAPYEOUNMIEUM|@PIEUP-KIYEOK|FNIEUN|FTIKEUT|FSIOS|J-KIYEOK|KTIKEUT|KPIEUP|GSANGSIOS",
    "GIOS-CIEUC|FCIEUC|GHIEUCH|FTHIEUTH|FPHIEUPH|@KAPYEOUNPIEUP|HSSANGPIEUP|@SIOS-KIYEOK|ENIEUN|ETIKEUT",
    "ERIEUL|EMIEUM|EPIEUP|J-KIYEOK|ESSANGSIOS|EIEUNG|ECIEUC|FHIEUCH|EKHIEUKH|ETHIEUTH|EPHIEUPH|EHIEUH",
    "@CHITUEUMSIOS|ISANGSIOS|AEONGCHIEUMSIOS|LSANGSIOS|@PANSIOS|@IEUNG-KIYEOK|FTIKEUT|FMIEUM|FPIEUP|FSIOS",
    "FPANSIOS|@SSANGIEUNG|@IEUNG-CIEUC|GHIEUCH|FTHIEUTH|FPHIEUPH|@YESIEUNG|@CIEUC-IEUNG|AHITUEUMCIEUC",
    "HSSANGCIEUC|AEONGCHIEUMCIEUC|KSSANGCIEUC|AHIEUCH-KHIEUKH|HHIEUH|CTUEUMCHIEUCH|AEONGCHIEUMCHIEUCH",
    "@PHIEUPH-PIEUP|@KAPYEOUNPHIEUPH|@SSANGHIEUH|@YEORINHIEUH|@KIYEOK-TIKEUT|@NIEUN-SIOS|FCIEUC|FHIEUH",
    "@TIKEUT-RIEUL|@FILLER|7JUNGSEONG FILLER|AA|BE|AYA|CE|AEO|AE|AYEO|BE|AO|AWA|CE|AOE|AYO|AU|AWEO|BE|BI",
    "AYU|AEU|AYI|AI|AA-O|CU|AYA-O|DYO|AEO-O|DU|DEU|AYEO-O|EU|AO-EO|CE|CYE|CO|CU|AYO-YA|FE|EEO|DO|DI|AU-A",
    "DE|CEO-EU|CYE|CU|AYU-A|DEO|DE|DYEO|EE|DU|DI|AEU-U|DEU|AYI-U|AI-A|CYA|CO|CU|CEU|CARAEA|AARAEA|F-EO|GU",
    "GI|ASSANGARAEA|AA-EU|AYA-U|BEO-YA|AO-YA|EE|8ONGSEONG KIYEOK|ASSANGKIYEOK|AKIYEOK-SIOS|ANIEUN|F-CIEUC",
    "GHIEUH|ATIKEUT|ARIEUL|F-KIYEOK|GMIEUM|GPIEUP|GSIOS|GTHIEUTH|GPHIEUPH|GHIEUH|AMIEUM|APIEUP|F-SIOS",
    "ASIOS|BSANGSIOS|AIEUNG|ACIEUC|BHIEUCH|AKHIEUKH|ATHIEUTH|APHIEUPH|AHIEUH|AKIYEOK-RIEUL|HSIOS-KIYEOK",
    "ANIEUN-KIYEOK|GTIKEUT|GSIOS|GPANSIOS|GTHIEUTH|ATIKEUT-KIYEOK|HRIEUL|ARIEUL-KIYEOK-SIOS|GNIEUN",
    "GTIKEUT|M-HIEUH|ASSANGRIEUL|ARIEUL-MIEUM-KIYEOK|MSIOS|GPIEUP-SIOS|MHIEUH|GKAPYEOUNPIEUP|GSSANGSIOS",
    "GPANSIOS|GKHIEUKH|GYEORINHIEUH|AMIEUM-KIYEOK|GRIEUL|GPIEUP|GSIOS|HSANGSIOS|GPANSIOS|GCHIEUCH|GHIEUH",
    "AKAPYEOUNMIEUM|APIEUP-RIEUL|GPHIEUPH|GHIEUH|AKAPYEOUNPIEUP|ASIOS-KIYEOK|FTIKEUT|FRIEUL|FPIEUP",
    "APANSIOS|AIEUNG-KIYEOK|GSSANGKIYEOK|ASSANGIEUNG|AIEUNG-KHIEUKH|AYESIEUNG|I-SIOS|JPANSIOS",
    "APHIEUPH-PIEUP|AKAPYEOUNPHIEUPH|AHIEUH-NIEUN|GRIEUL|GMIEUM|GPIEUP|AYEORINHIEUH|AKIYEOK-NIEUN|HPIEUP",
    "HCHIEUCH|HKHIEUKH|HHIEUH|ASSANGNIEUN|0ETHIOPIC SYLLABLE HA|CU|CI|CAA|CEE|CE|CO|DA|BLA|CU|CI|CAA|CEE",
    "CE|CO|CWA|BHHA|DU|DI|DAA|DEE|DE|DO|DWA|BMA|CU|CI|CAA|CEE|CE|CO|CWA|BSZA|DU|DI|DAA|DEE|DE|DO|DWA|BRA",
    "CU|CI|CAA|CEE|CE|CO|CWA|BSA|CU|CI|CAA|CEE|CE|CO|CWA|CHA|DU|DI|DAA|DEE|DE|DO|DWA|BQA|CU|CI|CAA|CEE|CE",
    "CO|DA|CWA||DI|DAA|DEE|DE|||CHA|DU|DI|DAA|DEE|DE|DO||DWA||EI|EAA|EEE|EE|||BBA|CU|CI|CAA|CEE|CE|CO|CWA",
    "BVA|CU|CI|CAA|CEE|CE|CO|CWA|BTA|CU|CI|CAA|CEE|CE|CO|CWA|BCA|CU|CI|CAA|CEE|CE|CO|CWA|BXA|CU|CI|CAA",
    "CEE|CE|CO|DA|CWA||DI|DAA|DEE|DE|||BNA|CU|CI|CAA|CEE|CE|CO|CWA|CYA|DU|DI|DAA|DEE|DE|DO|DWA|BGLOTTAL A",
    "JU|JI|JAA|JEE|JE|JO|JWA|BKA|CU|CI|CAA|CEE|CE|CO|DA|CWA||DI|DAA|DEE|DE|||CXA|DU|DI|DAA|DEE|DE|DO||DWA",
    "|EI|EAA|EEE|EE|||BWA|CU|CI|CAA|CEE|CE|CO|DA|BPHARYNGEAL A|MU|MI|MAA|MEE|ME|MO||BZA|CU|CI|CAA|CEE|CE",
    "CO|CWA|CHA|DU|DI|DAA|DEE|DE|DO|DWA|BYA|CU|CI|CAA|CEE|CE|CO|DA|BDA|CU|CI|CAA|CEE|CE|CO|CWA|CDA|DU|DI",
    "DAA|DEE|DE|DO|DWA|BJA|CU|CI|CAA|CEE|CE|CO|CWA|BGA|CU|CI|CAA|CEE|CE|CO|DA|CWA||DI|DAA|DEE|DE|||CGA|DU",
    "DI|DAA|DEE|DE|DO|DWAA|BTHA|DU|DI|DAA|DEE|DE|DO|DWA|BCHA|DU|DI|DAA|DEE|DE|DO|DWA|BPHA|DU|DI|DAA|DEE",
    "DE|DO|DWA|BTSA|DU|DI|DAA|DEE|DE|DO|DWA|CZA|DU|DI|DAA|DEE|DE|DO|EA|BFA|CU|CI|CAA|CEE|CE|CO|CWA|BPA|CU",
    "CI|CAA|CEE|CE|CO|CWA|BRYA|BMYA|BFYA|||9COMBINING GEMINATION AND VOWEL LENGTH MARK|CVOWEL LENGTH MARK",
    "CGEMINATION MARK|9SECTION MARK|9WORDSPACE|9FULL STOP|9COMMA|9SEMICOLON|9COLON|9PREFACE COLON",
    "9QUESTION MARK|9PARAGRAPH SEPARATOR|9DIGIT ONE|?TWO|@HREE|?FOUR|@IVE|?SIX|@EVEN|?EIGHT|?NINE",
    "9NUMBER TEN|AWENTY|AHIRTY|@FORTY|AIFTY|@SIXTY|AEVENTY|@EIGHTY|@NINETY|@HUNDRED|@TEN THOUSAND|||",
    "9SYLLABLE SEBATBEIT MWA|BMWI|DEE|DE|BSEBATBEIT BWA|BBWI|DEE|DE|BSEBATBEIT FWA|BFWI|DEE|DE",
    "BSEBATBEIT PWA|BPWI|DEE|DE|9TONAL MARK YIZET|DDERET|DRIKRIK|DSHORT RIKRIK|DDIFAT|DKENAT|DCHIRET",
    "DHIDET|DDERET-HIDET|DKURT|||||||0CHEROKEE LETTER A|@E|@I|@O|@U|@V|@GA|@KA|@GE|AI|AO|AU|AV|@HA|AE|AI",
    "AO|AU|AV|@LA|AE|AI|AO|AU|AV|@MA|AE|AI|AO|AU|@NA|@HNA|@NAH|AE|AI|AO|AU|AV|@QUA|BE|BI|BO|BU|BV|@SA|@S",
    "AE|AI|AO|AU|AV|@DA|@TA|@DE|@TE|@DI|@TI|@DO|AU|AV|ALA|@TLA|BE|BI|BO|BU|BV|ASA|BE|BI|BO|BU|BV|@WA|AE",
    "AI|AO|AU|AV|@YA|AE|AI|AO|AU|AV|@MV|||9SMALL LETTER YE|GI|GO|GU|GV|FMV|||1ANADIAN SYLLABICS HYPHEN|CE",
    "CAAI|CI|DI|CO|DO|CY-CREE OO|CCARRIER EE|KI|CA|DA|CWE|EST-CREE WE|DI|DEST-CREE WI|DII|DEST-CREE WII",
    "DO|DEST-CREE WO|DOO|DEST-CREE WOO|CNASKAPI WOO|CWA|DEST-CREE WA|DAA|DEST-CREE WAA|CNASKAPI WAA|CAI",
    "CY-CREE W|CGLOTTAL STOP|CFINAL ACUTE|IGRAVE|IBOTTOM HALF RING|ITOP HALF RING|IRIGHT HALF RING|KNG",
    "IDOUBLE ACUTE|PSHORT VERTICAL STROKES|IMIDDLE DOT|ISHORT HORIZONTAL STROKE|IPLUS|IDOWN TACK|CEN|CIN",
    "CON|CAN|CPE|DAAI|DI|EI|DO|EO|CY-CREE POO|CCARRIER HEE|LI|CPA|EA|DWE|CWEST-CREE PWE|CPWI",
    "CWEST-CREE PWI|CPWII|CWEST-CREE PWII|CPWO|CWEST-CREE PWO|CPWOO|CWEST-CREE PWOO|CPWA|CWEST-CREE PWA",
    "CPWAA|CWEST-CREE PWAA|CY-CREE PWAA|CP|CWEST-CREE P|CCARRIER H|CTE|DAAI|DI|EI|DO|EO|CY-CREE TOO",
    "CCARRIER DEE|LI|CTA|EA|DWE|CWEST-CREE TWE|CTWI|CWEST-CREE TWI|CTWII|CWEST-CREE TWII|CTWO",
    "CWEST-CREE TWO|CTWOO|CWEST-CREE TWOO|CTWA|CWEST-CREE TWA|CTWAA|CWEST-CREE TWAA|CNASKAPI TWAA|CT|DTE",
    "EI|EO|EA|CKE|DAAI|DI|EI|DO|EO|CY-CREE KOO|CKA|EA|DWE|CWEST-CREE KWE|CKWI|CWEST-CREE KWI|CKWII",
    "CWEST-CREE KWII|CKWO|CWEST-CREE KWO|CKWOO|CWEST-CREE KWOO|CKWA|CWEST-CREE KWA|CKWAA|CWEST-CREE KWAA",
    "CNASKAPI KWAA|CK|DW|CSOUTH-SLAVEY KEH|QIH|QOH|QAH|CCE|DAAI|DI|EI|DO|EO|CY-CREE COO|CCA|EA|DWE",
    "CWEST-CREE CWE|CCWI|CWEST-CREE CWI|CCWII|CWEST-CREE CWII|CCWO|CWEST-CREE CWO|CCWOO|CWEST-CREE CWOO",
    "CCWA|CWEST-CREE CWA|CCWAA|CWEST-CREE CWAA|CNASKAPI CWAA|CC|CSAYISI TH|CME|DAAI|DI|EI|DO|EO",
    "CY-CREE MOO|CMA|EA|DWE|CWEST-CREE MWE|CMWI|CWEST-CREE MWI|CMWII|CWEST-CREE MWII|CMWO|CWEST-CREE MWO",
    "CMWOO|CWEST-CREE MWOO|CMWA|CWEST-CREE MWA|CMWAA|CWEST-CREE MWAA|CNASKAPI MWAA|CM|CWEST-CREE M|CMH",
    "CATHAPASCAN M|CSAYISI M|CNE|DAAI|DI|EI|DO|EO|CY-CREE NOO|CNA|EA|DWE|CWEST-CREE NWE|CNWA",
    "CWEST-CREE NWA|CNWAA|CWEST-CREE NWAA|CNASKAPI NWAA|CN|CCARRIER NG|CNH|CLE|DAAI|DI|EI|DO|EO",
    "CY-CREE LOO|CLA|EA|DWE|CWEST-CREE LWE|CLWI|CWEST-CREE LWI|CLWII|CWEST-CREE LWII|CLWO|CWEST-CREE LWO",
    "CLWOO|CWEST-CREE LWOO|CLWA|CWEST-CREE LWA|CLWAA|CWEST-CREE LWAA|CL|CWEST-CREE L|CMEDIAL L|CSE|DAAI",
    "DI|EI|DO|EO|CY-CREE SOO|CSA|EA|DWE|CWEST-CREE SWE|CSWI|CWEST-CREE SWI|CSWII|CWEST-CREE SWII|CSWO",
    "CWEST-CREE SWO|CSWOO|CWEST-CREE SWOO|CSWA|CWEST-CREE SWA|CSWAA|CWEST-CREE SWAA|CNASKAPI SWAA|CS",
    "CATHAPASCAN S|CSW|CBLACKFOOT S|CMOOSE-CREE SK|CNASKAPI SKW|L-W|LPWA|LTWA|LKWA|LCWA|CSHE|EI|FI|EO|FO",
    "EA|FA|EWE|CWEST-CREE SHWE|CSHWI|CWEST-CREE SHWI|CSHWII|CWEST-CREE SHWII|CSHWO|CWEST-CREE SHWO|CSHWOO",
    "CWEST-CREE SHWOO|CSHWA|CWEST-CREE SHWA|CSHWAA|CWEST-CREE SHWAA|CSH|CYE|DAAI|DI|EI|DO|EO|D-CREE YOO",
    "DA|EA|DWE|CWEST-CREE YWE|CYWI|CWEST-CREE YWI|CYWII|CWEST-CREE YWII|CYWO|CWEST-CREE YWO|CYWOO",
    "CWEST-CREE YWOO|CYWA|CWEST-CREE YWA|CYWAA|CWEST-CREE YWAA|CNASKAPI YWAA|CY|CBIBLE-CREE Y",
    "CWEST-CREE Y|CSAYISI YI|CRE|D-CREE RE|CWEST-CREE LE|CRAAI|DI|EI|DO|EO|CWEST-CREE LO|CRA|EA",
    "CWEST-CREE LA|CRWAA|CWEST-CREE RWAA|CR|CWEST-CREE R|CMEDIAL R|CFE|DAAI|DI|EI|DO|EO|DA|EA|DWAA",
    "CWEST-CREE FWAA|CF|CTHE|CN-CREE THE|CTHI|CN-CREE THI|CTHII|CN-CREE THII|CTHO|FO|EA|FA|EWAA",
    "CWEST-CREE THWAA|CTH|DTHE|FI|FO|FA|EH|DYE|EI|EO|EA|CNUNAVIK HE|LI|MI|LO|MO|LA|MA|KH|HUT H|CHK|CQAAI",
    "DI|EI|DO|EO|DA|EA|CQ|CTLHE|FI|FO|FA|CWEST-CREE RE|NI|NO|NA|CNGAAI|EI|FI|EO|FO|EA|FA|DG|DNG",
    "CSAYISI SHE|LI|LO|LA|CWOODS-CREE THE|PI|PO|PA|OH|CLHI|FI|EO|FO|EA|FA|DH|CTH-CREE THE|MI|NI|MO|NO|MA",
    "NA|LH|CAIVILIK B|CBLACKFOOT E|MI|MO|MA|MWE|NI|NO|NA|MNE|NI|NO|NA|MKE|NI|NO|NA|CSAYISI HE|KI|KO|KA",
    "CCARRIER GHU|MO|ME|NE|MI|MA|KRU|LO|LE|ME|LI|LA|KWU|LO|LE|ME|LI|LA|KHWU|MO|ME|NE|MI|MA|KTHU|MO|ME|NE",
    "MI|MA|LTU|MO|ME|NE|MI|MA|KPU|LO|LE|ME|LI|LA|KP|KGU|LO|LE|ME|LI|LA|KKHU|MO|ME|NE|MI|MA|LKU|MO|ME|NE",
    "MI|MA|LK|KNU|LO|LE|ME|LI|LA|KMU|LO|LE|ME|LI|LA|KYU|LO|LE|ME|LI|LA|KJU|CSAYISI JU|CCARRIER JO|LE|ME",
    "LI|CSAYISI JI|CCARRIER JA|LJU|MO|ME|NE|MI|MA|KLU|LO|LE|ME|LI|LA|KDLU|MO|ME|NE|MI|MA|KLHU|MO|ME|NE|MI",
    "MA|KTLHU|NO|NE|OE|NI|NA|MU|MO|ME|NE|MI|MA|KZU|LO|LE|ME|LI|LA|KZ|KINITIAL Z|KDZU|MO|ME|NE|MI|MA|KSU",
    "LO|LE|ME|LI|LA|LHU|MO|ME|NE|MI|MA|LH|KTSU|MO|ME|NE|MI|MA|KCHU|MO|ME|NE|MI|MA|KTTSU|NO|NE|OE|NI|NA",
    "DHI SIGN|CFULL STOP|CQAI|CNGAI|DNGI|GI|FO|GO|FA|GA|CWOODS-CREE THWEE|QI|RI|QO|RO|QA|RA|NFINAL TH",
    "CBLACKFOOT W|0OGHAM SPACE MARK|6LETTER BEITH|=LUIS|=FEARN|=SAIL|=NION|=UATH|=DAIR|=TINNE|=COLL|>EIRT",
    "=MUIN|=GORT|=NGEADAL|=STRAIF|=RUIS|=AILM|=ONN|=UR|=EADHADH|=IODHADH|=EABHADH|=OR|=UILLEANN|=IFIN",
    "=EAMHANCHOLL|=PEITH|6FEATHER MARK|6REVERSED FEATHER MARK||||0RUNIC LETTER FEHU FEOH FE F|=V",
    "=URUZ UR U|=YR|=Y|=W|=THURISAZ THURS THORN|=ETH|=ANSUZ A|=OS O|=AC A|>ESC|=LONG-BRANCH-OSS O",
    "=SHORT-TWIG-OSS O|=O|>E|>N|=RAIDO RAD REID R|=KAUNA|=CEN|=KAUN K|=G|=ENG|=GEBO GYFU G|>AR",
    "=WUNJO WYNN W|=HAGLAZ H|?EGL H|=LONG-BRANCH-HAGALL H|=SHORT-TWIG-HAGALL H|=NAUDIZ NYD NAUD N",
    "=SHORT-TWIG-NAUD N|=DOTTED-N|=ISAZ IS ISS I|=E|=JERAN J|=GER|=LONG-BRANCH-AR AE|=SHORT-TWIG-AR A",
    "=IWAZ EOH|=PERTHO PEORTH P|=ALGIZ EOLHX|=SOWILO S|>IGEL LONG-BRANCH-SOL S|>HORT-TWIG-SOL S|=C|=Z",
    "=TIWAZ TIR TYR T|=SHORT-TWIG-TYR T|=D|=BERKANAN BEORC BJARKAN B|=SHORT-TWIG-BJARKAN B|=DOTTED-P",
    "=OPEN-P|=EHWAZ EH E|=MANNAZ MAN M|=LONG-BRANCH-MADR M|=SHORT-TWIG-MADR M|=LAUKAZ LAGU LOGR L",
    "=DOTTED-L|=INGWAZ|?G|=DAGAZ DAEG D|=OTHALAN ETHEL O|=EAR|=IOR|=CWEORTH|>ALC|>EALC|=STAN",
    "=LONG-BRANCH-YR|=SHORT-TWIG-YR|=ICELANDIC-YR|=Q|=X|6SINGLE PUNCTUATION|6MULTIPLE PUNCTUATION",
    "6CROSS PUNCTUATION|6ARLAUG SYMBOL|6TVIMADUR SYMBOL|6BELGTHOR SYMBOL|6LETTER K|=SH|=OO",
    "=FRANKS CASKET OS|KIS|KEH|KAC|LESC||||||||0TAGALOG LETTER A|?I|?U|?KA|?GA|?NGA|?TA|?DA|?NA|?PA|?BA",
    "?MA|?YA|?RA|?LA|?WA|?SA|?HA|8VOWEL SIGN I|CU|8SIGN VIRAMA|=PAMUDPOD"]),
  (0x171f, ["0TAGALOG LETTER ARCHAIC RA|0HANUNOO LETTER A|?I|?U|?KA|?GA|?NGA|?TA|?DA|?NA|?PA|?BA|?MA|?YA|?RA|?LA",
    "?WA|?SA|?HA|8VOWEL SIGN I|CU|8SIGN PAMUDPOD|0PHILIPPINE SINGLE PUNCTUATION|;DOUBLE PUNCTUATION"]),
  (0x1740, ["0BUHID LETTER A|=I|=U|=KA|=GA|=NGA|=TA|=DA|=NA|=PA|=BA|=MA|=YA|=RA|=LA|=WA|=SA|=HA|6VOWEL SIGN I|AU"]),
  (0x1760, ["0TAGBANWA LETTER A|@I|@U|@KA|@GA|@NGA|@TA|@DA|@NA|@PA|@BA|@MA|@YA||@LA|@WA|@SA||9VOWEL SIGN I|DU"]),
  (0x1780, ["0KHMER LETTER KA|>HA|>O|>HO|=NGO|=CA|>HA|>O|>HO|=NYO|=DA|=TTHA|=DO|=TTHO|=NNO|=TA|>HA|>O|>HO|=NO|=BA",
    "=PHA|>O|>HO|=MO|=YO|=RO|=LO|=VO|=SHA|>SO|>A|=HA|=LA|=QA|6INDEPENDENT VOWEL QAQ|JA|II|JI|IU|JK|JU|KV",
    "HRY|JY|HLY|JY|HQE|IAI|IOO TYPE ONE|QTWO|IAU|6VOWEL INHERENT AQ|FA|<SIGN AA|AI|BI|AY|BY|AU|BU|BA|AOE",
    "AYA|AIE|AE|AAE|BI|AOO|AAU|6SIGN NIKAHIT|;REAHMUK|;YUUKALEAPINTU|;MUUSIKATOAN|;TRIISAP|;BANTOC|;ROBAT",
    ";TOANDAKHIAT|;KAKABAT|;AHSDA|;SAMYOK SANNYA|;VIRIAM|;COENG|;BATHAMASAT|;KHAN|;BARIYOOSAN",
    ";CAMNUC PII KUUH|;LEK TOO|;BEYYAL|;PHNAEK MUAN|;KOOMUUT|6CURRENCY SYMBOL RIEL|6SIGN AVAKRAHASANYA",
    "<TTHACAN|||6DIGIT ZERO|<ONE|<TWO|=HREE|<FOUR|=IVE|<SIX|=EVEN|<EIGHT|<NINE||||||",
    "6SYMBOL LEK ATTAK SON|GMUOY|GPII|GBEI|HUON|GPRAM|K-MUOY|LPII|LBEI|MUON|||||||0MONGOLIAN BIRGA",
    ":ELLIPSIS|:COMMA|:FULL STOP|:COLON|:FOUR DOTS|:TODO SOFT HYPHEN|:SIBE SYLLABLE BOUNDARY MARKER",
    ":MANCHU COMMA|AFULL STOP|:NIRUGU|:FREE VARIATION SELECTOR ONE|RTWO|SHREE|:VOWEL SEPARATOR",
    ":FREE VARIATION SELECTOR FOUR|:DIGIT ZERO|@ONE|@TWO|AHREE|@FOUR|AIVE|@SIX|AEVEN|@EIGHT|@NINE||||||",
    ":LETTER A|AE|AI|AO|AU|AOE|AUE|AEE|ANA|AANG|ABA|APA|AQA|AGA|AMA|ALA|ASA|BHA|ATA|ADA|ACHA|AJA|AYA|ARA",
    "AWA|AFA|AKA|BHA|ATSA|AZA|AHAA|AZRA|ALHA|AZHI|ACHI|ATODO LONG VOWEL SIGN|FE|FI|FO|FU|FOE|FUE|FANG|FBA",
    "FPA|FQA|FGA|FMA|FTA|FDA|FCHA|FJA|FTSA|FYA|FWA|FKA|FGAA|FHAA|FJIA|FNIA|FDZA|ASIBE E|FI|GY|FUE|FU|FANG",
    "FKA|FGA|FHA|FPA|FSHA|FTA|FDA|FJA|FFA|FGAA|FHAA|FTSA|FZA|FRAA|FCHA|FZHA|AMANCHU I|HKA|HRA|HFA|HZHA",
    "ACHA WITH TWO DOTS||||||||AALI GALI ANUSVARA ONE|JVISARGA ONE|JDAMARU|JUBADAMA|JINVERTED UBADAMA",
    "JBALUDA|JTHREE BALUDA|JA|JI|JKA|JNGA|JCA|JTTA|LHA|JDDA|JNNA|JTA|JDA|JPA|KHA|JSSA|JZHA|KA|JAH",
    "ATODO ALI GALI TA|OZHA|AMANCHU ALI GALI GHA|QNGA|QCA|QJHA|QTTA|QDDHA|QTA|QDHA|QSSA|QCYA|QZHA|RA",
    "AALI GALI HALF U|OYA|AMANCHU ALI GALI BHA|AALI GALI DAGALGA|AMANCHU ALI GALI LHA|||||",
    "0CANADIAN SYLLABICS OY|CAY|DAY|CWAY|CPOY|DAY|DWOY|CTAY|CKAY|DWAY|CMAY|CNOY|DAY|CLAY|CSOY|DAY|DHOY",
    "EAY|EWOY|CYOY|DAY|CRAY|CNWI|COJIBWAY NWI|CNWII|COJIBWAY NWII|CNWO|COJIBWAY NWO|CNWOO|COJIBWAY NWOO",
    "CRWEE|EI|FI|EO|FO|EA|COJIBWAY P|KT|KK|KC|KM|KN|KS|LH|CEASTERN W|CWESTERN W|CFINAL SMALL RING",
    "IRAISED DOT|CR-CREE RWE|CWEST-CREE LOO|NAA|CTHWE|FA|DTHWE|FOO|FAA|DLHWE|FOO|CSAYISI SHWE|LOO|JHOO",
    "CCARRIER GWU|KDENE GEE|KGAA|LWA|CSAYISI JUU|CCARRIER JWA|CBEAVER DENE L|OR|CCARRIER DENTAL S"]),
  (0x1900, ["0LIMBU VOWEL-CARRIER LETTER|6LETTER KA|>HA|=GA|>HA|=NGA|=CA|>HA|=JA|>HA|=YAN|=TA|>HA|=DA|>HA|=NA|=PA",
    ">HA|=BA|>HA|=MA|=YA|=RA|=LA|=WA|=SHA|>SA|>A|=HA|=GYAN|=TRA||6VOWEL SIGN A|AI|AU|AEE|AAI|AOO|AAU|AE",
    "AO|6SUBJOINED LETTER YA|GRA|GWA|||||7MALL LETTER KA|CNGA|CANUSVARA|CTA|CNA|CPA|CMA|CRA|CLA",
    "7IGN MUKPHRENG|;KEMPHRENG|;SA-I|||||;LOO||||6EXCLAMATION MARK|6QUESTION MARK|6DIGIT ZERO|<ONE|<TWO",
    "=HREE|<FOUR|=IVE|<SIX|=EVEN|<EIGHT|<NINE|0TAI LE LETTER KA|>XA|>NGA|>TSA|>SA|>YA|>TA|?HA|>LA|>PA|?HA",
    ">MA|>FA|>VA|>HA|>QA|>KHA|>TSHA|>NA|>A|>I|>EE|?H|>U|>OO|>O|>UE|>E|>AUE|?I|||>TONE-2|C3|C4|C5|C6"]),
  (0x1980, ["0NEW TAI LUE LETTER HIGH QA|CLOW QA|CHIGH KA|HXA|HNGA|CLOW KA|GXA|GNGA|CHIGH TSA|HSA|HYA|CLOW TSA",
    "GSA|GYA|CHIGH TA|IHA|HNA|CLOW TA|HHA|GNA|CHIGH PA|IHA|HMA|CLOW PA|HHA|GMA|CHIGH FA|HVA|HLA|CLOW FA",
    "GVA|GLA|CHIGH HA|HDA|HBA|CLOW HA|GDA|GBA|CHIGH KVA|HXVA|CLOW KVA|GXVA|CHIGH SUA|CLOW SUA||||",
    "<VOWEL SIGN VOWEL SHORTENER|GAA|GII|GU|HU|GE|GAE|GO|HA|GUE|GAY|HAY|GUY|GOY|HAY|GUEY|GIY",
    "<LETTER FINAL V|ING|IN|IM|IK|ID|IB|<TONE MARK-1|F2|||||||<DIGIT ZERO|BONE|BTWO|CHREE|BFOUR|CIVE|BSIX",
    "CEVEN|BEIGHT|BNINE|<THAM DIGIT ONE||||<SIGN LAE|DV|0KHMER SYMBOL PATHAMASAT|=MUOY KOET|=PII KOET",
    "=BEI KOET|>UON KOET|=PRAM KOET|A-MUOY KOET|BPII KOET|BBEI KOET|CUON KOET|=DAP KOET|@-MUOY KOET",
    "APII KOET|ABEI KOET|BUON KOET|APRAM KOET|=TUTEYASAT|=MUOY ROC|=PII ROC|=BEI ROC|>UON ROC|=PRAM ROC",
    "A-MUOY ROC|BPII ROC|BBEI ROC|CUON ROC|=DAP ROC|@-MUOY ROC|APII ROC|ABEI ROC|BUON ROC|APRAM ROC",
    "0BUGINESE LETTER KA|@GA|@NGA|BKA|@PA|@BA|@MA|APA|@TA|@DA|@NA|ARA|@CA|@JA|@NYA|BCA|@YA|@RA|@LA|@VA",
    "@SA|@A|@HA|9VOWEL SIGN I|DU|DE|DO|DAE|||9PALLAWA|9END OF SECTION|0TAI THAM LETTER HIGH KA|FHA|FXA",
    "@LOW KA|EXA|EHA|@NGA|@HIGH CA|FHA|@LOW CA|DSA|DCHA|@NYA|@RATA|@HIGH RATHA|@DA|@LOW RATHA|@RANA",
    "@HIGH TA|FHA|@LOW TA|EHA|@NA|@BA|@HIGH PA|FHA|EFA|@LOW PA|DFA|DPHA|@MA|@LOW YA|@HIGH YA|@RA|AUE|@LA",
    "AUE|@WA|@HIGH SHA|FSA|FA|EHA|@LLA|@A|@LOW HA|@I|AI|@U|AU|@EE|@OO|@LAE|@GREAT SA",
    "9CONSONANT SIGN MEDIAL RA|OLA|HLA TANG LAI|9SIGN MAI KANG LAI|9CONSONANT SIGN FINAL NGA|HLOW PA",
    "HHIGH RATHA OR LOW PA|HMA|HBA|HSA||9SIGN SAKOT|9VOWEL SIGN A|DMAI SAT|DAA|DTALL AA|DI|EI|DUE|EUE|DU",
    "EU|DO|EA BELOW|EY|DE|DAE|DOO|DAI|DTHAM AI|DOA ABOVE|9SIGN MAI KANG|>TONE-1|C2|>KHUEN TONE-3|I4|I5",
    ">RA HAAM|>MAI SAM|>KHUEN-LUE KARAN|||9COMBINING CRYPTOGRAMMIC DOT|9HORA DIGIT ZERO|DONE|DTWO|EHREE",
    "DFOUR|EIVE|DSIX|EEVEN|DEIGHT|DNINE|||||||9THAM DIGIT ZERO|DONE|DTWO|EHREE|DFOUR|EIVE|DSIX|EEVEN",
    "DEIGHT|DNINE|||||||9SIGN WIANG|CWAAK|>SAWAN|>KEOW|>HOY|>DOKMAI|>REVERSED ROTATED RANA|>MAI YAMOK",
    ">KAAN|BKUU|>SATKAAN|EKUU|>HANG|>CAANG|||0COMBINING DOUBLED CIRCUMFLEX ACCENT|;IAERESIS-RING",
    ":INFINITY|:DOWNWARDS ARROW|:TRIPLE DOT|:X-X BELOW|:WIGGLY LINE BELOW|:OPEN MARK BELOW",
    ":DOUBLE OPEN MARK BELOW|:LIGHT CENTRALIZATION STROKE BELOW|:STRONG CENTRALIZATION STROKE BELOW",
    ":PARENTHESES ABOVE|:DOUBLE PARENTHESES ABOVE|:PARENTHESES BELOW|FOVERLAY|:LATIN SMALL LETTER W BELOW",
    "MTURNED W BELOW|;EFT PARENTHESIS ABOVE LEFT|:RIGHT PARENTHESIS ABOVE RIGHT",
    ":LEFT PARENTHESIS BELOW LEFT|:RIGHT PARENTHESIS BELOW RIGHT|:SQUARE BRACKETS ABOVE",
    ":NUMBER SIGN ABOVE|:INVERTED DOUBLE ARCH ABOVE|:PLUS SIGN ABOVE|:DOUBLE PLUS SIGN ABOVE|KBELOW",
    ":TRIPLE ACUTE ACCENT|:LATIN SMALL LETTER INSULAR G|UR|UT"]),
  (0x1b00, ["0BALINESE SIGN ULU RICEM|BCANDRA|>CECEK|>SURANG|>BISAH|9LETTER AKARA|E TEDUNG|@IKARA|E TEDUNG|@UKARA",
    "E TEDUNG|@RA REPA|G TEDUNG|@LA LENGA|H TEDUNG|@EKARA|@AIKARA|@OKARA|E TEDUNG|@KA|B MAHAPRANA|@GA",
    "B GORA|@NGA|@CA|B LACA|@JA|B JERA|@NYA|@TA LATIK|CMURDA MAHAPRANA|@DA MURDA ALPAPRANA|IMAHAPRANA",
    "@NA RAMBAT|@TA|B TAWA|@DA|B MADU|@NA|@PA|B KAPAL|@BA|B KEMBANG|@MA|@YA|@RA|@LA|@WA|@SA SAGA|EPA|AA",
    "@HA|9SIGN REREKAN|9VOWEL SIGN TEDUNG|DULU|G SARI|DSUKU|H ILUT|DRA REPA|K TEDUNG|DLA LENGA|L TEDUNG",
    "DTALING|J REPA|KTEDUNG|KREPA TEDUNG|DPEPET|I TEDUNG|9ADEG ADEG|9LETTER KAF SASAK|AHOT SASAK",
    "@TZIR SASAK|@EF SASAK|@VE SASAK|@ZAL SASAK|@ASYURA SASAK|ARCHAIC JNYA||||9DIGIT ZERO|?ONE|?TWO|@HREE",
    "?FOUR|@IVE|?SIX|@EVEN|?EIGHT|?NINE|9PANTI|;MADA|9WINDU|9CARIK PAMUNGKAH|?SIKI|?PAREREN|9PAMENENG",
    "9MUSICAL SYMBOL DONG|IENG|IUNG|IANG|L SURANG|IING|IAENG|IEUNG|IAING|JNG GEDE|HCOMBINING TEGEH|RENDEP",
    "RKEMPUL|VLI|RJEGOGAN|RKEMPUL WITH JEGOGAN|VLI WITH JEGOGAN|RBENDE|RGONG|HRIGHT-HAND OPEN DUG|YAG",
    "SCLOSED TUK|[AK|HLEFT-HAND OPEN PANG|XUNG|RCLOSED PLAK|[UK|ROPEN PING|9PANTI LANTANG|;MADA LANTANG|",
    "0SUNDANESE SIGN PANYECEK|BGLAYAR|CWISAD|:LETTER A|AI|AU|AAE|AO|AE|BU|AKA|AQA|AGA|ANGA|ACA|AJA|AZA",
    "ANYA|ATA|ADA|ANA|APA|AFA|AVA|ABA|AMA|AYA|ARA|ALA|AWA|ASA|AXA|AHA|:CONSONANT SIGN PAMINGKAL|KNYAKRA",
    "MIKU|:VOWEL SIGN PANGHULU|HYUKU|HAELAENG|HOLONG|GMEPET|GNEULEUNG|:SIGN PAMAAEH|?VIRAMA",
    ":CONSONANT SIGN PASANGAN MA|RWA|:LETTER KHA|ASYA|:DIGIT ZERO|@ONE|@TWO|AHREE|@FOUR|AIVE|@SIX|AEVEN",
    "@EIGHT|@NINE|:AVAGRAHA|:LETTER REU|ALEU|ABHA|AFINAL K|GM|0BATAK LETTER A|=SIMALUNGUN A|=HA",
    "=SIMALUNGUN HA|=MANDAILING HA|=BA|=KARO BA|=PA|=SIMALUNGUN PA|=NA|=MANDAILING NA|=WA|=SIMALUNGUN WA",
    "=PAKPAK WA|=GA|=SIMALUNGUN GA|=JA|=DA|=RA|=SIMALUNGUN RA|=MA|=SIMALUNGUN MA|>OUTHERN TA|=NORTHERN TA",
    "=SA|>IMALUNGUN SA|=MANDAILING SA|=YA|=SIMALUNGUN YA|=NGA|=LA|=SIMALUNGUN LA|=NYA|=CA|=NDA|=MBA|=I|=U",
    "6SIGN TOMPI|6VOWEL SIGN E|APAKPAK E|AEE|AI|AKARO I|AO|AKARO O|AU|B FOR SIMALUNGUN SA",
    "6CONSONANT SIGN NG|EH|6PANGOLAT|9ONGONAN"]),
  (0x1bfc, ["0BATAK SYMBOL BINDU NA METEK|CPINARBORAS|CJUDUL|CPANGOLAT|0LEPCHA LETTER KA|?LA|?HA|>GA|?LA|>NGA|>CA",
    "?HA|>JA|>NYA|>TA|?HA|>DA|>NA|>PA|?LA|?HA|>FA|?LA|>BA|?LA|>MA|?LA|>TSA|@HA|>DZA|>YA|>RA|>LA|>HA|?LA",
    ">VA|>SA|?HA|>WA|>A|7SUBJOINED LETTER YA|HRA|7VOWEL SIGN AA|BI|BO|CO|BU|CU|BE|7CONSONANT SIGN K|FM|FL",
    "FN|FP|FR|FT|FNYIN-DO|FKANG|7SIGN RAN|<NUKTA||||7PUNCTUATION TA-ROL|CNYET THYOOM TA-ROL|CCER-WA",
    "CTSHOOK CER-WA|HK|7DIGIT ZERO|=ONE|=TWO|>HREE|=FOUR|>IVE|=SIX|>EVEN|=EIGHT|=NINE||||7LETTER TTA|@HA",
    ">DDA|0OL CHIKI DIGIT ZERO|?ONE|?TWO|@HREE|?FOUR|@IVE|?SIX|@EVEN|?EIGHT|?NINE|9LETTER LA|@AT|AG|ANG",
    "AL|@LAA|@AAK|BJ|BM|BW|@LI|@IS|AH|ANY|AR|@LU|@UC|AD|ANN|AY|@LE|@EP|ADD|AN|ARR|@LO|@OTT|AB|AV|AH",
    "9MU TTUDDAG|9GAAHLAA TTUDDAAG|9MU-GAAHLAA TTUDDAAG|9RELAA|9PHAARKAA|9AHAD|9PUNCTUATION MUCAAD",
    "EDOUBLE MUCAAD|0CYRILLIC SMALL LETTER ROUNDED VE|FLONG-LEGGED DE|FNARROW O|FWIDE ES|FTALL TE",
    "GHREE-LEGGED TE|GALL HARD SIGN|KYAT|FUNBLENDED UK||||||||0GEORGIAN MTAVRULI CAPITAL LETTER AN|QBAN",
    "QGAN|QDON|QEN|QVIN|QZEN|QTAN|QIN|QKAN|QLAS|QMAN|QNAR|QON|QPAR|QZHAR|QRAE|QSAN|QTAR|QUN|QPHAR|QKHAR",
    "QGHAN|QQAR|QSHIN|QCHIN|RAN|QJIL|QCIL|RHAR|QXAN|QJHAN|QHAE|RE|RIE|QWE|QHAR|ROE|QFI|QYN|QELIFI",
    "QTURNED GAN|QAIN|||REN|QHARD SIGN|QLABIAL SIGN|0SUNDANESE PUNCTUATION BINDU SURYA|LPANGLONG|MURNAMA",
    "LCAKRA|LLEU SATANGA|LKA SATANGA|LDA SATANGA|LBA SATANGA"]),
  (0x1cd0, ["0VEDIC TONE KARSHANA|;SHARA|;PRENKHA|6SIGN NIHSHVASA|;YAJURVEDIC MIDLINE SVARITA",
    "6TONE YAJURVEDIC AGGRAVATED INDEPENDENT SVARITA|FINDEPENDENT SVARITA|FKATHAKA INDEPENDENT SVARITA",
    ";CANDRA BELOW|;YAJURVEDIC KATHAKA INDEPENDENT SVARITA SCHROEDER|;DOUBLE SVARITA|;TRIPLE SVARITA",
    ";KATHAKA ANUDATTA|;DOT BELOW|;TWO DOTS BELOW|<HREE DOTS BELOW|;RIGVEDIC KASHMIRI INDEPENDENT SVARITA",
    ";ATHARVAVEDIC INDEPENDENT SVARITA|6SIGN VISARGA SVARITA|CUDATTA|;REVERSED VISARGA UDATTA",
    ";VISARGA ANUDATTA|;REVERSED VISARGA ANUDATTA|;VISARGA UDATTA WITH TAIL|CANUDATTA WITH TAIL",
    ";ANUSVARA ANTARGOMUKHA|DBAHIRGOMUKHA|DVAMAGOMUKHA|O WITH TAIL|;TIRYAK|;HEXIFORM LONG ANUSVARA",
    ";LONG ANUSVARA|;RTHANG LONG ANUSVARA|;ANUSVARA UBHAYATO MUKHA|<RDHAVISARGA|;ROTATED ARDHAVISARGA",
    "6TONE CANDRA ABOVE|6SIGN JIHVAMULIYA|;UPADHMANIYA|;ATIKRAMA|6TONE RING ABOVE|;DOUBLE RING ABOVE",
    "6SIGN DOUBLE ANUSVARA ANTARGOMUKHA"])]

end AccessorForge.Text.CharName.Syllabaries

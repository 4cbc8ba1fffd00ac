/-! Names of characters: the scripts of South and Southeast Asia. -/
namespace AccessorForge.Text.CharName.Indic

def runs : List (Nat × List String) := [
  (0x900, ["0DEVANAGARI SIGN INVERTED CANDRABINDU|@CANDRABINDU|@ANUSVARA|@VISARGA|;LETTER SHORT A|BA|CA|BI|CI|BU",
    "CU|BVOCALIC R|JL|BCANDRA E|BSHORT E|BE|BAI|BCANDRA O|BSHORT O|BO|BAU|BKA|CHA|BGA|CHA|BNGA|BCA|CHA",
    "BJA|CHA|BNYA|BTTA|DHA|BDDA|DHA|BNNA|BTA|CHA|BDA|CHA|BNA|CNNA|BPA|CHA|BBA|CHA|BMA|BYA|BRA|CRA|BLA|CLA",
    "DLA|BVA|BSHA|CSA|CA|BHA|;VOWEL SIGN OE|GOE|;SIGN NUKTA|@AVAGRAHA|;VOWEL SIGN AA|FI|GI|FU|GU",
    "FVOCALIC R|OR|FCANDRA E|FSHORT E|FE|FAI|FCANDRA O|FSHORT O|FO|FAU|;SIGN VIRAMA",
    ";VOWEL SIGN PRISHTHAMATRA E|FAW|;OM|;STRESS SIGN UDATTA|GANUDATTA|;GRAVE ACCENT|;ACUTE ACCENT",
    ";VOWEL SIGN CANDRA LONG E|FUE|GUE|;LETTER QA|BKHHA|BGHHA|BZA|BDDDHA|BRHA|BFA|BYYA|BVOCALIC RR|JLL",
    ";VOWEL SIGN VOCALIC L|OL|;DANDA|<OUBLE DANDA|<IGIT ZERO|AONE|ATWO|BHREE|AFOUR|BIVE|ASIX|BEVEN|AEIGHT",
    "ANINE|;ABBREVIATION SIGN|;SIGN HIGH SPACING DOT|;LETTER CANDRA A|BOE|COE|BAW|BUE|CUE|BMARWARI DDA",
    "BZHA|BHEAVY YA|BGGA|BJJA|BGLOTTAL STOP|BDDDA|BBBA|0BENGALI ANJI|8SIGN CANDRABINDU|=ANUSVARA|=VISARGA",
    "|8LETTER A|@A|?I|@I|?U|@U|?VOCALIC R|GL|||?E|?AI|||?O|?AU|?KA|@HA|?GA|@HA|?NGA|?CA|@HA|?JA|@HA|?NYA",
    "?TTA|AHA|?DDA|AHA|?NNA|?TA|@HA|?DA|@HA|?NA||?PA|@HA|?BA|@HA|?MA|?YA|?RA||?LA||||?SHA|@SA|@A|?HA||",
    "8SIGN NUKTA|=AVAGRAHA|8VOWEL SIGN AA|CI|DI|CU|DU|CVOCALIC R|LR|||CE|CAI|||CO|CAU|8SIGN VIRAMA",
    "8LETTER KHANDA TA"]),
  (0x9d7, ["0BENGALI AU LENGTH MARK|||||8LETTER RRA|@HA||?YYA|?VOCALIC RR|GLL|8VOWEL SIGN VOCALIC L|LL||",
    "8DIGIT ZERO|>ONE|>TWO|?HREE|>FOUR|?IVE|>SIX|?EVEN|>EIGHT|>NINE|8LETTER RA WITH MIDDLE DIAGONAL",
    "GLOWER DIAGONAL|8RUPEE MARK|>SIGN|8CURRENCY NUMERATOR ONE|KTWO|LHREE|KFOUR",
    "KONE LESS THAN THE DENOMINATOR|ADENOMINATOR SIXTEEN|8ISSHAR|8GANDA MARK|8LETTER VEDIC ANUSVARA",
    "8ABBREVIATION SIGN|8SANDHI MARK|||0GURMUKHI SIGN ADAK BINDI|>BINDI|>VISARGA||9LETTER A|AA|@I|AI|@U",
    "AU|||||@EE|@AI|||@OO|@AU|@KA|AHA|@GA|AHA|@NGA|@CA|AHA|@JA|AHA|@NYA|@TTA|BHA|@DDA|BHA|@NNA|@TA|AHA",
    "@DA|AHA|@NA||@PA|AHA|@BA|AHA|@MA|@YA|@RA||@LA|ALA||@VA|@SHA||AA|@HA|||9SIGN NUKTA||9VOWEL SIGN AA|DI",
    "EI|DU|EU|||||DEE|DAI|||DOO|DAU|9SIGN VIRAMA||||>UDAAT||||||||9LETTER KHHA|@GHHA|@ZA|@RRA||@FA|||||||",
    "9DIGIT ZERO|?ONE|?TWO|@HREE|?FOUR|@IVE|?SIX|@EVEN|?EIGHT|?NINE|9TIPPI|9ADDAK|9IRI|9URA|9EK ONKAR",
    "9SIGN YAKASH|9ABBREVIATION SIGN"]),
  (0xa81, ["0GUJARATI SIGN CANDRABINDU|>ANUSVARA|>VISARGA||9LETTER A|AA|@I|AI|@U|AU|@VOCALIC R|HL",
    "9VOWEL CANDRA E||9LETTER E|@AI|9VOWEL CANDRA O||9LETTER O|@AU|@KA|AHA|@GA|AHA|@NGA|@CA|AHA|@JA|AHA",
    "@NYA|@TTA|BHA|@DDA|BHA|@NNA|@TA|AHA|@DA|AHA|@NA||@PA|AHA|@BA|AHA|@MA|@YA|@RA||@LA|ALA||@VA|@SHA|ASA",
    "AA|@HA|||9SIGN NUKTA|>AVAGRAHA|9VOWEL SIGN AA|DI|EI|DU|EU|DVOCALIC R|MR|DCANDRA E||DE|DAI|DCANDRA O|",
    "DO|DAU|9SIGN VIRAMA|||9OM"]),
  (0xae0, ["0GUJARATI LETTER VOCALIC RR|HLL|9VOWEL SIGN VOCALIC L|ML|||9DIGIT ZERO|?ONE|?TWO|@HREE|?FOUR|@IVE",
    "?SIX|@EVEN|?EIGHT|?NINE|9ABBREVIATION SIGN|9RUPEE SIGN||||||||9LETTER ZHA|9SIGN SUKUN|?HADDA|>MADDAH",
    ">THREE-DOT NUKTA ABOVE|>CIRCLE NUKTA ABOVE|>TWO-CIRCLE NUKTA ABOVE||0ORIYA SIGN CANDRABINDU",
    ";ANUSVARA|;VISARGA||6LETTER A|>A|=I|>I|=U|>U|=VOCALIC R|EL|||=E|=AI|||=O|=AU|=KA|>HA|=GA|>HA|=NGA",
    "=CA|>HA|=JA|>HA|=NYA|=TTA|?HA|=DDA|?HA|=NNA|=TA|>HA|=DA|>HA|=NA||=PA|>HA|=BA|>HA|=MA|=YA|=RA||=LA",
    ">LA||=VA|=SHA|>SA|>A|=HA|||6SIGN NUKTA|;AVAGRAHA|6VOWEL SIGN AA|AI|BI|AU|BU|AVOCALIC R|JR|||AE|AAI||",
    "AO|AAU|6SIGN VIRAMA||||||||;OVERLINE|6AI LENGTH MARK|7U LENGTH MARK|||||6LETTER RRA|>HA||=YYA",
    "=VOCALIC RR|ELL|6VOWEL SIGN VOCALIC L|JL|||6DIGIT ZERO|<ONE|<TWO|=HREE|<FOUR|=IVE|<SIX|=EVEN|<EIGHT",
    "<NINE|6ISSHAR|6LETTER WA|6FRACTION ONE QUARTER|CHALF|?THREE QUARTERS|?ONE SIXTEENTH|CEIGHTH",
    "?THREE SIXTEENTHS"]),
  (0xb82, ["0TAMIL SIGN ANUSVARA|;VISARGA||6LETTER A|>A|=I|>I|=U|>U||||=E|>E|=AI||=O|>O|=AU|=KA||||=NGA|=CA||=JA",
    "|=NYA|=TTA||||=NNA|=TA||||=NA|>NNA|=PA||||=MA|=YA|=RA|>RA|=LA|>LA|?LA|=VA|=SHA|>SA|>A|=HA||||",
    "6VOWEL SIGN AA|AI|BI|AU|BU||||AE|BE|AAI||AO|BO|AAU|6SIGN VIRAMA|||6OM|||||||6AU LENGTH MARK"]),
  (0xbe6, ["0TAMIL DIGIT ZERO|<ONE|<TWO|=HREE|<FOUR|=IVE|<SIX|=EVEN|<EIGHT|<NINE|6NUMBER TEN|=ONE HUNDRED",
    "ATHOUSAND|6DAY SIGN|6MONTH SIGN|6YEAR SIGN|6DEBIT SIGN|6CREDIT SIGN|6AS ABOVE SIGN|6RUPEE SIGN",
    "6NUMBER SIGN||||||1ELUGU SIGN COMBINING CANDRABINDU ABOVE|=ANDRABINDU|<ANUSVARA|<VISARGA",
    "<COMBINING ANUSVARA ABOVE|7LETTER A|?A|>I|?I|>U|?U|>VOCALIC R|FL||>E|?E|>AI||>O|?O|>AU|>KA|?HA|>GA",
    "?HA|>NGA|>CA|?HA|>JA|?HA|>NYA|>TTA|@HA|>DDA|@HA|>NNA|>TA|?HA|>DA|?HA|>NA||>PA|?HA|>BA|?HA|>MA|>YA",
    ">RA|?RA|>LA|?LA|@LA|>VA|>SHA|?SA|?A|>HA|||7SIGN NUKTA|<AVAGRAHA|7VOWEL SIGN AA|BI|CI|BU|CU",
    "BVOCALIC R|KR||BE|CE|BAI||BO|CO|BAU|7SIGN VIRAMA||||||||7LENGTH MARK|7AI LENGTH MARK||7LETTER TSA",
    ">DZA|>RRRA|||>NAKAARA POLLU|||>VOCALIC RR|FLL|7VOWEL SIGN VOCALIC L|KL|||7DIGIT ZERO|=ONE|=TWO|>HREE",
    "=FOUR|>IVE|=SIX|>EVEN|=EIGHT|=NINE||||||||7SIGN SIDDHAM|7FRACTION DIGIT ZERO FOR ODD POWERS OF FOUR",
    "FONE FOR ODD POWERS OF FOUR|FTWO FOR ODD POWERS OF FOUR|GHREE FOR ODD POWERS OF FOUR",
    "FONE FOR EVEN POWERS OF FOUR|FTWO FOR EVEN POWERS OF FOUR|GHREE FOR EVEN POWERS OF FOUR|7SIGN TUUMU",
    "0KANNADA SIGN SPACING CANDRABINDU|=CANDRABINDU|=ANUSVARA|=VISARGA|=SIDDHAM|8LETTER A|@A|?I|@I|?U|@U",
    "?VOCALIC R|GL||?E|@E|?AI||?O|@O|?AU|?KA|@HA|?GA|@HA|?NGA|?CA|@HA|?JA|@HA|?NYA|?TTA|AHA|?DDA|AHA|?NNA",
    "?TA|@HA|?DA|@HA|?NA||?PA|@HA|?BA|@HA|?MA|?YA|?RA|@RA|?LA|@LA||?VA|?SHA|@SA|@A|?HA|||8SIGN NUKTA",
    "=AVAGRAHA|8VOWEL SIGN AA|CI|DI|CU|DU|CVOCALIC R|LR||CE|DE|CAI||CO|DO|CAU|8SIGN VIRAMA|||||||",
    "8LENGTH MARK|8AI LENGTH MARK|||||||8LETTER NAKAARA POLLU|?FA||?VOCALIC RR|GLL|8VOWEL SIGN VOCALIC L",
    "LL|||8DIGIT ZERO|>ONE|>TWO|?HREE|>FOUR|?IVE|>SIX|?EVEN|>EIGHT|>NINE||8SIGN JIHVAMULIYA|=UPADHMANIYA"]),
  (0xd00, ["0MALAYALAM SIGN COMBINING ANUSVARA ABOVE|@ANDRABINDU|?ANUSVARA|?VISARGA|:LETTER VEDIC ANUSVARA|AA|BA",
    "AI|BI|AU|BU|AVOCALIC R|IL||AE|BE|AAI||AO|BO|AAU|AKA|BHA|AGA|BHA|ANGA|ACA|BHA|AJA|BHA|ANYA|ATTA|CHA",
    "ADDA|CHA|ANNA|ATA|BHA|ADA|BHA|ANA|BNNA|APA|BHA|ABA|BHA|AMA|AYA|ARA|BRA|ALA|BLA|CLA|AVA|ASHA|BSA|BA",
    "AHA|ATTTA|:SIGN VERTICAL BAR VIRAMA|?CIRCULAR VIRAMA|?AVAGRAHA|:VOWEL SIGN AA|EI|FI|EU|FU|EVOCALIC R",
    "NR||EE|FE|EAI||EO|FO|EAU|:SIGN VIRAMA|:LETTER DOT REPH|:SIGN PARA|||||:LETTER CHILLU M|HY|HLLL",
    ":AU LENGTH MARK|:FRACTION ONE ONE-HUNDRED-AND-SIXTIETH|GFORTIETH|CTHREE EIGHTIETHS|CONE TWENTIETH",
    "HENTH|CTHREE TWENTIETHS|CONE FIFTH|:LETTER ARCHAIC II|AVOCALIC RR|ILL|:VOWEL SIGN VOCALIC L|NL||",
    ":DIGIT ZERO|@ONE|@TWO|AHREE|@FOUR|AIVE|@SIX|AEVEN|@EIGHT|@NINE|:NUMBER TEN|AONE HUNDRED|ETHOUSAND",
    ":FRACTION ONE QUARTER|GHALF|CTHREE QUARTERS|CONE SIXTEENTH|GEIGHTH|CTHREE SIXTEENTHS|:DATE MARK",
    ":LETTER CHILLU NN|HN|HRR|HL|IL|HK||0SINHALA SIGN CANDRABINDU|=ANUSVARAYA|=VISARGAYA||8LETTER AYANNA",
    "@AYANNA|@EYANNA|AEYANNA|?IYANNA|@IYANNA|?UYANNA|@UYANNA|?IRUYANNA|BUYANNA|@LUYANNA|BUYANNA|?EYANNA",
    "@EYANNA|?AIYANNA|?OYANNA|@OYANNA|?AUYANNA||||@LPAPRAANA KAYANNA|?MAHAAPRAANA KAYANNA",
    "?ALPAPRAANA GAYANNA|?MAHAAPRAANA GAYANNA|?KANTAJA NAASIKYAYA|?SANYAKA GAYANNA|?ALPAPRAANA CAYANNA",
    "?MAHAAPRAANA CAYANNA|?ALPAPRAANA JAYANNA|?MAHAAPRAANA JAYANNA|?TAALUJA NAASIKYAYA",
    "GSANYOOGA NAAKSIKYAYA|?SANYAKA JAYANNA|?ALPAPRAANA TTAYANNA|?MAHAAPRAANA TTAYANNA",
    "?ALPAPRAANA DDAYANNA|?MAHAAPRAANA DDAYANNA|@UURDHAJA NAYANNA|?SANYAKA DDAYANNA|?ALPAPRAANA TAYANNA",
    "?MAHAAPRAANA TAYANNA|?ALPAPRAANA DAYANNA|?MAHAAPRAANA DAYANNA|?DANTAJA NAYANNA||?SANYAKA DAYANNA",
    "?ALPAPRAANA PAYANNA|?MAHAAPRAANA PAYANNA|?ALPAPRAANA BAYANNA|?MAHAAPRAANA BAYANNA|AYANNA",
    "?AMBA BAYANNA|?YAYANNA|?RAYANNA||?DANTAJA LAYANNA|||?VAYANNA|?TAALUJA SAYANNA|?MUURDHAJA SAYANNA",
    "?DANTAJA SAYANNA|?HAYANNA|?MUURDHAJA LAYANNA|?FAYANNA||||8SIGN AL-LAKUNA|||||8VOWEL SIGN AELA-PILLA",
    "CKETTI AEDA-PILLA|CDIGA AEDA-PILLA|CKETTI IS-PILLA|CDIGA IS-PILLA|CKETTI PAA-PILLA||CDIGA PAA-PILLA|",
    "CGAETTA-PILLA|CKOMBUVA|CDIGA KOMBUVA|CKOMBU DEKA|HVA HAA AELA-PILLA|ODIGA AELA-PILLA|OGAYANUKITTA",
    "CGAYANUKITTA|||||||8LITH DIGIT ZERO|CONE|CTWO|DHREE|CFOUR|DIVE|CSIX|DEVEN|CEIGHT|CNINE||",
    "8VOWEL SIGN DIGA GAETTA-PILLA|JYANUKITTA|8PUNCTUATION KUNDDALIYA"]),
  (0xe01, ["0THAI CHARACTER KO KAI|@HO KHAI|EUAT|EWAI|EON|CRAKHANG|?NGO NGU|?CHO CHAN|EING|EANG|?SO SO|?CHO CHOE",
    "?YO YING|?DO CHADA|?TO PATAK|@HO THAN|CNANGMONTHO|CPHUTHAO|?NO NEN|?DO DEK|?TO TAO|@HO THUNG|EAHAN",
    "EONG|?NO NU|?BO BAIMAI|?PO PLA|@HO PHUNG|?FO FA|?PHO PHAN|?FO FAN|?PHO SAMPHAO|?MO MA|?YO YAK",
    "?RO RUA|@U|?LO LING|@U|?WO WAEN|?SO SALA|BRUSI|BSUA|?HO HIP|?LO CHULA|?O ANG|?HO NOKHUK|?PAIYANNOI",
    "?SARA A|?MAI HAN-AKAT|?SARA AA|EM|DI|EI|DUE|FE|DU|EU|?PHINTHU|||||6URRENCY SYMBOL BAHT",
    "6HARACTER SARA E|DAE|DO|DAI MAIMUAN|KALAI|?LAKKHANGYAO|?MAIYAMOK|BTAIKHU|B EK|CTHO|DRI|CCHATTAWA",
    "?THANTHAKHAT|?NIKHAHIT|?YAMAKKAN|?FONGMAN|5DIGIT ZERO|;ONE|;TWO|<HREE|;FOUR|<IVE|;SIX|<EVEN|;EIGHT",
    ";NINE|5CHARACTER ANGKHANKHU|?KHOMUT"]),
  (0xe81, ["0LAO LETTER KO|<HO SUNG||?TAM||;PALI GHA|;NGO|;CO|;PALI CHA|;SO TAM||;PALI JHA|;NYO|;PALI NYA|@TTA",
    "BHA|@DDA|BHA|@NNA|;DO|;TO|<HO SUNG|?TAM|;PALI DHA|;NO|;BO|;PO|<HO SUNG|;FO TAM|;PHO TAM|;FO SUNG",
    ";PALI BHA|;MO|;YO|;LO LING||?OOT||;WO|;SANSKRIT SHA|ESA|<O SUNG|;HO SUNG|;PALI LLA|;O|;HO TAM",
    "4ELLIPSIS|4VOWEL SIGN A|?MAI KAN|?AA|@M|?I|@I|?Y|@Y|?U|@U|4SIGN PALI VIRAMA|4VOWEL SIGN MAI KON",
    "4SEMIVOWEL SIGN LO|CNYO|||4VOWEL SIGN E|@I|?O|?AY|@I||4KO LA||4TONE MAI EK|=THO|>I|=CATAWA",
    "4CANCELLATION MARK|4NIGGAHITA|||4DIGIT ZERO|:ONE|:TWO|;HREE|:FOUR|;IVE|:SIX|;EVEN|:EIGHT|:NINE||",
    "4HO NO|7MO|4LETTER KHMU GO|@NYO"]),
  (0xf00, ["0TIBETAN SYLLABLE OM|8MARK GTER YIG MGO TRUNCATED A|J-UM RNAM BCAD MA|NGTER TSHEG MA",
    "=INITIAL YIG MGO MDUN MA|=CLOSING YIG MGO SGAB MA|>ARET YIG MGO PHUR SHAD MA|=YIG MGO TSHEG SHAD MA",
    "=SBRUL SHAD|=BSKUR YIG MGO|>KA- SHOG YIG MGO|=INTERSYLLABIC TSHEG|=DELIMITER TSHEG BSTAR|=SHAD",
    "=NYIS SHAD|=TSHEG SHAD|=NYIS TSHEG SHAD|=RIN CHEN SPUNGS SHAD|>GYA GRAM SHAD",
    "=CARET -DZUD RTAGS ME LONG CAN|=GTER TSHEG|8LOGOTYPE SIGN CHAD RTAGS|FLHAG RTAGS",
    "8ASTROLOGICAL SIGN SGRA GCAN -CHAR RTAGS|J-KHYUD PA|JSDONG TSHUGS|8SIGN RDEL DKAR GCIG|HNYIS|HSUM",
    "BNAG GCIG|GNYIS|BDKAR RDEL NAG|8DIGIT ZERO|>ONE|>TWO|?HREE|>FOUR|?IVE|>SIX|?EVEN|>EIGHT|>NINE",
    ">HALF ONE|CTWO|DHREE|CFOUR|DIVE|CSIX|DEVEN|CEIGHT|CNINE|CZERO|8MARK BSDUS RTAGS|=NGAS BZUNG NYI ZLA",
    "=CARET -DZUD RTAGS BZHI MIG CAN|=NGAS BZUNG SGOR RTAGS|=CHE MGO|=TSA -PHRU|=GUG RTAGS GYON|IAS",
    "=ANG KHANG GYON|IAS|8SIGN YAR TSHES|=MAR TSHES|8LETTER KA|@HA|?GA|@HA|?NGA|?CA|@HA|?JA||?NYA|?TTA",
    "AHA|?DDA|AHA|?NNA|?TA|@HA|?DA|@HA|?NA|?PA|@HA|?BA|@HA|?MA|?TSA|AHA|?DZA|AHA|?WA|?ZHA|@A|?-A|?YA|?RA",
    "?LA|?SHA|@SA|@A|?HA|?A|?KSSA|?FIXED-FORM RA|?KKA|?RRA|||||8VOWEL SIGN AA|CI|DI|CU|DU|CVOCALIC R|LR",
    "KL|LL|CE|DE|CO|DO|8SIGN RJES SU NGA RO|>NAM BCAD|8VOWEL SIGN REVERSED I|MI|8SIGN NYI ZLA NAA DA",
    "=SNA LDAN|8MARK HALANTA|=PALUTA|8SIGN LCI RTAGS|=YANG RTAGS|=LCE TSA CAN|=MCHU CAN|=GRU CAN RGYINGS",
    "AMED RGYINGS|=INVERTED MCHU CAN|9UBJOINED SIGN LCE TSA CAN|GMCHU CAN|GINVERTED MCHU CAN|BLETTER KA",
    "JHA|IGA|JHA|INGA|ICA|JHA|IJA||INYA|ITTA|KHA|IDDA|KHA|INNA|ITA|JHA|IDA|JHA|INA|IPA|JHA|IBA|JHA|IMA",
    "ITSA|KHA|IDZA|KHA|IWA|IZHA|JA|I-A|IYA|IRA|ILA|ISHA|JSA|JA|IHA|IA|IKSSA|IFIXED-FORM WA|TYA|TRA|",
    "8KU RU KHA|A BZHI MIG CAN|8CANTILLATION SIGN HEAVY BEAT|JLIGHT BEAT|JCANG TE-U|JSBUB -CHAL",
    "8SYMBOL DRIL BU|?RDO RJE|?PADMA GDAN|?RDO RJE RGYA GRAM|?PHUR PA|?NOR BU|E NYIS -KHYIL|FGSUM -KHYIL",
    "FBZHI -KHYIL||9IGN RDEL NAG RDEL DKAR|FGSUM|8MARK BSKA- SHOG GI MGO RGYAN|=MNYAM YIG GI MGO RGYAN",
    "=NYIS TSHEG|=INITIAL BRDA RNYING YIG MGO MDUN MA|=CLOSING BRDA RNYING YIG MGO SGAB MA",
    "0RIGHT-FACING SVASTI SIGN|0LEFT-FACING SVASTI SIGN|0RIGHT-FACING SVASTI SIGN WITH DOTS",
    "0LEFT-FACING SVASTI SIGN WITH DOTS|0TIBETAN MARK LEADING MCHAN RTAGS|=TRAILING MCHAN RTAGS"]),
  (0x1000, ["0MYANMAR LETTER KA|@HA|?GA|@HA|?NGA|?CA|@HA|?JA|@HA|?NYA|@NYA|?TTA|AHA|?DDA|AHA|?NNA|?TA|@HA|?DA|@HA",
    "?NA|?PA|@HA|?BA|@HA|?MA|?YA|?RA|?LA|?WA|?SA|?HA|?LLA|?A|?SHAN A|?I|@I|?U|@U|?E|?MON E|?O|?AU",
    "8VOWEL SIGN TALL AA|CAA|CI|DI|CU|DU|CE|CAI|CMON II|GO|CE ABOVE|8SIGN ANUSVARA|=DOT BELOW|=VISARGA",
    "?RAMA|=ASAT|8CONSONANT SIGN MEDIAL YA|NRA|NWA|NHA|8LETTER GREAT SA|8DIGIT ZERO|>ONE|>TWO|?HREE|>FOUR",
    "?IVE|>SIX|?EVEN|>EIGHT|>NINE|8SIGN LITTLE SECTION|=SECTION|9YMBOL LOCATIVE|?COMPLETED",
    "?AFOREMENTIONED|?GENITIVE|8LETTER SHA|@SA|?VOCALIC R|HR|GL|HL|8VOWEL SIGN VOCALIC R|LR|KL|LL",
    "8LETTER MON NGA|CJHA|CBBA|EE|8CONSONANT SIGN MON MEDIAL NA|RMA|RLA|8LETTER SGAW KAREN SHA",
    "8VOWEL SIGN SGAW KAREN EU|8TONE MARK SGAW KAREN HATHI|MKE PHO|8LETTER WESTERN PWO KAREN THA|QPWA",
    "8VOWEL SIGN WESTERN PWO KAREN EU|UUE|8SIGN WESTERN PWO KAREN TONE-1|T2|T3|T4|T5",
    "8LETTER EASTERN PWO KAREN NNA|QYWA|QGHWA|8VOWEL SIGN GEBA KAREN I|CKAYAH OE|IU|IEE|8LETTER SHAN KA",
    "EHA|DGA|DCA|DZA|DNYA|DDA|DNA|DPHA|DFA|DBA|DTHA|DHA|8CONSONANT SIGN SHAN MEDIAL WA",
    "8VOWEL SIGN SHAN AA|HE|I ABOVE|HFINAL Y|8SIGN SHAN TONE-2|G3|G5|G6|BCOUNCIL TONE-2|O3|JEMPHATIC TONE",
    "8LETTER RUMAI PALAUNG FA|8SIGN RUMAI PALAUNG TONE-5|9HAN DIGIT ZERO|CONE|CTWO|DHREE|CFOUR|DIVE|CSIX",
    "DEVEN|CEIGHT|CNINE|9IGN KHAMTI TONE-1|I3|8VOWEL SIGN AITON A|JI|8SYMBOL SHAN ONE|DEXCLAMATION"])]

end AccessorForge.Text.CharName.Indic

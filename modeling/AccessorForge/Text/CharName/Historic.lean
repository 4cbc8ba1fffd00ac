/-! Names of characters: historic scripts. -/
namespace AccessorForge.Text.CharName.Historic

def runs : List (Nat × List String) := [
  (0x10000, ["0LINEAR B SYLLABLE B008 A|D38 E|D28 I|D61 O|D10 U|D01 DA|D45 DE|D07 DI|D14 DO|D51 DU|E7 JA|D46 JE|",
    "D36 JO|D65 JU|D77 KA|D44 KE|D67 KI|D70 KO|D81 KU|E0 MA|D13 ME|D73 MI|D15 MO|D23 MU|D06 NA|D24 NE",
    "D30 NI|D52 NO|E5 NU|D03 PA|D72 PE|D39 PI|D11 PO|D50 PU|D16 QA|D78 QE|D21 QI|D32 QO||D60 RA|D27 RE",
    "D53 RI|D02 RO|D26 RU|D31 SA|D09 SE|D41 SI|D12 SO|D58 SU|E9 TA|D04 TE|D37 TI|D05 TO|D69 TU|D54 WA",
    "D75 WE|D40 WI|E2 WO||D17 ZA|D74 ZE||D20 ZO|E5 A2|D43 A3|D85 AU|D71 DWE|D90 DWO|D48 NWA|D29 PU2",
    "D62 PTE|D76 RA2|D33 RA3|D68 RO2|E6 TA2|D87 TWE|D91 TWO|||;MBOL B018|C9|B22|B34|B47|C9|B56|B63|C4|B79",
    "B82|C3|C6|C9"]),
  (0x10080, ["0LINEAR B IDEOGRAM B100 MAN|E2 WOMAN|E4 DEER|E5 EQUID|FF MARE|FM STALLION|E6F EWE|FM RAM",
    "E7F SHE-GOAT|FM HE-GOAT|E8F SOW|FM BOAR|E9F COW|FM BULL|D20 WHEAT|E1 BARLEY|E2 OLIVE|E3 SPICE",
    "E5 CYPERUS|9MONOGRAM B127 KAPO|E8 KANAKO|9IDEOGRAM B130 OIL|E1 WINE|E2|9MONOGRAM B133 AREPA|E5 MERI",
    "9IDEOGRAM B140 BRONZE|E1 GOLD|E2|E5 WOOL|E6|D50|E1 HORN|E2|E3|E4|9MONOGRAM B156 TURO2|9IDEOGRAM B157",
    "E8|E9 CLOTH|D60|E1|E2 GARMENT|E3 ARMOUR|E4|E5|E6|E7|E8|E9|D70|E1|E2|E3 MONTH|E4|E6 TREE|E7|E8|E9|D80",
    "E1|E2|E3|E4|E5|E9|D90|E1 HELMET|C220 FOOTSTOOL|E5 BATHTUB|D30 SPEAR|E1 ARROW|E2|E3 SWORD|E4|E6",
    "D40 WHEELED CHARIOT|E1 CHARIOT|E2 CHARIOT FRAME|E3 WHEEL|E5|E6|9MONOGRAM B247 DIPTE|9IDEOGRAM B248",
    "E9|D51|E2|E3|E4 DART|E5|E6|E7|E8|E9|BVESSEL B155|J200|L1|L2|L3|L4|L5|L6|L7|L8|L9|K10|L1|L2|L3|L4|L5",
    "L6|L7|L8|L9|K21|L2|L6|L7|L8|L9|K50|J305||||||0AEGEAN WORD SEPARATOR LINE|FDOT|7CHECK MARK||||",
    "7NUMBER ONE|>TWO|?HREE|>FOUR|?IVE|>SIX|?EVEN|>EIGHT|>NINE|>TEN|?WENTY|?HIRTY|>FORTY|?IFTY|>SIXTY",
    "?EVENTY|>EIGHTY|>NINETY|>ONE HUNDRED|>TWO HUNDRED|?HREE HUNDRED|>FOUR HUNDRED|?IVE HUNDRED",
    ">SIX HUNDRED|?EVEN HUNDRED|>EIGHT HUNDRED|>NINE HUNDRED|>ONE THOUSAND|>TWO THOUSAND|?HREE THOUSAND",
    ">FOUR THOUSAND|?IVE THOUSAND|>SIX THOUSAND|?EVEN THOUSAND|>EIGHT THOUSAND|>NINE THOUSAND",
    ">TEN THOUSAND|?WENTY THOUSAND|?HIRTY THOUSAND|>FORTY THOUSAND|?IFTY THOUSAND|>SIXTY THOUSAND",
    "?EVENTY THOUSAND|>EIGHTY THOUSAND|>NINETY THOUSAND||||7WEIGHT BASE UNIT|>FIRST SUBUNIT",
    ">SECOND SUBUNIT|>THIRD SUBUNIT|>FOURTH SUBUNIT|7DRY MEASURE FIRST SUBUNIT",
    "7LIQUID MEASURE FIRST SUBUNIT|7MEASURE SECOND SUBUNIT|?THIRD SUBUNIT",
    "0GREEK ACROPHONIC ATTIC ONE QUARTER|KHALF|KDRACHMA|GFIVE|IFTY|IVE HUNDRED|LTHOUSAND|IFTY THOUSAND",
    "IVE TALENTS|GTEN TALENTS|GFIFTY TALENTS|GONE HUNDRED TALENTS|GFIVE HUNDRED TALENTS",
    "GONE THOUSAND TALENTS|GFIVE THOUSAND TALENTS|LSTATERS|GTEN STATERS|GFIFTY STATERS",
    "GONE HUNDRED STATERS|GFIVE HUNDRED STATERS|GONE THOUSAND STATERS|GTEN THOUSAND STATERS",
    "GFIFTY THOUSAND STATERS|GTEN MNAS|AHERAEUM ONE PLETHRON|ATHESPIAN ONE|AHERMIONIAN ONE",
    "AEPIDAUREAN TWO|ATHESPIAN TWO|ACYRENAIC TWO DRACHMAS|AEPIDAUREAN TWO DRACHMAS|ATROEZENIAN FIVE|LTEN",
    "O ALTERNATE FORM|AHERMIONIAN TEN|AMESSENIAN TEN|ATHESPIAN TEN|KHIRTY|BROEZENIAN FIFTY",
    "Q ALTERNATE FORM|AHERMIONIAN FIFTY|ATHESPIAN FIFTY|JONE HUNDRED|JTHREE HUNDRED",
    "AEPIDAUREAN FIVE HUNDRED|ATROEZENIAN FIVE HUNDRED|BHESPIAN FIVE HUNDRED|ACARYSTIAN FIVE HUNDRED",
    "ANAXIAN FIVE HUNDRED|ATHESPIAN ONE THOUSAND|JFIVE THOUSAND|ADELPHIC FIVE MNAS|ASTRATIAN FIFTY MNAS",
    "6ONE HALF SIGN|C ALTERNATE FORM|6TWO THIRDS SIGN|7HREE QUARTERS SIGN|6YEAR SIGN|6TALENT SIGN",
    "6DRACHMA SIGN|6OBOL SIGN|6TWO OBOLS SIGN|7HREE OBOLS SIGN|6FOUR OBOLS SIGN|7IVE OBOLS SIGN",
    "6METRETES SIGN|6KYATHOS BASE SIGN|6LITRA SIGN|6OUNKIA SIGN|6XESTES SIGN|6ARTABE SIGN|8OURA SIGN",
    "6GRAMMA SIGN|6TRYBLION BASE SIGN|6ZERO SIGN|6ONE QUARTER SIGN|6SINUSOID SIGN|6INDICTION SIGN",
    "0NOMISMA SIGN||0ROMAN SEXTANS SIGN|6UNCIA SIGN|6SEMUNCIA SIGN|8XTULA SIGN|6DIMIDIA SEXTULA SIGN",
    "6SILIQUA SIGN|6DENARIUS SIGN|6QUINARIUS SIGN|6SESTERTIUS SIGN|6DUPONDIUS SIGN|6AS SIGN",
    "6CENTURIAL SIGN|0ASCIA SYMBOL||||0GREEK SYMBOL TAU RHO"]),
  (0x101d0, ["0PHAISTOS DISC SIGN PEDESTRIAN|DLUMED HEAD|CTATTOOED HEAD|CCAPTIVE|DHILD|CWOMAN|CHELMET|CGAUNTLET",
    "CTIARA|CARROW|CBOW|CSHIELD|CCLUB|CMANACLES|ETTOCK|CSAW|CLID|CBOOMERANG|CCARPENTRY PLANE|CDOLIUM",
    "CCOMB|CSLING|CCOLUMN|CBEEHIVE|CSHIP|CHORN|DIDE|CBULLS LEG|CCAT|CRAM|CEAGLE|CDOVE|CTUNNY|CBEE",
    "CPLANE TREE|CVINE|CPAPYRUS|CROSETTE|CLILY|COX BACK|CFLUTE|CGRATER|CSTRAINER|DMALL AXE|CWAVY BAND",
    "CCOMBINING OBLIQUE STROKE"]),
  (0x10280, ["0LYCIAN LETTER A|>E|>B|?H|>G|>D|>I|>W|>Z|>TH|>J|>K|>Q|>L|>M|>N|>MM|>NN|>U|>P|>KK|>R|>S|>T|?T|>AN|>EN",
    ">H|>X||||0CARIAN LETTER A|>P2|>D|>L|>UUU|>R|>LD|>A2|>Q|>B|>M|>O|>D2|>T|>SH|@2|>S|>C-18|>U|>NN|>X|>N",
    ">TT2|>P|>SS|>I|>E|>UUUU|>K|?2|>ND|>UU|>G|?2|>ST|@2|>NG|>II|>C-39|>TT|>UUU2|>RR|>MB|@2|@3|@4|>LD2|>E2",
    ">UUU3"]),
  (0x102e0, ["0COPTIC EPACT THOUSANDS MARK|=DIGIT ONE|CTWO|DHREE|CFOUR|DIVE|CSIX|DEVEN|CEIGHT|CNINE|=NUMBER TEN",
    "EWENTY|EHIRTY|DFORTY|EIFTY|DSIXTY|EEVENTY|DEIGHTY|DNINETY|DONE HUNDRED|DTWO HUNDRED|EHREE HUNDRED",
    "DFOUR HUNDRED|EIVE HUNDRED|DSIX HUNDRED|EEVEN HUNDRED|DEIGHT HUNDRED|DNINE HUNDRED||||",
    "0OLD ITALIC LETTER A|BBE|BKE|BDE|BE|BVE|BZE|BHE|BTHE|BI|BKA|BEL|CM|CN|CSH|BO|BPE|BSHE|BKU|BER|CS|BTE",
    "BU|BEKS|BPHE|BKHE|BEF|CRS|BCHE|BII|BUU|BESS|;NUMERAL ONE|CFIVE|CTEN|CFIFTY"]),
  (0x1032d, ["0OLD ITALIC LETTER YE|BNORTHERN TSE|BSOUTHERN TSE|0GOTHIC LETTER AHSA|>BAIRKAN|>GIBA|>DAGS|>AIHVUS",
    ">QAIRTHRA|>IUJA|>HAGL|>THIUTH|>EIS|>KUSMA|>LAGUS|>MANNA|>NAUTHS|>JER|>URUS|>PAIRTHRA|>NINETY|>RAIDA",
    ">SAUIL|>TEIWS|>WINJA|>FAIHU|>IGGWS|>HWAIR|>OTHAL|>NINE HUNDRED||||||0OLD PERMIC LETTER AN|BBUR|BGAI",
    "BDOI|BE|BZHOI|BDZHOI|BZATA|BDZITA|BI|BKOKE|BLEI|BMENOE|BNENOE|BVOOI|BPEEI|BREI|BSII|BTAI|BU|BCHERY",
    "BSHOOI|DCHOOI|BYRY|CERU|BO|CO|BEF|BHA|BTSIU|BVER|BYER|EI|CAT|BIE|BYU|CA|BIA",
    "0COMBINING OLD PERMIC LETTER AN|LDOI|LZATA|LNENOE|LSII||||||0UGARITIC LETTER ALPA|@BETA|@GAMLA|@KHA",
    "@DELTA|@HO|@WO|@ZETA|@HOTA|@TET|@YOD|@KAF|@SHIN|@LAMDA|@MEM|@DHAL|@NUN|@ZU|@SAMKA|@AIN|@PU|@SADE",
    "@QOPA|@RASHA|@THANNA|@GHAIN|@TO|@I|@U|@SSU||9WORD DIVIDER|0OLD PERSIAN SIGN A|AI|AU|AKA|BU|AGA|BU",
    "AXA|ACA|AJA|BI|ATA|BU|ADA|BI|BU|ATHA|APA|ABA|AFA|ANA|BU|AMA|BI|BU|AYA|AVA|BI|ARA|BU|ALA|ASA|AZA|ASHA",
    "BSA|AHA|||||AAURAMAZDAA|K-2|KHA|AXSHAAYATHIYA|ADAHYAAUSH|J-2|ABAGA|BUUMISH|<WORD DIVIDER|<NUMBER ONE",
    "CTWO|DEN|DWENTY|CHUNDRED"]),
  (0x10400, ["0DESERET CAPITAL LETTER LONG I|LE|LA|MH|LO|MO|GSHORT I|ME|MA|NH|MO|NO|GAY|GOW|GWU|GYEE|GH|GPEE|GBEE",
    "GTEE|GDEE|GCHEE|GJEE|GKAY|GGAY|GEF|GVEE|GETH|GTHEE|GES|GZEE|GESH|GZHEE|GER|HL|HM|HN|IG|GOI|GEW",
    "8SMALL LETTER LONG I|JE|JA|KH|JO|KO|ESHORT I|KE|KA|LH|KO|LO|EAY|EOW|EWU|EYEE|EH|EPEE|EBEE|ETEE|EDEE",
    "ECHEE|EJEE|EKAY|EGAY|EEF|EVEE|EETH|ETHEE|EES|EZEE|EESH|EZHEE|EER|FL|FM|FN|GG|EOI|EEW",
    "0SHAVIAN LETTER PEEP|?TOT|?KICK|?FEE|?THIGH|?SO|@URE|?CHURCH|?YEA|?HUNG|?BIB|?DEAD|?GAG|?VOW|?THEY",
    "?ZOO|?MEASURE|?JUDGE|?WOE|?HA-HA|?LOLL|?MIME|?IF|?EGG|?ASH|@DO|?ON|?WOOL|?OUT|?AH|?ROAR|?NUN|?EAT",
    "?AGE|?ICE|?UP|?OAK|@OZE|@IL|?AWE|@RE|?OR|?AIR|?ERR|?ARRAY|?EAR|?IAN|?YEW|0OSMANYA LETTER ALEF|?BA",
    "?TA|?JA|?XA|?KHA|?DEEL|?RA|?SA|@HIIN|?DHA|?CAYN|?GA|?FA|?QAAF|?KAAF|?LAAN|?MIIN|?NUUN|?WAW|?HA|?YA",
    "?A|?E|?I|?O|?U|?AA|?EE|?OO|||8DIGIT ZERO|>ONE|>TWO|?HREE|>FOUR|?IVE|>SIX|?EVEN|>EIGHT|>NINE||||||",
    "2AGE CAPITAL LETTER A|FI|GN|FH|EBRA|ECHA|EEHCHA|EE|FIN|EHA|FYA|EI|EKA|EEHKA|EKYA|ELA|EMA|ENA|EO|FIN",
    "EPA|EEHPA|ESA|FHA|ETA|EEHTA|ETSA|EEHTSA|ETSHA|EDHA|EU|EWA|EKHA|EGHA|EZA|FHA|||||6SMALL LETTER A|DI",
    "EN|DH|CBRA|CCHA|CEHCHA|CE|DIN|CHA|DYA|CI|CKA|CEHKA|CKYA|CLA|CMA|CNA|CO|DIN|CPA|CEHPA|CSA|DHA|CTA",
    "CEHTA|CTSA|CEHTSA|CTSHA|CDHA|CU|CWA|CKHA|CGHA|CZA|DHA|||||0ELBASAN LETTER A|?BE|?CE|@HE|?DE|?NDE",
    "?DHE|?EI|?E|?FE|?GE|@JE|?HE|?I|?JE|?KE|?LE|@LE|?ME|?NE|@A|@JE|?O|?PE|?QE|?RE|@RE|?SE|@HE|?TE|@HE|?U",
    "?VE|?XE|?Y|?ZE|@HE|?GHE|AAMMA|?KHE"]),
  (0x10530, ["0CAUCASIAN ALBANIAN LETTER ALT|JBET|JGIM|JDAT|JEB|JZARL|JEYN|JZHIL|JTAS|JCHA|JYOWD|JZHA|JIRB|JSHA",
    "JLAN|JINYA|JXEYN|JDYAN|JCAR|JJHOX|JKAR|JLYIT|JHEYT|JQAY|JAOR|JCHOY|LI|KYAY|JMAQ|JQAR|JNOWC|JDZYAY",
    "JSHAK|JJAYN|JON|JTYAY|JFAM|JDZAY|JCHAT|JPEN|JGHEYS|JRAT|JSEYK|JVEYZ|JTIWR|JSHOY|JIWN|JCYAW|KAYN",
    "JYAYD|JPIWR|JKIW"]),
  (0x1056f, ["0CAUCASIAN ALBANIAN CITATION MARK|0VITHKUQI CAPITAL LETTER A|HBBE|IE|HCE|IHE|HDE|IHE|HEI|HE|HFE|HGA|",
    "HHA|IHA|HI|IJE|HJE|HKA|HLA|ILA|HME|HNE|IJE|HO|HPE|HQA|HRE||HSE|IHE|HTE|IHE|HU|HVE|HXE||HY|HZE|",
    "9SMALL LETTER A|FBBE|GE|FCE|GHE|FDE|GHE|FEI|FE|FFE|FGA||FHA|GHA|FI|GJE|FJE|FKA|FLA|GLA|FME|FNE|GJE",
    "FO|FPE|FQA|FRE||FSE|GHE|FTE|GHE|FU|FVE|FXE||FY|FZE"]),
  (0x10600, ["0LINEAR A SIGN AB001|B2|B3|B4|B5|B6|B7|B8|B9|A10|B1|B3|B6|B7|A20|B1|CF|CM|B2|CF|CM|B3|CM|B4|B6|B7|B8",
    "?028B|?B029|A30|B1|B4|B7|B8|B9|A40|B1|B4|B5|B6|B7|B8|B9|A50|B1|B3|B4|B5|B6|B7|B8|B9|A60|B1|B5|B6|B7",
    "B9|A70|B3|B4|B6|B7|B8|B9|A80|B1|B2|B5|B6|B7|?100-102|?B118|A20|?120B|?B122|B3|A31A|CB|?131C|?B164",
    "A71|A80|B8|A91|?301|A2|A3|A4|A5|A6|A7|A8|A9A|BB|BC|@10|A1|A2|A3A|BB|BC|A4|A5|A6|A7|A8|A9|@20|A1|A2",
    "A3|A4|A5|A6|A7|A8|A9|@30|A1|A2|A3|A4|A5|A6|A7|A8|A9|@40|A1|A2|A3|A4|A5|A6|A7|A8|A9|@50|A1|A2|A3|A4",
    "A5|A6|A7|A8|A9|@60|A1|A2|A3|A4|A5|A6|A7|A8|A9|@70|A1|?400-VAS|A1-VAS|A2-VAS|A3-VAS|A4-VAS|A5-VAS",
    "A6-VAS|A7-VAS|A8-VAS|A9-VAS|@10-VAS|A1-VAS|A2-VAS|A3-VAS|A4-VAS|A5-VAS|A6-VAS|A7-VAS|A8-VAS|?501|A2",
    "A3|A4|A5|A6|A8|A9|@10|A1|A2|A3|A5|A6|@20|A1|A3|A4|A5|A6|A7|A8|A9|@30|A1|A2|A4|A5|A6|A7|A8|A9|@40|A1",
    "A2|A5|A7|A8|A9|@50|A1|A2|A3|A4|A5|A6|A7|A9|@63|A4|A5|A6|A8|A9|@70|A1|A2|A3|A4|A5|A6|A7|A8|A9|@80|A1",
    "A2|A3|A4|A5|A6|A7|A8|A9|@91|A2|A4|A5|A6|A8|?600|A1|A2|A3|A4|A6|A8|A9|@10|A1|A2|A3|A4|A5|A6|A7|A8|A9",
    "@20|A1|A2|A3|A4|A6|A7|A8|A9|@34|A7|A8|@40|A2|A3|A4|A5|A6|A8|A9|@51|A2|A3|A4|A5|A6|A7|A8|A9|@60|A1|A2",
    "A3|A4"]),
  (0x10740, ["0LINEAR A SIGN A701 A|A2 B|A3 D|A4 E|A5 F|A6 H|A7 J|A8 K|A9 L|B-2 L2|C3 L3|C4 L4|C6 L6|@10 W|A1 X",
    "A2 Y|A3 OMEGA|A4 ABB|A5 BB|A7 DD|@26 EYYY|@32 JE"]),
  (0x10760, ["0LINEAR A SIGN A800|A1|A2|A3|A4|A5|A6|A7"]),
  (0x10780, ["0MODIFIER LETTER SMALL CAPITAL AA|AUPERSCRIPT TRIANGULAR COLON|LHALF TRIANGULAR COLON|AMALL AE",
    "FCAPITAL B|FB WITH HOOK||FDZ DIGRAPH|P WITH RETROFLEX HOOK|VCURL|GEZH DIGRAPH|G WITH TAIL|MHOOK",
    "Q AND TAIL|FREVERSED E|FCLOSED REVERSED OPEN E|FFENG DIGRAPH|FRAMS HORN|FCAPITAL G|FG WITH HOOK",
    "FCAPITAL G WITH HOOK|FH WITH STROKE|FCAPITAL H|FHENG WITH HOOK|FDOTLESS J WITH STROKE AND HOOK",
    "FLS DIGRAPH|GZ DIGRAPH|G WITH BELT|FCAPITAL L WITH BELT|FL WITH RETROFLEX HOOK AND BELT|GEZH",
    "J WITH RETROFLEX HOOK|FTURNED Y|N WITH BELT|FO WITH STROKE|FCAPITAL OE|GLOSED OMEGA|FQ",
    "FTURNED R WITH LONG LEG|[G AND RETROFLEX HOOK|FR WITH TAIL|MFISHHOOK|FCAPITAL R",
    "FTC DIGRAPH WITH CURL|GS DIGRAPH|P WITH RETROFLEX HOOK|GESH DIGRAPH|G WITH RETROFLEX HOOK",
    "FV WITH RIGHT HOOK||FCAPITAL Y|@GLOTTAL STOP WITH STROKE|@REVERSED GLOTTAL STOP WITH STROKE",
    "@BILABIAL CLICK|@DENTAL CLICK|@LATERAL CLICK|@ALVEOLAR CLICK|@RETROFLEX CLICK WITH RETROFLEX HOOK",
    "@SMALL S WITH CURL"]),
  (0x10800, ["0CYPRIOT SYLLABLE A|AE|AI|AO|AU|AJA|||BO||AKA|BE|BI|BO|BU|ALA|BE|BI|BO|BU|AMA|BE|BI|BO|BU|ANA|BE|BI",
    "BO|BU|APA|BE|BI|BO|BU|ARA|BE|BI|BO|BU|ASA|BE|BI|BO|BU|ATA|BE|BI|BO|BU|AWA|BE|BI|BO||AXA|BE||||AZA||",
    "BO|0IMPERIAL ARAMAIC LETTER ALEPH|HBETH|HGIMEL|HDALETH|HHE|HWAW|HZAYIN|HHETH|HTETH|HYODH|HKAPH",
    "HLAMEDH|HMEM|HNUN|HSAMEKH|HAYIN|HPE|HSADHE|HQOPH|HRESH|HSHIN|HTAW||ASECTION SIGN|ANUMBER ONE|HTWO",
    "IHREE|IEN|IWENTY|HONE HUNDRED|LTHOUSAND|HTEN THOUSAND|0PALMYRENE LETTER ALEPH|ABETH|AGIMEL|ADALETH",
    "AHE|AWAW|AZAYIN|AHETH|ATETH|AYODH|AKAPH|ALAMEDH|AMEM|AFINAL NUN|ANUN|ASAMEKH|AAYIN|APE|ASADHE|AQOPH",
    "ARESH|ASHIN|ATAW|<FT-POINTING FLEURON|:RIGHT-POINTING FLEURON|:NUMBER ONE|ATWO|BHREE|AFOUR|BIVE|ATEN",
    "BWENTY|0NABATAEAN LETTER FINAL ALEPH|AALEPH|AFINAL BETH|ABETH|AGIMEL|ADALETH|AFINAL HE|AHE|AWAW",
    "AZAYIN|AHETH|ATETH|AFINAL YODH|AYODH|AFINAL KAPH|AKAPH|AFINAL LAMEDH|ALAMEDH|AFINAL MEM|AMEM",
    "AFINAL NUN|ANUN|ASAMEKH|AAYIN|APE|ASADHE|AQOPH|ARESH|AFINAL SHIN|ASHIN|ATAW"]),
  (0x108a7, ["0NABATAEAN NUMBER ONE|ATWO|BHREE|AFOUR|:CRUCIFORM NUMBER FOUR|:NUMBER FIVE|ATEN|BWENTY|AONE HUNDRED"]),
  (0x108e0, ["0HATRAN LETTER ALEPH|>BETH|>GIMEL|>DALETH-RESH|>HE|>WAW|>ZAYN|>HETH|>TETH|>YODH|>KAPH|>LAMEDH|>MEM",
    ">NUN|>SAMEKH|>AYN|>PE|>SADHE|>QOPH||>SHIN|>TAW||||||7NUMBER ONE|>FIVE|>TEN|?WENTY|>ONE HUNDRED",
    "0PHOENICIAN LETTER ALF|BBET|BGAML|BDELT|BHE|BWAU|BZAI|BHET|BTET|BYOD|BKAF|BLAMD|BMEM|BNUN|BSEMK|BAIN",
    "BPE|BSADE|BQOF|BROSH|BSHIN|BTAU|;NUMBER ONE|BTEN|CWENTY|BONE HUNDRED|BTWO|CHREE||||;WORD SEPARATOR",
    "0LYDIAN LETTER A|>B|>G|>D|>E|>V|>I|>Y|>K|>L|>M|>N|>O|>R|>SS|>T|>U|>F|>Q|>S|>TT|>AN|>EN|>LY|>NN|>C|||",
    "||7TRIANGULAR MARK"]),
  (0x10980, ["0MEROITIC HIEROGLYPHIC LETTER A|ME|MI|MO|MYA|MWA|MBA|O-2|MPA|MMA|MNA|O-2|NE|O-2|MRA|O-2|MLA|MKHA",
    "MHHA|MSA|O-2|NE|MKA|MQA|MTA|O-2|NE|O-2|NO|MDA|FSYMBOL VIDJ|Q-2|9CURSIVE LETTER A|HE|HI|HO|HYA|HWA",
    "HBA|HPA|HMA|HNA|IE|HRA|HLA|HKHA|HHHA|HSA|HARCHAIC SA|HSE|HKA|HQA|HTA|IE|IO|HDA||||",
    "AFRACTION ELEVEN TWELFTHS|JONE HALF|ALOGOGRAM RMT|JIMN|ANUMBER ONE|HTWO|IHREE|HFOUR|IIVE|HSIX|IEVEN",
    "HEIGHT|HNINE|HTEN|IWENTY|IHIRTY|HFORTY|IIFTY|HSIXTY|IEVENTY|||HONE HUNDRED|HTWO HUNDRED",
    "IHREE HUNDRED|HFOUR HUNDRED|IIVE HUNDRED|HSIX HUNDRED|IEVEN HUNDRED|HEIGHT HUNDRED|HNINE HUNDRED",
    "HONE THOUSAND|HTWO THOUSAND|IHREE THOUSAND|HFOUR THOUSAND|IIVE THOUSAND|HSIX THOUSAND|IEVEN THOUSAND",
    "HEIGHT THOUSAND|HNINE THOUSAND|HTEN THOUSAND|IWENTY THOUSAND|IHIRTY THOUSAND|HFORTY THOUSAND",
    "IIFTY THOUSAND|HSIXTY THOUSAND|IEVENTY THOUSAND|HEIGHTY THOUSAND|HNINETY THOUSAND",
    "HONE HUNDRED THOUSAND|HTWO HUNDRED THOUSAND|IHREE HUNDRED THOUSAND|HFOUR HUNDRED THOUSAND",
    "IIVE HUNDRED THOUSAND|HSIX HUNDRED THOUSAND|IEVEN HUNDRED THOUSAND|HEIGHT HUNDRED THOUSAND",
    "HNINE HUNDRED THOUSAND|AFRACTION ONE TWELFTH|JTWO TWELFTHS|KHREE TWELFTHS|JFOUR TWELFTHS",
    "KIVE TWELFTHS|JSIX TWELFTHS|KEVEN TWELFTHS|JEIGHT TWELFTHS|JNINE TWELFTHS|JTEN TWELFTHS",
    "0KHAROSHTHI LETTER A|;VOWEL SIGN I|FU|FVOCALIC R||FE|FO||||||ALENGTH MARK|;SIGN DOUBLE RING BELOW",
    "@ANUSVARA|@VISARGA|;LETTER KA|CHA|BGA|CHA||BCA|CHA|BJA||BNYA|BTTA|DHA|BDDA|DHA|BNNA|BTA|CHA|BDA|CHA",
    "BNA|BPA|CHA|BBA|CHA|BMA|BYA|BRA|BLA|BVA|BSHA|CSA|CA|BZA|BHA|BKKA|BTTTHA|EA|BVHA|||;SIGN BAR ABOVE",
    "@CAUDA|@DOT BELOW|||||;VIRAMA|;DIGIT ONE|ATWO|BHREE|AFOUR|;NUMBER TEN|CWENTY|BONE HUNDRED|FTHOUSAND",
    ";FRACTION ONE HALF||||||||;PUNCTUATION DOT|GSMALL CIRCLE|GCIRCLE|HRESCENT BAR|GMANGALAM|GLOTUS",
    "GDANDA|HOUBLE DANDA|GLINES||||||||0OLD SOUTH ARABIAN LETTER HE|ILAMEDH|IHETH|IMEM|IQOPH|IWAW|ISHIN",
    "IRESH|IBETH|ITAW|ISAT|IKAPH|INUN|IKHETH|ISADHE|KMEKH|IFE|IALEF|JYN|IDHADHE|IGIMEL|IDALETH|IGHAYN",
    "ITETH|IZAYN|IDHALETH|IYODH|ITHAW|KETH|BNUMBER ONE|IFIFTY|EERIC INDICATOR|4NORTH ARABIAN LETTER HEH",
    "ILAM|IHAH|IMEEM|IQAF|IWAW|IES-2|IREH|IBEH|ITEH|IES-1|IKAF|INOON|IKHAH|ISAD|IES-3|IFEH|IALEF|JIN|IDAD",
    "IGEEM|IDAL|IGHAIN|ITAH|IZAIN|ITHAL|IYEH|ITHEH|IZAH|BNUMBER ONE|ITEN|JWENTY"]),
  (0x10ac0, ["0MANICHAEAN LETTER ALEPH|BBETH|CHETH|BGIMEL|CHIMEL|BDALETH|BHE|BWAW|;SIGN UD|;LETTER ZAYIN|CHAYIN",
    "BJAYIN|CHAYIN|BHETH|BTETH|BYODH|BKAPH|BXAPH|BKHAPH|BLAMEDH|BDHAMEDH|BTHAMEDH|BMEM|BNUN|BSAMEKH|BAYIN",
    "CAYIN|BPE|BFE|BSADHE|BQOPH|BXOPH|BQHOPH|BRESH|BSHIN|CSHIN|BTAW|;ABBREVIATION MARK ABOVE|MBELOW||||",
    ";NUMBER ONE|BFIVE|BTEN|CWENTY|BONE HUNDRED|;PUNCTUATION STAR|GFLEURON|GDOUBLE DOT WITHIN DOT",
    "IT WITHIN DOT|IT|GTWO DOTS|GLINE FILLER"]),
  (0x10b00, ["0AVESTAN LETTER A|@A|@O|@AO|@N|@AN|@E|AE|?E|@E|?O|@O|?I|@I|?U|@U|?KE|?XE|@YE|@VE|?GE|@GE|@HE|?CE|?JE",
    "?TE|@HE|?DE|@HE|?TTE|?PE|?FE|?BE|@HE|?NGE|AYE|AVE|@E|@YE|@NE|?ME|?HME|?YYE|@E|?VE|?RE|?LE|?SE|?ZE",
    "?SHE|?ZHE|?SHYE|@SHE|?HE||||8ABBREVIATION MARK|0TINY TWO DOTS OVER ONE DOT PUNCTUATION",
    "0SMALL TWO DOTS OVER ONE DOT PUNCTUATION|0LARGE TWO DOTS OVER ONE DOT PUNCTUATION",
    "6ONE DOT OVER TWO DOTS PUNCTUATION|6TWO RINGS OVER ONE RING PUNCTUATION",
    "6ONE RING OVER TWO RINGS PUNCTUATION|0INSCRIPTIONAL PARTHIAN LETTER ALEPH|NBETH|NGIMEL|NDALETH|NHE",
    "NWAW|NZAYIN|NHETH|NTETH|NYODH|NKAPH|NLAMEDH|NMEM|NNUN|NSAMEKH|NAYIN|NPE|NSADHE|NQOPH|NRESH|NSHIN",
    "NTAW|||GNUMBER ONE|NTWO|OHREE|NFOUR|NTEN|OWENTY|NONE HUNDRED|RTHOUSAND|@HLAVI LETTER ALEPH|MBETH",
    "MGIMEL|MDALETH|MHE|MWAW-AYIN-RESH|MZAYIN|MHETH|MTETH|MYODH|MKAPH|MLAMEDH|MMEM-QOPH|MNUN|MSAMEKH|MPE",
    "MSADHE|NHIN|MTAW||||||FNUMBER ONE|MTWO|NHREE|MFOUR|MTEN|NWENTY|MONE HUNDRED|QTHOUSAND",
    "0PSALTER PAHLAVI LETTER ALEPH|GBETH|GGIMEL|GDALETH|GHE|GWAW-AYIN-RESH|GZAYIN|GHETH|GYODH|GKAPH",
    "GLAMEDH|GMEM-QOPH|GNUN|GSAMEKH|GPE|GSADHE|HHIN|GTAW||||||||@SECTION MARK|@TURNED SECTION MARK",
    "@FOUR DOTS WITH CROSS|ODOT"]),
  (0x10ba9, ["0PSALTER PAHLAVI NUMBER ONE|GTWO|HHREE|GFOUR|GTEN|HWENTY|GONE HUNDRED"]),
  (0x10c00, ["0OLD TURKIC LETTER ORKHON A|BYENISEI A|KE|BORKHON I|BYENISEI I|JE|BORKHON O|JE|BYENISEI OE",
    "BORKHON AB|BYENISEI AB|BORKHON AEB|BYENISEI AEB|BORKHON AG|BYENISEI AG|BORKHON AEG|BYENISEI AEG",
    "BORKHON AD|BYENISEI AD|BORKHON AED|IEZ|BYENISEI EZ|BORKHON AY|BYENISEI AY|BORKHON AEY|BYENISEI AEY",
    "BORKHON AEK|BYENISEI AEK|BORKHON OEK|BYENISEI OEK|BORKHON AL|BYENISEI AL|BORKHON AEL|IELT|JM|IAN|JEN",
    "BYENISEI AEN|BORKHON ENT|BYENISEI ENT|BORKHON ENC|BYENISEI ENC|BORKHON ENY|BYENISEI ENY|JANG",
    "BORKHON ENG|BYENISEI AENG|BORKHON EP|IOP|IIC|IEC|BYENISEI EC|BORKHON AQ|BYENISEI AQ|BORKHON IQ",
    "BYENISEI IQ|BORKHON OQ|BYENISEI OQ|BORKHON AR|BYENISEI AR|BORKHON AER|JS|JES|JSH|BYENISEI ASH",
    "BORKHON ESH|BYENISEI ESH|BORKHON AT|BYENISEI AT|BORKHON AET|BYENISEI AET|BORKHON OT|IBASH"]),
  (0x10c80, ["0OLD HUNGARIAN CAPITAL LETTER A|NA|MEB|MAMB|MEC|NNC|NCS|ND|MAND|ME|MCLOSE E|MEE|NF|NG|OY|NH|MI|NI",
    "MEJ|NK|MAK|MUNK|MEL|OY|NM|NN|OY|MO|NO|MNIKOLSBURG OE|MRUDIMENTA OE|MOEE|MEP|NMP|NR|MSHORT ER|MES|OZ",
    "NT|NNT|NTY|NCH|MU|NU|MNIKOLSBURG UE|MRUDIMENTA UE|MEV|NZ|OS|NNT-SHAPED SIGN|MUS"]),
  (0x10cc0, ["0OLD HUNGARIAN SMALL LETTER A|LA|KEB|KAMB|KEC|LNC|LCS|LD|KAND|KE|KCLOSE E|KEE|LF|LG|MY|LH|KI|LI|KEJ",
    "LK|KAK|KUNK|KEL|MY|LM|LN|MY|KO|LO|KNIKOLSBURG OE|KRUDIMENTA OE|KOEE|KEP|LMP|LR|KSHORT ER|KES|MZ|LT",
    "LNT|LTY|LCH|KU|LU|KNIKOLSBURG UE|KRUDIMENTA UE|KEV|LZ|MS|LNT-SHAPED SIGN|KUS||||||||>NUMBER ONE",
    "EFIVE|ETEN|EFIFTY|EONE HUNDRED|ITHOUSAND|0HANIFI ROHINGYA LETTER A|GBA|GPA|GTA|HTA|GJA|GCA|GHA|GKHA",
    "GFA|GDA|HDA|GRA|HRA|GZA|GSA|HHA|GKA|GGA|GLA|GMA|GNA|GWA|GKINNA WA|GYA|GKINNA YA|GNGA|HYA|GVA",
    "@VOWEL A|FI|FU|FE|FO|@MARK SAKIN|ENA KHONNA|@SIGN HARBAHAY|ETAHALA|GNA|GSSI"]),
  (0x10d30, ["0HANIFI ROHINGYA DIGIT ZERO|FONE|FTWO|GHREE|FFOUR|GIVE|FSIX|GEVEN|FEIGHT|FNINE"]),
  (0x10e60, ["0RUMI DIGIT ONE|;TWO|<HREE|;FOUR|<IVE|;SIX|<EVEN|;EIGHT|;NINE|5NUMBER TEN|=WENTY|=HIRTY|<FORTY|=IFTY",
    "<SIXTY|=EVENTY|<EIGHTY|<NINETY|<ONE HUNDRED|<TWO HUNDRED|=HREE HUNDRED|<FOUR HUNDRED|=IVE HUNDRED",
    "<SIX HUNDRED|=EVEN HUNDRED|<EIGHT HUNDRED|<NINE HUNDRED|5FRACTION ONE HALF|BQUARTER|BTHIRD",
    ">TWO THIRDS||0YEZIDI LETTER ELIF|>BE|>PE|?HE|>THE|>SE|>CIM|?HIM|@HIM|>HHA|>XA|>DAL|>ZAL|>RA|?HA|>ZA",
    ">JA|>SIN|?HIN|?AD|>DAD|>TA|>ZE|>EYN|>XHEYN|>FA|>VA|@ ALTERNATE FORM|>QAF|>KAF|?HAF|>GAF|>LAM|>MIM",
    ">NUN|>UM|>WAW|>OW|>EW|>HAY|>YOT|>ET||7COMBINING HAMZA MARK|AMADDA MARK|7HYPHENATION MARK||",
    "7LETTER LAM WITH DOT ABOVE|>YOT WITH CIRCUMFLEX ABOVE"]),
  (0x10f00, ["0OLD SOGDIAN LETTER ALEPH|CFINAL ALEPH|CBETH|CFINAL BETH|CGIMEL|CHE|CFINAL HE|CWAW|CZAYIN|CHETH",
    "CYODH|CKAPH|CLAMEDH|CMEM|CNUN|CFINAL NUN|L WITH VERTICAL TAIL|CSAMEKH|CAYIN|DLTERNATE AYIN|CPE",
    "CSADHE|CFINAL SADHE|N WITH VERTICAL TAIL|CRESH-AYIN-DALETH|CSHIN|CTAW|CFINAL TAW",
    "L WITH VERTICAL TAIL|<NUMBER ONE|CTWO|DHREE|CFOUR|DIVE|CTEN|DWENTY|DHIRTY|CONE HUNDRED",
    "<FRACTION ONE HALF|<LIGATURE AYIN-DALETH"]),
  (0x10f30, ["0SOGDIAN LETTER ALEPH|?BETH|?GIMEL|?HE|?WAW|?ZAYIN|?HETH|?YODH|?KAPH|?LAMEDH|?MEM|?NUN|?SAMEKH|?AYIN",
    "?PE|?SADHE|?RESH-AYIN|?SHIN|?TAW|?FETH|?LESH|8INDEPENDENT SHIN|8COMBINING DOT BELOW|BTWO DOTS BELOW",
    "BDOT ABOVE|BTWO DOTS ABOVE|BCURVE ABOVE|HBELOW|BHOOK ABOVE|GBELOW|BLONG HOOK BELOW|BRESH BELOW",
    "BSTROKE BELOW|8NUMBER ONE|?TEN|@WENTY|?ONE HUNDRED|8PUNCTUATION TWO VERTICAL BARS|U WITH DOTS",
    "DCIRCLE WITH DOT|DTWO CIRCLES WITH DOTS|DHALF CIRCLE WITH DOT"]),
  (0x10f70, ["0OLD UYGHUR LETTER ALEPH|BBETH|BGIMEL-HETH|BWAW|BZAYIN|BFINAL HETH|BYODH|BKAPH|BLAMEDH|BMEM|BNUN",
    "BSAMEKH|BPE|BSADHE|BRESH|BSHIN|BTAW|BLESH|;COMBINING DOT ABOVE|IBELOW|ETWO DOTS ABOVE|NBELOW",
    ";PUNCTUATION BAR|GTWO BARS|KDOTS|GFOUR DOTS"]),
  (0x10fb0, ["0CHORASMIAN LETTER ALEPH|BSMALL ALEPH|BBETH|BGIMEL|BDALETH|BHE|BWAW|BCURLED WAW|BZAYIN|BHETH|BYODH",
    "BKAPH|BLAMEDH|BMEM|BNUN|BSAMEKH|BAYIN|BPE|BRESH|BSHIN|BTAW|;NUMBER ONE|BTWO|CHREE|BFOUR|BTEN|CWENTY",
    "BONE HUNDRED"]),
  (0x10fe0, ["0ELYMAIC LETTER ALEPH|?BETH|?GIMEL|?DALETH|?HE|?WAW|?ZAYIN|?HETH|?TETH|?YODH|?KAPH|?LAMEDH|?MEM|?NUN",
    "?SAMEKH|?AYIN|?PE|?SADHE|?QOPH|?RESH|?SHIN|?TAW|9IGATURE ZAYIN-YODH"]),
  (0x11000, ["0BRAHMI SIGN CANDRABINDU|<ANUSVARA|<VISARGA|<JIHVAMULIYA|<UPADHMANIYA|7LETTER A|?A|>I|?I|>U|?U",
    ">VOCALIC R|GR|FL|GL|>E|>AI|>O|>AU|>KA|?HA|>GA|?HA|>NGA|>CA|?HA|>JA|?HA|>NYA|>TTA|@HA|>DDA|@HA|>NNA",
    ">TA|?HA|>DA|?HA|>NA|>PA|?HA|>BA|?HA|>MA|>YA|>RA|>LA|>VA|>SHA|?SA|?A|>HA|>LLA|>OLD TAMIL LLLA|HRRA",
    "HNNNA|7VOWEL SIGN AA|BBHATTIPROLU AA|BI|CI|BU|CU|BVOCALIC R|KR|JL|KL|BE|BAI|BO|BAU|8IRAMA|7DANDA",
    "8OUBLE DANDA|7PUNCTUATION DOT|EUBLE DOT|CLINE|CCRESCENT BAR|CLOTUS|||||7NUMBER ONE|>TWO|?HREE|>FOUR",
    "?IVE|>SIX|?EVEN|>EIGHT|>NINE|>TEN|?WENTY|?HIRTY|>FORTY|?IFTY|>SIXTY|?EVENTY|>EIGHTY|>NINETY",
    ">ONE HUNDRED|BTHOUSAND|7DIGIT ZERO|=ONE|=TWO|>HREE|=FOUR|>IVE|=SIX|>EVEN|=EIGHT|=NINE",
    "7SIGN OLD TAMIL VIRAMA|7LETTER OLD TAMIL SHORT E|NO|7VOWEL SIGN OLD TAMIL SHORT E|RO",
    "7LETTER OLD TAMIL LLA"]),
  (0x1107f, ["0BRAHMI NUMBER JOINER|0KAITHI SIGN CANDRABINDU|<ANUSVARA|<VISARGA|7LETTER A|?A|>I|?I|>U|?U|>E|>AI|>O",
    ">AU|>KA|?HA|>GA|?HA|>NGA|>CA|?HA|>JA|?HA|>NYA|>TTA|@HA|>DDA|@DHA|@HA|>RHA|>NNA|>TA|?HA|>DA|?HA|>NA",
    ">PA|?HA|>BA|?HA|>MA|>YA|>RA|>LA|>VA|>SHA|?SA|?A|>HA|7VOWEL SIGN AA|BI|CI|BU|CU|BE|BAI|BO|BAU",
    "7SIGN VIRAMA|<NUKTA|7ABBREVIATION SIGN|7ENUMERATION SIGN|7NUMBER SIGN|7SECTION MARK",
    "7DOUBLE SECTION MARK|8ANDA|8OUBLE DANDA|7VOWEL SIGN VOCALIC R"]),
  (0x110cd, ["0KAITHI NUMBER SIGN ABOVE|||0SORA SOMPENG LETTER SAH|DTAH|DBAH|DCAH|DDAH|DGAH|DMAH|DNGAH|DLAH|DNAH",
    "DVAH|DPAH|DYAH|DRAH|DHAH|DKAH|DJAH|DNYAH|DAH|DEEH|DIH|DUH|DOH|DEH|DMAE||||||||=DIGIT ZERO|CONE|CTWO",
    "DHREE|CFOUR|DIVE|CSIX|DEVEN|CEIGHT|CNINE|||||||0CHAKMA SIGN CANDRABINDU|<ANUSVARA|<VISARGA",
    "7LETTER AA|>I|>U|>E|>KAA|?HAA|>GAA|?HAA|>NGAA|>CAA|?HAA|>JAA|?HAA|>NYAA|>TTAA|@HAA|>DDAA|@HAA|>NNAA",
    ">TAA|?HAA|>DAA|?HAA|>NAA|>PAA|?HAA|>BAA|?HAA|>MAA|>YYAA|?AA|>RAA|>LAA|>WAA|>SAA|>HAA|7VOWEL SIGN A",
    "BI|CI|BU|CU|BE|BAI|BO|BAU|BOI|7O MARK|7AU MARK|7VIRAMA|7MAAYYAA||7DIGIT ZERO|=ONE|=TWO|>HREE|=FOUR",
    ">IVE|=SIX|>EVEN|=EIGHT|=NINE|7SECTION MARK|7DANDA|8OUBLE DANDA|7QUESTION MARK|7LETTER LHAA",
    "7VOWEL SIGN AA|BEI|7LETTER VAA"]),
  (0x11150, ["0MAHAJANI LETTER A|@I|@U|@E|@O|@KA|AHA|@GA|AHA|@CA|AHA|@JA|AHA|@NYA|@TTA|BHA|@DDA|BHA|@NNA|@TA|AHA",
    "@DA|AHA|@NA|@PA|AHA|@BA|AHA|@MA|@RA|@LA|@VA|@SA|@HA|@RRA|9SIGN NUKTA|9ABBREVIATION SIGN",
    "9SECTION MARK|9LIGATURE SHRI"]),
  (0x11180, ["0SHARADA SIGN CANDRABINDU|=ANUSVARA|=VISARGA|8LETTER A|@A|?I|@I|?U|@U|?VOCALIC R|HR|GL|HL|?E|?AI|?O",
    "?AU|?KA|@HA|?GA|@HA|?NGA|?CA|@HA|?JA|@HA|?NYA|?TTA|AHA|?DDA|AHA|?NNA|?TA|@HA|?DA|@HA|?NA|?PA|@HA|?BA",
    "@HA|?MA|?YA|?RA|?LA|@LA|?VA|?SHA|@SA|@A|?HA|8VOWEL SIGN AA|CI|DI|CU|DU|CVOCALIC R|LR|KL|LL|CE|CAI|CO",
    "CAU|8SIGN VIRAMA|=AVAGRAHA|=JIHVAMULIYA|=UPADHMANIYA|8OM|8DANDA|9OUBLE DANDA|8ABBREVIATION SIGN",
    "8SEPARATOR|9ANDHI MARK|9IGN NUKTA|8VOWEL MODIFIER MARK|8EXTRA SHORT VOWEL MARK|8SUTRA MARK",
    "8VOWEL SIGN PRISHTHAMATRA E|8SIGN INVERTED CANDRABINDU|8DIGIT ZERO|>ONE|>TWO|?HREE|>FOUR|?IVE|>SIX",
    "?EVEN|>EIGHT|>NINE|8EKAM|8SIGN SIDDHAM|8HEADSTROKE|8CONTINUATION SIGN|8SECTION MARK-1|E2|",
    "1INHALA ARCHAIC DIGIT ONE|FTWO|GHREE|FFOUR|GIVE|FSIX|GEVEN|FEIGHT|FNINE|@NUMBER TEN|HWENTY|HHIRTY",
    "GFORTY|HIFTY|GSIXTY|HEVENTY|GEIGHTY|GNINETY|GONE HUNDRED|KTHOUSAND"]),
  (0x11200, ["0KHOJKI LETTER A|?A|>I|>U|>E|>AI|>O|>AU|>KA|?HA|>GA|?GA|?HA|>NGA|>CA|?HA|>JA|?JA||>NYA|>TTA|@HA|>DDA",
    "@HA|>NNA|>TA|?HA|>DA|?DDA|?HA|>NA|>PA|?HA|>BA|?BA|?HA|>MA|>YA|>RA|>LA|>VA|>SA|>HA|>LLA",
    "7VOWEL SIGN AA|BI|CI|BU|BE|BAI|BO|BAU|7SIGN ANUSVARA|<VIRAMA|<NUKTA|<SHADDA|7DANDA|8OUBLE DANDA",
    "7WORD SEPARATOR|7SECTION MARK|7DOUBLE SECTION MARK|7ABBREVIATION SIGN|7SIGN SUKUN"]),
  (0x11280, ["0MULTANI LETTER A|?I|?U|?E|?KA|@HA|?GA||@HA||?CA|@HA|?JA|@JA||?NYA|?TTA|AHA|?DDA|ADA|AHA|?NNA|?TA",
    "@HA|?DA|@HA|?NA|?PA|@HA|?BA||@HA|?MA|?YA|?RA|?LA|?VA|?SA|?HA|?RRA|@HA|8SECTION MARK||||||",
    "0KHUDAWADI LETTER A|BA|AI|BI|AU|BU|AE|AAI|AO|AAU|AKA|BHA|AGA|BGA|BHA|ANGA|ACA|BHA|AJA|BJA|BHA|ANYA",
    "ATTA|CHA|ADDA|CDA|ARRA|ADDHA|ANNA|ATA|BHA|ADA|BHA|ANA|APA|BHA|ABA|BBA|BHA|AMA|AYA|ARA|ALA|AVA|ASHA",
    "BA|AHA|:SIGN ANUSVARA|:VOWEL SIGN AA|EI|FI|EU|FU|EE|EAI|EO|EAU|:SIGN NUKTA|?VIRAMA||||||:DIGIT ZERO",
    "@ONE|@TWO|AHREE|@FOUR|AIVE|@SIX|AEVEN|@EIGHT|@NINE|||||||0GRANTHA SIGN COMBINING ANUSVARA ABOVE",
    ">ANDRABINDU|=ANUSVARA|=VISARGA||8LETTER A|@A|?I|@I|?U|@U|?VOCALIC R|GL|||?EE|?AI|||?OO|?AU|?KA|@HA",
    "?GA|@HA|?NGA|?CA|@HA|?JA|@HA|?NYA|?TTA|AHA|?DDA|AHA|?NNA|?TA|@HA|?DA|@HA|?NA||?PA|@HA|?BA|@HA|?MA",
    "?YA|?RA||?LA|@LA||?VA|?SHA|@SA|@A|?HA||0COMBINING BINDU BELOW|0GRANTHA SIGN NUKTA|=AVAGRAHA",
    "8VOWEL SIGN AA|CI|DI|CU|DU|CVOCALIC R|LR|||CEE|CAI|||COO|CAU|8SIGN VIRAMA|||8OM||||||",
    "8AU LENGTH MARK||||||8SIGN PLUTA|8LETTER VEDIC ANUSVARA|EDOUBLE ANUSVARA|@OCALIC RR|GLL",
    "8VOWEL SIGN VOCALIC L|LL|||0COMBINING GRANTHA DIGIT ZERO|HONE|HTWO|IHREE|HFOUR|IIVE|HSIX|||",
    "BLETTER A|IKA|INA|IVI|IPA"]),
  (0x11400, ["0NEWA LETTER A|=A|<I|=I|<U|=U|<VOCALIC R|ER|DL|EL|<E|<AI|<O|<AU|<KA|=HA|<GA|=HA|<NGA|>HA|<CA|=HA|<JA",
    "=HA|<NYA|>HA|<TTA|>HA|<DDA|>HA|<NNA|<TA|=HA|<DA|=HA|<NA|=HA|<PA|=HA|<BA|=HA|<MA|=HA|<YA|<RA|=HA|<LA",
    "=HA|<WA|<SHA|=SA|=A|<HA|5VOWEL SIGN AA|@I|AI|@U|AU|@VOCALIC R|IR|HL|IL|@E|@AI|@O|@AU|5SIGN VIRAMA",
    ":CANDRABINDU|:ANUSVARA|:VISARGA|:NUKTA|:AVAGRAHA|:FINAL ANUSVARA|5OM|5SIDDHI|5DANDA|6OUBLE DANDA",
    "5COMMA|5GAP FILLER|5ABBREVIATION SIGN|5DIGIT ZERO|;ONE|;TWO|<HREE|;FOUR|<IVE|;SIX|<EVEN|;EIGHT|;NINE",
    "6OUBLE COMMA|5PLACEHOLDER MARK||5INSERTION SIGN|5SANDHI MARK|5LETTER VEDIC ANUSVARA",
    "5SIGN JIHVAMULIYA|:UPADHMANIYA"]),
  (0x11480, ["0TIRHUTA ANJI|8LETTER A|@A|?I|@I|?U|@U|?VOCALIC R|HR|GL|HL|?E|?AI|?O|?AU|?KA|@HA|?GA|@HA|?NGA|?CA",
    "@HA|?JA|@HA|?NYA|?TTA|AHA|?DDA|AHA|?NNA|?TA|@HA|?DA|@HA|?NA|?PA|@HA|?BA|@HA|?MA|?YA|?RA|?LA|?VA|?SHA",
    "@SA|@A|?HA|8VOWEL SIGN AA|CI|DI|CU|DU|CVOCALIC R|LR|KL|LL|CE|CSHORT E|CAI|CO|CSHORT O|CAU",
    "8SIGN CANDRABINDU|=ANUSVARA|=VISARGA|?RAMA|=NUKTA|=AVAGRAHA|8GVANG|8ABBREVIATION SIGN|8OM"]),
  (0x114d0, ["0TIRHUTA DIGIT ZERO|>ONE|>TWO|?HREE|>FOUR|?IVE|>SIX|?EVEN|>EIGHT|>NINE"]),
  (0x11580, ["0SIDDHAM LETTER A|@A|?I|@I|?U|@U|?VOCALIC R|HR|GL|HL|?E|?AI|?O|?AU|?KA|@HA|?GA|@HA|?NGA|?CA|@HA|?JA",
    "@HA|?NYA|?TTA|AHA|?DDA|AHA|?NNA|?TA|@HA|?DA|@HA|?NA|?PA|@HA|?BA|@HA|?MA|?YA|?RA|?LA|?VA|?SHA|@SA|@A",
    "?HA|8VOWEL SIGN AA|CI|DI|CU|DU|CVOCALIC R|LR|||CE|CAI|CO|CAU|8SIGN CANDRABINDU|=ANUSVARA|=VISARGA",
    "?RAMA|=NUKTA|=SIDDHAM|8DANDA|9OUBLE DANDA|8SEPARATOR DOT|BBAR|8REPETITION MARK-1|H2|H3",
    "8END OF TEXT MARK|8SECTION MARK WITH TRIDENT AND U-SHAPED ORNAMENTS|VDOTTED CRESCENTS",
    "JRAYS AND DOTTED CRESCENTS|ZDOUBLE CRESCENTS|ZTRIPLE CRESCENTS|EDOUBLE RING|P WITH RAYS",
    "EWITH DOUBLE CRESCENTS|JTRIPLE CRESCENTS|JQUADRUPLE CRESCENTS|JSEPTUPLE CRESCENTS|JCIRCLES AND RAYS",
    "VTWO ENCLOSURES|VFOUR ENCLOSURES|8LETTER THREE-CIRCLE ALTERNATE I|@WO-CIRCLE ALTERNATE I|UI",
    "?ALTERNATE U|8VOWEL SIGN ALTERNATE U|NU"]),
  (0x11600, ["0MODI LETTER A|=A|<I|=I|<U|=U|<VOCALIC R|ER|DL|EL|<E|<AI|<O|<AU|<KA|=HA|<GA|=HA|<NGA|<CA|=HA|<JA|=HA",
    "<NYA|<TTA|>HA|<DDA|>HA|<NNA|<TA|=HA|<DA|=HA|<NA|<PA|=HA|<BA|=HA|<MA|<YA|<RA|<LA|<VA|<SHA|=SA|=A|<HA",
    "<LLA|5VOWEL SIGN AA|@I|AI|@U|AU|@VOCALIC R|IR|HL|IL|@E|@AI|@O|@AU|5SIGN ANUSVARA|:VISARGA|<RAMA",
    ":ARDHACANDRA|5DANDA|6OUBLE DANDA|5ABBREVIATION SIGN|5SIGN HUVA"]),
  (0x11650, ["0MODI DIGIT ZERO|;ONE|;TWO|<HREE|;FOUR|<IVE|;SIX|<EVEN|;EIGHT|;NINE||||||",
    "2NGOLIAN BIRGA WITH ORNAMENT|:ROTATED BIRGA|:DOUBLE BIRGA WITH ORNAMENT|:TRIPLE BIRGA WITH ORNAMENT",
    ":BIRGA WITH DOUBLE ORNAMENT|:ROTATED BIRGA WITH ORNAMENT|MDOUBLE ORNAMENT|:INVERTED BIRGA",
    "H WITH DOUBLE ORNAMENT|:SWIRL BIRGA|E WITH ORNAMENT|KDOUBLE ORNAMENT",
    ":TURNED SWIRL BIRGA WITH DOUBLE ORNAMENT"]),
  (0x11680, ["0TAKRI LETTER A|>A|=I|>I|=U|>U|=E|=AI|=O|=AU|=KA|>HA|=GA|>HA|=NGA|=CA|>HA|=JA|>HA|=NYA|=TTA|?HA|=DDA",
    "?HA|=NNA|=TA|>HA|=DA|>HA|=NA|=PA|>HA|=BA|>HA|=MA|=YA|=RA|=LA|=VA|=SHA|>A|=HA|=RRA|6SIGN ANUSVARA",
    ";VISARGA|6VOWEL SIGN AA|AI|BI|AU|BU|AE|AAI|AO|AAU|6SIGN VIRAMA|;NUKTA|6LETTER ARCHAIC KHA",
    "6ABBREVIATION SIGN|||||||6DIGIT ZERO|<ONE|<TWO|=HREE|<FOUR|=IVE|<SIX|=EVEN|<EIGHT|<NINE"]),
  (0x11700, ["0AHOM LETTER KA|=HA|<NGA|=A|<TA|<ALTERNATE TA|<PA|=HA|<BA|<MA|<JA|<CHA|<THA|<RA|<LA|<SA|<NYA|<HA|<A",
    "<DA|=HA|<GA|<ALTERNATE GA|<GHA|<BHA|<JHA|<ALTERNATE BA|||5CONSONANT SIGN MEDIAL LA|KRA|KLIGATING RA",
    "5VOWEL SIGN A|AA|@I|AI|@U|AU|@E|@AW|@O|@AI|AM|5SIGN KILLER|||||5DIGIT ZERO|;ONE|;TWO|<HREE|;FOUR",
    "<IVE|;SIX|<EVEN|;EIGHT|;NINE|5NUMBER TEN|=WENTY|5SIGN SMALL SECTION|;ECTION|:RULAI|6YMBOL VI",
    "5LETTER CA|<TTA|>HA|<DDA|>HA|<NNA|<LLA"]),
  (0x11800, ["0DOGRA LETTER A|>A|=I|>I|=U|>U|=E|=AI|=O|=AU|=KA|>HA|=GA|>HA|=NGA|=CA|>HA|=JA|>HA|=NYA|=TTA|?HA|=DDA",
    "?HA|=NNA|=TA|>HA|=DA|>HA|=NA|=PA|>HA|=BA|>HA|=MA|=YA|=RA|=LA|=VA|=SHA|>SA|>A|=HA|=RRA|6VOWEL SIGN AA",
    "AI|BI|AU|BU|AVOCALIC R|JR|AE|AAI|AO|AAU|6SIGN ANUSVARA|;VISARGA|=RAMA|;NUKTA|6ABBREVIATION SIGN"]),
  (0x118a0, ["0WARANG CITI CAPITAL LETTER NGAA|KA|KWI|KYU|LA|LO|KII|KUU|KE|KO|KANG|KGA|KKO|KENY|KYUJ|KUC|KENN|KODD",
    "KTTE|KNUNG|KDA|KAT|LM|KBU|KPU|KHIYO|LOLO|MRR|LAR|KSSUU|LII|KVIYO|<SMALL LETTER NGAA|IA|IWI|IYU|JA|JO",
    "III|IUU|IE|IO|IANG|IGA|IKO|IENY|IYUJ|IUC|IENN|IODD|ITTE|INUNG|IDA|IAT|JM|IBU|IPU|IHIYO|JOLO|KRR|JAR",
    "ISSUU|JII|IVIYO|<DIGIT ZERO|BONE|BTWO|CHREE|BFOUR|CIVE|BSIX|CEVEN|BEIGHT|BNINE|<NUMBER TEN|DWENTY",
    "DHIRTY|CFORTY|DIFTY|CSIXTY|DEVENTY|CEIGHTY|CNINETY"]),
  (0x118ff, ["0WARANG CITI OM|0DIVES AKURU LETTER A|DA|CI|DI|CU|DU|CE|||CO|||CKA|DHA|CGA|DHA|CNGA|CCA|DHA|CJA|",
    "CNYA|CTTA||CDDA|EHA|CNNA|CTA|DHA|CDA|DHA|CNA|CPA|DHA|CBA|DHA|CMA|CYA|DYA|CRA|CLA|CVA|CSHA|DSA|DA|CHA",
    "CLLA|CZA|<VOWEL SIGN AA|GI|HI|GU|HU|GE||GAI|GO|||<SIGN ANUSVARA|ACANDRABINDU|AHALANTA|<VIRAMA",
    "<PREFIXED NASAL SIGN|<MEDIAL YA|<INITIAL RA|<MEDIAL RA|<SIGN NUKTA|<DOUBLE DANDA|<GAP FILLER",
    "<END OF TEXT MARK"]),
  (0x11950, ["0DIVES AKURU DIGIT ZERO|BONE|BTWO|CHREE|BFOUR|CIVE|BSIX|CEVEN|BEIGHT|BNINE"]),
  (0x119a0, ["0NANDINAGARI LETTER A|DA|CI|DI|CU|DU|CVOCALIC R|LR|||CE|CAI|CO|CAU|CKA|DHA|CGA|DHA|CNGA|CCA|DHA|CJA",
    "DHA|CNYA|CTTA|EHA|CDDA|EHA|CNNA|CTA|DHA|CDA|DHA|CNA|CPA|DHA|CBA|DHA|CMA|CYA|CRA|CLA|CVA|CSHA|DSA|DA",
    "CHA|CLLA|CRRA|<VOWEL SIGN AA|GI|HI|GU|HU|GVOCALIC R|PR|||GE|GAI|GO|GAU|<SIGN ANUSVARA|AVISARGA|CRAMA",
    "AAVAGRAHA|ASIDDHAM|<HEADSTROKE|<VOWEL SIGN PRISHTHAMATRA E"]),
  (0x11a00, ["0ZANABAZAR SQUARE LETTER A|AVOWEL SIGN I|LUE|LU|LE|LOE|LO|LAI|MU|LREVERSED I|GLENGTH MARK|ALETTER KA",
    "IHA|HGA|IHA|HNGA|HCA|IHA|HJA|HNYA|HTTA|JHA|HDDA|JHA|HNNA|HTA|IHA|HDA|IHA|HNA|HPA|IHA|HBA|IHA|HMA",
    "HTSA|JHA|HDZA|JHA|HZHA|IA|H-A|HYA|HRA|HLA|HVA|HSHA|ISA|IA|HHA|HKSSA|AFINAL CONSONANT MARK",
    "ASIGN VIRAMA|FCANDRABINDU|Q WITH ORNAMENT|L WITH ORNAMENT|FANUSVARA|FVISARGA",
    "ACLUSTER-INITIAL LETTER RA|IFINAL LETTER YA|VRA|VLA|VVA|AINITIAL HEAD MARK|ACLOSING HEAD MARK",
    "AMARK TSHEG|FSHAD|FDOUBLE SHAD|FLONG TSHEG|AINITIAL DOUBLE-LINED HEAD MARK",
    "ACLOSING DOUBLE-LINED HEAD MARK|ASUBJOINER"]),
  (0x11a50, ["0SOYOMBO LETTER A|8VOWEL SIGN I|CUE|CU|CE|CO|DE|CAI|DU|CVOCALIC R|KL|>LENGTH MARK|8LETTER KA|@HA|?GA",
    "@HA|?NGA|?CA|@HA|?JA|@HA|?NYA|?TTA|AHA|?DDA|AHA|?NNA|?TA|@HA|?DA|@HA|?NA|?PA|@HA|?BA|@HA|?MA|?TSA",
    "AHA|?DZA|?ZHA|@A|?-A|?YA|?RA|?LA|?VA|?SHA|@SA|@A|?HA|?KSSA|8SIGN JIHVAMULIYA|=UPADHMANIYA",
    "8CLUSTER-INITIAL LETTER RA|OLA|OSHA|PA|8FINAL CONSONANT SIGN G|MK|MNG|MD|MN|MB|MM|MR|ML|MSH|MS|M-A",
    "8SIGN ANUSVARA|=VISARGA|8GEMINATION MARK|8SUBJOINER|8MARK TSHEG|=SHAD|=DOUBLE SHAD|=PLUTA",
    "8HEAD MARK WITH MOON AND SUN AND TRIPLE FLAME|XFLAME|RN|8TERMINAL MARK-1|F2"]),
  (0x11ab0, ["0CANADIAN SYLLABICS NATTILIK HI|NI|MO|NO|MA|NA|LSHRI|PI|OO|PO|OA|PA|CSPE|EI|EO|EA",
    "0PAU CIN HAU LETTER PA|CKA|CLA|CMA|CDA|CZA|CVA|CNGA|CHA|CGA|CKHA|CSA|CBA|CCA|CTA|DHA|CNA|CPHA|CRA",
    "CFA|CCHA|CA|CE|CI|CO|CU|DA|CIA|CFINAL P|IK|IT|IM|IN|IL|IW|ING|IY|<RISING TONE LONG|FE",
    "<SANDHI GLOTTAL STOP|<RISING TONE LONG FINAL|HFINAL|<SANDHI GLOTTAL STOP FINAL|CTONE LONG|FE",
    "G LONG FINAL|HFINAL|<MID-LEVEL TONE|<GLOTTAL STOP VARIANT|<MID-LEVEL TONE LONG FINAL|KFINAL",
    "<LOW-FALLING TONE LONG|KE|<GLOTTAL STOP|<LOW-FALLING TONE LONG FINAL|MFINAL|<GLOTTAL STOP FINAL"]),
  (0x11c00, ["0BHAIKSUKI LETTER A|BA|AI|BI|AU|BU|AVOCALIC R|JR|IL||AE|AAI|AO|AAU|AKA|BHA|AGA|BHA|ANGA|ACA|BHA|AJA",
    "BHA|ANYA|ATTA|CHA|ADDA|CHA|ANNA|ATA|BHA|ADA|BHA|ANA|APA|BHA|ABA|BHA|AMA|AYA|ARA|ALA|AVA|ASHA|BSA|BA",
    "AHA|:VOWEL SIGN AA|EI|FI|EU|FU|EVOCALIC R|NR|ML||EE|EAI|EO|EAU|:SIGN CANDRABINDU|?ANUSVARA|?VISARGA",
    "ARAMA|?AVAGRAHA|:DANDA|;OUBLE DANDA|:WORD SEPARATOR|:GAP FILLER-1|E2"]),
  (0x11c50, ["0BHAIKSUKI DIGIT ZERO|@ONE|@TWO|AHREE|@FOUR|AIVE|@SIX|AEVEN|@EIGHT|@NINE|:NUMBER ONE|ATWO|BHREE",
    "AFOUR|BIVE|ASIX|BEVEN|AEIGHT|ANINE|ATEN|BWENTY|BHIRTY|AFORTY|BIFTY|ASIXTY|BEVENTY|AEIGHTY|ANINETY",
    ":HUNDREDS UNIT MARK||||0MARCHEN HEAD MARK|8MARK SHAD|8LETTER KA|@HA|?GA|?NGA|?CA|@HA|?JA|?NYA|?TA",
    "@HA|?DA|?NA|?PA|@HA|?BA|?MA|?TSA|AHA|?DZA|?WA|?ZHA|@A|?-A|?YA|?RA|?LA|?SHA|@A|?HA|?A||",
    "8SUBJOINED LETTER KA|JHA|IGA|INGA|ICA|JHA|IJA|INYA|ITA|JHA|IDA|INA|IPA|JHA|IBA|IMA|ITSA|KHA|IDZA|IWA",
    "IZHA|JA||IYA|IRA|ILA|ISHA|JA|IHA|IA|8VOWEL SIGN AA|CI|CU|CE|CO|8SIGN ANUSVARA|=CANDRABINDU"]),
  (0x11d00, ["0MASARAM GONDI LETTER A|FA|EI|FI|EU|FU|EE||EAI|EO||EAU|EKA|FHA|EGA|FHA|ENGA|ECA|FHA|EJA|FHA|ENYA",
    "ETTA|GHA|EDDA|GHA|ENNA|ETA|FHA|EDA|FHA|ENA|EPA|FHA|EBA|FHA|EMA|EYA|ERA|ELA|EVA|ESHA|FSA|FA|EHA|ELLA",
    "EKSSA|EJNYA|ETRA|>VOWEL SIGN AA|II|JI|IU|JU|IVOCALIC R||||IE||IAI|IO||IAU|>SIGN ANUSVARA|CVISARGA",
    "CNUKTA|CCANDRA|CHALANTA|>VIRAMA|>REPHA|?A-KARA"]),
  (0x11d50, ["0MASARAM GONDI DIGIT ZERO|DONE|DTWO|EHREE|DFOUR|EIVE|DSIX|EEVEN|DEIGHT|DNINE||||||",
    "0GUNJALA GONDI LETTER A|FA|EI|FI|EU|FU||EEE|EAI||EOO|EAU|EYA|EVA|EBA|FHA|EMA|EKA|FHA|ETA|FHA|ELA|EGA",
    "FHA|EDA|FHA|ENA|ECA|FHA|ETTA|GHA|ELLA|EJA|FHA|EDDA|GHA|ENGA|EPA|FHA|EHA|ERA|ESA|>VOWEL SIGN AA|II|JI",
    "IU|JU||IEE|IAI||IOO|IAU|>SIGN ANUSVARA|CVISARGA|>VIRAMA|>OM||||||||>DIGIT ZERO|DONE|DTWO|EHREE|DFOUR",
    "EIVE|DSIX|EEVEN|DEIGHT|DNINE"]),
  (0x11ee0, ["0MAKASAR LETTER KA|?GA|?NGA|?PA|?BA|?MA|?TA|?DA|?NA|?CA|?JA|?NYA|?YA|?RA|?LA|?VA|?SA|?A|8ANGKA",
    "8VOWEL SIGN I|CU|CE|CO|8PASSIMBANG|8END OF SECTION"]),
  (0x11fb0, ["0LISU LETTER YHA"]),
  (0x11fc0, ["0TAMIL FRACTION ONE THREE-HUNDRED-AND-TWENTIETH|CONE-HUNDRED-AND-SIXTIETH|CEIGHTIETH|CSIXTY-FOURTH",
    "CFORTIETH|CTHIRTY-SECOND|?THREE EIGHTIETHS|ESIXTY-FOURTHS|?ONE TWENTIETH|CSIXTEENTH-1|M2|CTENTH",
    "CEIGHTH|?THREE TWENTIETHS|ESIXTEENTHS|?ONE FIFTH|CQUARTER|CHALF-1|H2|?THREE QUARTERS",
    "?DOWNSCALING FACTOR KIIZH|6SIGN NEL|;CEVITU|;AAZHAAKKU|;UZHAKKU|;MUUVUZHAKKU|;KURUNI|;PATHAKKU",
    ";MUKKURUNI|;KAACU|;PANAM|<ON|;VARAAKAN|;PAARAM|;KUZHI|;VELI|6WET CULTIVATION SIGN",
    "6DRY CULTIVATION SIGN|6LAND SIGN|6SALT PAN SIGN|6TRADITIONAL CREDIT SIGN|BNUMBER SIGN|6CURRENT SIGN",
    "6AND ODD SIGN|6SPENT SIGN|6TOTAL SIGN|6IN POSSESSION SIGN|6STARTING FROM SIGN|7IGN MUTHALIYA",
    ";VAKAIYARAA"]),
  (0x11fff, ["0TAMIL PUNCTUATION END OF TEXT"])]

end AccessorForge.Text.CharName.Historic

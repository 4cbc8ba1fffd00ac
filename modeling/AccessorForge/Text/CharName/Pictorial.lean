/-! Names of characters: cuneiform, hieroglyphs and related scripts. -/
namespace AccessorForge.Text.CharName.Pictorial

def runs : List (Nat × List String) := [
  (0x12000, ["0CUNEIFORM SIGN A|@ TIMES A|GBAD|GGAN2 TENU|GHA|GIGI|GLAGAR GUNU|GMUSH|GSAG|@2|@B|A TIMES ASH2",
    "HDUN3 GUNU|HGAL|JN2 TENU|HHA|HIGI GUNU|IMIN|HLAGAB|HSHESH|HU PLUS U PLUS U|BGUNU|A2|B TIMES BALAG",
    "IGAN2 TENU|IME PLUS EN|ISHA3|ITAK4|@D|@K|A TIMES ERIN2|HSHITA PLUS GISH|@L|A TIMES AL|HDIM2|HGISH",
    "HHA|HKAD3|II|HSHE|HUSH|AAN|AEPH|@MAR|C TIMES SHE|@N|A OVER AN|BTHREE TIMES",
    "BPLUS NAGA OPPOSING AN PLUS NAGA|LSQUARED|ASHE|@PIN|@RAD|C TIMES KUR|AKAB|@SAL2|AH|B ZIDA TENU",
    "CKABA TENU|COVER ASH TUG2 OVER TUG2 TUG2 OVER TUG2 PAP|LOVER ASH|T CROSSING ASH OVER ASH OVER ASH|B2",
    "BGAB|?BA|AD|AG3|AHAR2|AL|B OVER BAL|BAG|AR|BA2|@I|A TIMES A|HGAR|HIGI GUNU|@U|A OVER BU AB|JUN",
    "BCROSSING BU|ALUG|D OVER BULUG|AR|B2|?DA|AG|B KISIM5 TIMES A PLUS MASH|QMAR|PBALAG|QI|PGA",
    "R PLUS MASH|QI|RR2|QUD|PHA|PIR|R PLUS LU|PKAK|PLA|QU|R PLUS MASH2|RM|PNE|PPAP PLUS PAP|PSI|PTAK4",
    "PU2 PLUS GIR2|QSH|AM|AR|BA3|C4|@I|AB|AM|B TIMES SHE|B2|AN|B KASKAL U GUNU DISH|ASH|@U|A OVER DU",
    "BGUNU|BSHESHIG|AB|B TIMES ESH2|B2|AG|BUD|AH|AN|B3|C GUNU|H GUNU|B4|AR2|?E|@ TIMES PAP",
    "AOVER E NUN OVER NUN|@2|A TIMES A PLUS HA PLUS DA|HGAR|HMI|HSAL|IHE|HU|@DIN|@GIR|@L|@N|A TIMES GAN2",
    "L TENU|HME|BCROSSING EN|BOPPOSING EN|BSQUARED|@REN|AIN2|@SH2|@ZEN|C TIMES A|K PLUS LAL|T TIMES LAL",
    "KN|JBAD|JDUN3 GUNU|S GUNU|JHA|L GUNU|JIGI GUNU|JKASKAL|P SQUARED|KU3|JLA|LL TIMES LAL|KI|KU|JU2|KD",
    "?GA|A GUNU|A2|B TIMES A PLUS DA PLUS HA|PHA|PIGI|JB2 TENU PLUS TAB|JN|JSH|L2 PLUS GAL|IBAD",
    "KR PLUS RA|JUR|L PLUS RA|IDA|JI|KM TIMES SHE|JUB|IEL|K PLUS LA|JN|K TIMES GAN2 TENU|IGAN2 TENU|KR|JI",
    "K4|L PLUS A|KR2 PLUS SU|IHA PLUS LU PLUS ESH2|KL|L PLUS LA|JI PLUS LI|JUB2|IIGI GUNU",
    "JSH PLUS HU PLUS ASH|IKAK|KSKAL|JID|L PLUS LAL|JU3 PLUS AN|ILA|IME PLUS EN|JI|INUN|L OVER NUN|IPA",
    "ISAL|KR|JHE|L PLUS TUR|KID|JUM|ITAK4|IU|JD|K PLUS DU|COVER GA2|ABA|C CROSSING GABA|AD",
    "B OVER GAD GAR OVER GAR|AL|B GAD OVER GAD GAR OVER GAR|BAM|AM|AN|B2|C TENU|DOVER GAN2|DCROSSING GAN2",
    "AR|B3|ASHAN|@ESHTIN|F TIMES KUR|@I|A TIMES E|HU|BCROSSING GI|A4|B OVER GI4|CCROSSING GI4|ADIM|AR2",
    "C GUNU|B3|C TIMES A PLUS IGI|JGAN2 TENU|JIGI|JLU PLUS IGI|JPA|ASAL|BH|C CROSSING GISH|DTIMES BAD",
    "JTAK4|EENU|@U|A CROSSING GU|A2|B TIMES KAK|L TIMES IGI GUNU|INUN|ISAL PLUS TUG2|CGUNU|AD",
    "B TIMES A PLUS KUR|IKUR|COVER GUD LUGAL|AL|AM|B TIMES SHE|AR|B7|BUN|CSH|?HA|A TENU|BGUNU|AL|@I",
    "A TIMES ASH|K2|HBAD|HDISH|HGAD|HKIN|HNUN|HSHE|HU|@U|AB2|C TIMES AN|JHAL|JKASKAL|JLISH|JUD|AL2|?I|@ A",
    "@B|@DIM|C OVER IDIM BUR|NSQUARED|@G|AI|B DIB|CRI|COVER IGI SHIR OVER SHIR UD OVER UD|CGUNU|@L",
    "A TIMES GAN2 TENU|A2|@M|A TIMES TAK4|BCROSSING IM|BOPPOSING IM|BSQUARED|AIN|@N|@R|@SH|?KA|A TIMES A",
    "ID|J PLUS KU3|ISH2|HBAD|JLAG|JR|II|HERIN2|ISH2|HGA|JL|JN2 TENU|JR|K PLUS SHA3 PLUS A|II|JR2",
    "JSH PLUS SAR|MCROSSING GISH|IU|JR7|HIGI|IM|HKAK|II|JD|HLI|IU|HME|J PLUS DU|PGI|PTE|II|J PLUS NUNUZ",
    "HNE|IUN|HPI|HRU|HSA|JR|IHA|JE|JID|JU|IIG|IUHUR|HTAR|HU|I2|ID|IMUM TIMES PA|ISH|HZI|A2|B CROSSING KA2",
    "AB|AD2|B3|B4|B5|C OVER KAD5|AK|B TIMES IGI GUNU|AL|B TIMES BAD|CCROSSING KAL|AM2|B4|ASKAL",
    "E LAGAB TIMES U OVER LAGAB TIMES U|FOVER KASKAL LAGAB TIMES U OVER LAGAB TIMES U|@ESH2|@I",
    "A TIMES BAD|HU|ID|AD|AN|ASAL|BH|BIM5|E OVER KISIM5|@U|A OVER HI TIMES ASH2 KU OVER HI TIMES ASH2|A3",
    "A4|B VARIANT FORM|A7|AL|B GUNU|AN|AR|B OPPOSING KUR|ASHU2|@WU318|?LA|AGAB|D TIMES A",
    "L PLUS DA PLUS HA|RGAR|RLAL|LL|LN|LSH ZIDA TENU|KBAD|LI|KDAR|KEN|KGA|MR|LUD|N PLUS GUD|KHA|ML",
    "LI TIMES NUN|KIGI GUNU|LM|M PLUS HA|SLU|KKI|MN|LU3|ML|N PLUS HI PLUS A|KLAGAB|LISH|LU|ML|KME",
    "M PLUS EN|LUSH|KNE|KSHE PLUS SUM|MITA PLUS GISH PLUS ERIN2|[TENU|MU2|O PLUS SHU2|LUM|KTAG|MK4",
    "LE PLUS A PLUS SU PLUS NA|KU|L PLUS A|RU PLUS U|L2 PLUS ASH|LD|LSH|ESQUARED|CR|D TIMES SHE",
    "N PLUS SUM|EGUNU|I OVER LAGAR GUNU SHE|AHSHU|AL|B TIMES LAL|AM|B TIMES KUR|L PLUS RU|@I|AL|AMMU2|ASH",
    "@U|A TIMES BAD|A2|B TIMES AL|IBAD|IESH2|M TENU|IGAN2 TENU|IHI TIMES BAD|IIM|IKAD2|L3|M PLUS ASH|JI",
    "ILA PLUS ASH|KGAB|IME PLUS EN|INE|JU|ISI PLUS ASH|KK2 PLUS BU|ITUG2|DENU|CCROSSING LU2|COPPOSING LU2",
    "CSQUARED|DHESHIG|A3|AGAL|D OVER LUGAL|FPPOSING LUGAL|ESHESHIG|AH|AL|AM|B OVER LUM|K GAR OVER GAR|?MA",
    "A TIMES TAK4|BGUNU|A2|AH|AR|ASH|C2|@E|AS|@I|AN|@U|A OVER MU|AG|B GUNU|ANSUB|ARGU2|ASH|C TIMES A|JKUR",
    "JZA|DOVER MUSH|M TIMES A PLUS NA|DCROSSING MUSH|C3|D TIMES A|L PLUS DI|KDI|EGUNU|?NA|A2|AGA",
    "C INVERTED|DTIMES SHU TENU|DOPPOSING NAGA|CR|AM NUTILLU|AM|B2|@E|A TIMES A|HUD|BSHESHIG|@I|A TIMES E",
    "A2|AM|B TIMES GAN2 TENU|KR PLUS GAN2 TENU|ANDA2|E TIMES AN|MSH|O PLUS ASH|LGUD|LME PLUS GAN2 TENU",
    "LNE|MUN|LSHE|O PLUS A AN|VSH|X PLUS ASH|LU2 PLUS ASH|MSH|ASAG|@U|A11|AN|B LAGAR TIMES GAR|OMASH|OSAL",
    "R OVER NUN LAGAR TIMES SAL|OUSH|CTENU|COVER NUN|CCROSSING NUN|O LAGAR OVER LAGAR|BUZ",
    "D AB2 TIMES ASHGAB|OBI|ODUG|OGUD|OIGI GUNU|OKAD3|OLA|ONE|OSILA3|OU2|EKISIM5 TIMES BI|T U|?PA|AD|AN",
    "AP|@ESH2|@I|A TIMES A|IB|HBI|IU|HE|HI|IB|HU|I2|BCROSSING PI|ARIG|D TIMES KAL|KUD|KZA|EOPPOSING PIRIG",
    "?RA|AB|@I|@U|?SA|AG NUTILLU|AG|B TIMES A|IDU|KB|IHA|IKAK|JUR|ILUM|IMI|INUN|ISAL|JHID|ITAB|IU2|JB|JM",
    "JR|JSH|COVER SAG|CGUNU|AL|B LAGAB TIMES ASH2|ANGA2|AR|@HA|B3|C TIMES A|JBAD|JGISH|JNE|JSHU2|JTUR|JU",
    "K PLUS A|B6|BB6|BR2|AE|B HU|COVER SHE GAD OVER GAD GAR OVER GAR|LTAB OVER TAB GAR OVER GAR|BG9|BN",
    "BSH|D2|DLAM|AID|C TIMES A|JIM|BM|C TIMES A|JBAL|KULUG|JDIN|JGAR|JIGI|M GUNU|JKUSHU2|JLUL|JMUG|JSAL",
    "BNIG|BR|C TENU|DOVER SHIR BUR OVER BUR|BTA|AU|B OVER INVERTED SHU|B2|BBUR|@I|A GUNU|AG|B4",
    "C OVER SIG4 SHU2|AK2|ALA3|@U|A OVER SU|AD|B2|AHUR|AM|BASH|AR|B9|?TA|A ASTERISK|BTIMES HI|HMI|BGUNU",
    "AB|B OVER TAB NI OVER NI DISH OVER DISH|CSQUARED|AG|B TIMES BI|IGUD|ISHE|KU|ITUG2|IUD|AK4|AR|@E",
    "A GUNU|@I|A TENU|AL|AR|B TIMES TAK4|COVER TIR|K GAD OVER GAD GAR OVER GAR|@U|AG2|AK|AM|AR",
    "B OVER TUR ZA OVER ZA|?U|@ GUD|AU U|AOVER U PA OVER PA GAR OVER GAR|HSUR OVER SUR",
    "HU REVERSED OVER U REVERSED|@2|@B|@D|A KUSHU2|BTIMES BAD|HMI|HU PLUS U PLUS U|W GUNU|BGUNU|BSHESHIG",
    "I TIMES BAD|AUG|@M|A TIMES LAGAB|HME PLUS DA|HSHA3|HU|ABIN|AUM|C TIMES KASKAL|JPA|@N|A GUNU|@R",
    "A CROSSING UR|BSHESHIG|A2|B TIMES A PLUS HA|PNA|JL|IHA|INUN|IU2|K PLUS ASH|QBI|A4|AI|B3|AU|B TIMES A",
    "JSHGAB|IBAR|IDUN|IGA|KL|KN2 TENU|KR|JU|IHA|IIGI|JM|JSH|IKI|ILUM|IMIN|IPA|ISHE|JIG4|ITU|IU PLUS GUD",
    "JD|JRUDA|BDA|D TIMES U|@SH|B TIMES A|IKU|KR|ITAK4|BX|B2|BUMX|@TUKI|@Z3|B TIMES KASKAL|AU|?ZA|A TENU",
    "BSQUARED TIMES KUR|AG|AMX|@E2|@I|A OVER ZI|A3|AB|B KABA TENU|AG|AZ2|@U|A5|B TIMES A|ABUR|AM",
    "?KAP ELAMITE|?AB TIMES NUN|A2 TIMES A|@MAR TIMES KUG|?DAG KISIM5 TIMES U2 PLUS MASH|B3|@ISH PLUS SHU",
    "@UB TIMES SHE|?EZEN TIMES GUD|JSHE|?GA2 TIMES AN PLUS KAK PLUS A|JSH2|@E22|@IG|?HUSH|?KA TIMES ANSHE",
    "ISH3|HGISH|IUD|HHI TIMES ASH2|HLUM|HPA|HSHUL|HTU|HUR2|?LAGAB TIMES GI|@U2 SHESHIG TIMES BAD",
    "CTIMES ESH2 PLUS LAL|ISHU|?MESH|@USH3 TIMES ZA|?NA4|@IN|B9|BDA2 TIMES BAL|LGI",
    "@U11 ROTATED NINETY DEGREES|?PESH2 ASTERISK|@IR2|?SAG TIMES IGI GUNU|?TI2|?UM TIMES ME|@ U"]),
  (0x12400, ["0CUNEIFORM NUMERIC SIGN TWO ASH|HHREE ASH|GFOUR ASH|HIVE ASH|GSIX ASH|HEVEN ASH|GEIGHT ASH|GNINE ASH",
    "GTHREE DISH|GFOUR DISH|HIVE DISH|GSIX DISH|HEVEN DISH|GEIGHT DISH|GNINE DISH|GFOUR U|HIVE U|GSIX U",
    "HEVEN U|GEIGHT U|GNINE U|GONE GESH2|GTWO GESH2|HHREE GESH2|GFOUR GESH2|HIVE GESH2|GSIX GESH2",
    "HEVEN GESH2|GEIGHT GESH2|GNINE GESH2|GONE GESHU|GTWO GESHU|HHREE GESHU|GFOUR GESHU|HIVE GESHU",
    "GTWO SHAR2|HHREE SHAR2|R VARIANT FORM|GFOUR SHAR2|HIVE SHAR2|GSIX SHAR2|HEVEN SHAR2|GEIGHT SHAR2",
    "GNINE SHAR2|GONE SHARU|GTWO SHARU|HHREE SHARU|R VARIANT FORM|GFOUR SHARU|HIVE SHARU",
    "GSHAR2 TIMES GAL PLUS DISH|[ MIN|GONE BURU|GTWO BURU|HHREE BURU|Q VARIANT FORM|GFOUR BURU|HIVE BURU",
    "GTHREE VARIANT FORM ESH16|]21|GFOUR VARIANT FORM LIMMU|^4|^ A|_B|GSIX VARIANT FORM ASH9",
    "HEVEN VARIANT FORM IMIN3|^ A|_B|GEIGHT VARIANT FORM USSU|^3|GNINE VARIANT FORM ILIMMU|_3|_4|_ A",
    "GTWO ASH TENU|HHREE ASH TENU|GFOUR ASH TENU|HIVE ASH TENU|GSIX ASH TENU|GONE BAN2|GTWO BAN2",
    "HHREE BAN2|GFOUR BAN2|P VARIANT FORM|HIVE BAN2|P VARIANT FORM|GNIGIDAMIN|MESH|GONE ESHE3|GTWO ESHE3",
    "GONE THIRD DISH|GTWO THIRDS DISH|GFIVE SIXTHS DISH|GONE THIRD VARIANT FORM A",
    "GTWO THIRDS VARIANT FORM A|GONE EIGHTH ASH|KQUARTER ASH|HLD ASSYRIAN ONE SIXTH|XQUARTER",
    "HNE QUARTER GUR|KHALF GUR|GELAMITE ONE THIRD|OTWO THIRDS|OFORTY|PIFTY|GFOUR U VARIANT FORM",
    "HIVE U VARIANT FORM|GSIX U VARIANT FORM|HEVEN U VARIANT FORM|GEIGHT U VARIANT FORM",
    "GNINE U VARIANT FORM||:PUNCTUATION SIGN OLD ASSYRIAN WORD DIVIDER|KVERTICAL COLON|KDIAGONAL COLON",
    "TTRICOLON|TQUADCOLON"]),
  (0x12480, ["0CUNEIFORM SIGN AB TIMES NUN TENU|HSHU2|@D TIMES ESH2|?BAD TIMES DISH TENU|AHAR2 TIMES AB2|LNI|LZA",
    "@U OVER BU TIMES NA2|?DA TIMES TAK4|AG TIMES KUR|@IM TIMES IGI|IU U U|B2 TIMES UD|@UG TIMES ANSHE",
    "JSH|L AT LEFT|IDIN|JUN|IERIN2|IGA|JI|KR2 GUNU|KSH|IHA|JI|IIGI GUNU|IKASKAL|JUR|KSHU2|O PLUS KASKAL",
    "ILAK-020|KM|L TIMES KUR|JUH PLUS GISH|IMASH|JES|JI|INI|IPI|ISHE|JI GUNU|?E2 TIMES KUR|HPAP|@RIN2 X",
    "@SH2 CROSSING ESH2|@ZEN SHESHIG TIMES ASH|RHI|RIGI GUNU|RLA|TL|RME|TS|RSU|DTIMES SU",
    "?GA2 TIMES BAHAR2|IDIM GUNU|JUG TIMES IGI GUNU|SKASKAL|IEREN|IGA|KR PLUS DI|RNE|IHA PLUS A",
    "IKUSHU2 PLUS KASKAL|ILAM|L TIMES KUR|JUH|IMUSH|INE|K PLUS E2|QGI|ISHIM|IZIZ2",
    "ABA ROTATED NINETY DEGREES|@ESHTIN TIMES U|@ISH TIMES GISH CROSSING GISH|@U2 TIMES IGI GUNU",
    "AD PLUS GISH TIMES TAK4|?HA TENU GUNU|@I TIMES ASH OVER HI TIMES ASH|?KA TIMES BU|HKA|HU U U|IR",
    "?LAGAB TIMES ZU OVER ZU|AK-003|D21|E5|D30|D50|E1|D62|D79 OVER LAK-079 GUNU|D80|E1 OVER LAK-081|D92",
    "C130|D42|C210|E9|D20|E5|E8|D38|D65|E6|C343|E7|E8|D83|E4|D90|C441|E9|F TIMES GU|MIGI|MPAP PLUS LU3",
    "VPAP PLUS LU3|MU2 PLUS BA|D50|E7|D70|D83|D90|E2|E3|E5|C550|C608|D17|F TIMES ASH|MBAD|MDUN3 GUNU GUNU",
    "MKU3|MLA|MTAR|NE|MU2|ND|NRUDA|D36|D48|F TIMES DUB|MGA|MIGI|P GUNU|MNI|MPAP PLUS PAP PLUS LU3",
    "MSHESH PLUS KI|MUD|NRUDA|C724|D49|@U2 GUNU TIMES ASH|CTIMES DISH|IHAL|IPAP|L PLUS PAP PLUS LU3|ITAK4",
    "?MI PLUS ZA7|@USH OVER MUSH TIMES GA|TKAK|?NINDA2 TIMES DIM GUNU|LGISH|MUL|LHI|LKESH2|LLAK-050|LMASH",
    "LPAP PLUS PAP|LU|M PLUS U|MRUDA|?SAG GUNU TIMES HA|CTIMES EN|ISHE AT LEFT|ITAK4|@HA6 TENU",
    "AE OVER SHE|CPLUS HUB2|HNAM2|HSAR|AU2 PLUS DUG TIMES NI|IE2 TIMES AN|@I TIMES TAK4|?TAK4 PLUS SAG",
    "@UM TIMES GAN2 TENU|ITHREE DISH|?UR2 INVERTED|CTIMES UD|AU TIMES DARA3|ILAK-668|JU3|?ZA7",
    "@U OVER ZU PLUS SAR|A5 TIMES THREE DISH TENU"]),
  (0x12f90, ["0CYPRO-MINOAN SIGN CM001|F2|F4|F5|F6|F7|F8|F9|E10|F1|F2|GB|F3|F5|F7|F9|E21|F3|F4|F5|F6|F7|F8|F9|E30",
    "F3|F4|F5|F6|F7|F8|F9|E40|F1|F4|F6|F7|F9|E50|F1|F2|F3|F4|F5|F6|F8|F9|E60|F1|F2|F3|F4|F6|F7|F8|F9|E70",
    "F1|F2|F3|F4|F5|GB|F6|F8|F9|E80|F1|F2|F3|F4|F5|F6|F7|F8|F9|E90|F1|F2|F4|F5|F6|F7|F8|F9|D100|F1|F2|F3",
    "F4|F5|F7|F8|F9|E10|F2|F4|D301|F2"]),
  (0x13000, ["0EGYPTIAN HIEROGLYPH A001|G2|G3|G4|G5|HA|G6|HA|HB|G7|G8|G9|F10|G1|G2|G3|G4|HA|G5|G6|G7|HA|G8|G9|F20",
    "G1|G2|G3|G4|G5|G6|G7|G8|G9|F30|G1|G2|HA|G3|G4|G5|G6|G7|G8|G9|F40|HA|G1|G2|HA|G3|HA|G4|G5|HA|G6|G7|G8",
    "G9|F50|G1|G2|G3|G4|G5|G6|G7|G8|G9|F60|G1|G2|G3|G4|G5|G6|G7|G8|G9|F70|DB001|G2|G3|G4|G5|HA|G6|G7|G8",
    "G9|DC001|G2|HA|HB|HC|G3|G4|G5|G6|G7|G8|G9|F10|HA|G1|G2|G3|G4|G5|G6|G7|G8|G9|F20|G1|G2|G3|G4|DD001|G2",
    "G3|G4|G5|G6|G7|G8|HA|G9|F10|G1|G2|G3|G4|G5|G6|G7|G8|G9|F20|G1|G2|G3|G4|G5|G6|G7|HA|G8|G9|F30|G1|HA",
    "G2|G3|G4|HA|G5|G6|G7|G8|G9|F40|G1|G2|G3|G4|G5|G6|HA|G7|G8|HA|G9|F50|HA|HB|HC|HD|HE|HF|HG|HH|HI|G1|G2",
    "HA|G3|G4|HA|G5|G6|G7|G8|G9|F60|G1|G2|G3|G4|G5|G6|G7|HA|HB|HC|HD|HE|HF|HG|HH|DE001|G2|G3|G4|G5|G6|G7",
    "G8|HA|G9|HA|F10|G1|G2|G3|G4|G5|G6|HA|G7|HA|G8|G9|F20|HA|G1|G2|G3|G4|G5|G6|G7|G8|HA|G9|F30|G1|G2|G3",
    "G4|HA|G6|G7|G8|DF001|HA|G2|G3|G4|G5|G6|G7|G8|G9|F10|G1|G2|G3|HA|G4|G5|G6|G7|G8|G9|F20|G1|HA|G2|G3|G4",
    "G5|G6|G7|G8|G9|F30|G1|HA|G2|G3|G4|G5|G6|G7|HA|G8|HA|G9|F40|G1|G2|G3|G4|G5|HA|G6|HA|G7|HA|G8|G9|F50",
    "G1|HA|HB|HC|G2|G3|DG001|G2|G3|G4|G5|G6|HA|G7|HA|HB|G8|G9|F10|G1|HA|G2|G3|G4|G5|G6|G7|G8|G9|F20|HA|G1",
    "G2|G3|G4|G5|G6|HA|G7|G8|G9|F30|G1|G2|G3|G4|G5|G6|HA|G7|HA|G8|G9|F40|G1|G2|G3|HA|G4|G5|HA|G6|G7|G8|G9",
    "F50|G1|G2|G3|G4|DH001|G2|G3|G4|G5|G6|HA|G7|G8|DI001|G2|G3|G4|G5|HA|G6|G7|G8|G9|HA|F10|HA|G1|HA|G2|G3",
    "G4|G5|DK001|G2|G3|G4|G5|G6|G7|G8|DL001|G2|HA|G3|G4|G5|G6|HA|G7|G8|DM001|HA|HB|G2|G3|HA|G4|G5|G6|G7",
    "G8|G9|F10|HA|G1|G2|HA|HB|HC|HD|HE|HF|HG|HH|G3|G4|G5|HA|G6|HA|G7|HA|G8|G9|F20|G1|G2|HA|G3|G4|HA|G5|G6",
    "G7|G8|HA|G9|F30|G1|HA|G2|G3|HA|HB|G4|G5|G6|G7|G8|G9|F40|HA|G1|G2|G3|G4|DN001|G2|G3|G4|G5|G6|G7|G8|G9",
    "F10|G1|G2|G3|G4|G5|G6|G7|G8|HA|HB|G9|F20|G1|G2|G3|G4|G5|HA|G6|G7|G8|G9|F30|G1|G2|G3|HA|G4|HA|G5|HA",
    "G6|G7|HA|G8|G9|F40|G1|G2|EL001|H2|H3|H4|H5|IA|H6|H7|H8|H9|G10|H1|H2|H3|H4|H5|H6|H7|IA|H8|H9|G20",
    "EU001|H2|H3|H4|H5|H6|H7|H8|H9|G10|IA|H1|IA|H2|H3|H4|H5|H6|H7|H8|IA|H9|G20|H1|H2|IA|DO001|HA|G2|G3|G4",
    "G5|HA|G6|HA|HB|HC|HD|HE|HF|G7|G8|G9|F10|HA|HB|HC|G1|G2|G3|G4|G5|G6|G7|G8|G9|HA|F20|HA|G1|G2|G3|G4|HA",
    "G5|HA|G6|G7|G8|G9|HA|F30|HA|G1|G2|G3|HA|G4|G5|G6|HA|HB|HC|HD|G7|G8|G9|F40|G1|G2|G3|G4|G5|G6|G7|G8|G9",
    "F50|HA|HB|G1|DP001|HA|G2|G3|HA|G4|G5|G6|G7|G8|G9|F10|G1|DQ001|G2|G3|G4|G5|G6|G7|DR001|G2|HA|G3|HA|HB",
    "G4|G5|G6|G7|G8|G9|F10|HA|G1|G2|G3|G4|G5|G6|HA|G7|G8|G9|F20|G1|G2|G3|G4|G5|G6|G7|G8|G9|DS001|G2|HA|G3",
    "G4|G5|G6|HA|G7|G8|G9|F10|G1|G2|G3|G4|HA|HB|G5|G6|G7|HA|G8|G9|F20|G1|G2|G3|G4|G5|G6|HA|HB|G7|G8|G9",
    "F30|G1|G2|G3|G4|G5|HA|G6|G7|G8|G9|F40|G1|G2|G3|G4|G5|G6|DT001|G2|G3|HA|G4|G5|G6|G7|HA|G8|HA|G9|HA",
    "F10|G1|HA|G2|G3|G4|G5|G6|HA|G7|G8|G9|F20|G1|G2|G3|G4|G5|G6|G7|G8|G9|F30|G1|G2|HA|G3|HA|G4|G5|G6",
    "DU001|G2|G3|G4|G5|G6|HA|HB|G7|G8|G9|F10|G1|G2|G3|G4|G5|G6|G7|G8|G9|F20|G1|G2|G3|HA|G4|G5|G6|G7|G8|G9",
    "HA|F30|G1|G2|HA|G3|G4|G5|G6|G7|G8|G9|F40|G1|G2|DV001|HA|HB|HC|HD|HE|HF|HG|HH|HI|G2|HA|G3|G4|G5|G6|G7",
    "HA|HB|G8|G9|F10|G1|HA|HB|HC|G2|HA|HB|G3|G4|G5|G6|G7|G8|G9|F20|HA|HB|HC|HD|HE|HF|HG|HH|HI|HJ|HK|HL|G1",
    "G2|G3|HA|G4|G5|G6|G7|G8|HA|G9|HA|F30|HA|G1|HA|G2|G3|HA|G4|G5|G6|G7|HA|G8|G9|F40|HA|DW001|G2|G3|HA|G4",
    "G5|G6|G7|G8|G9|HA|F10|HA|G1|G2|G3|G4|HA|G5|G6|G7|HA|G8|HA|G9|F20|G1|G2|G3|G4|HA|G5|DX001|G2|G3|G4|HA",
    "HB|G5|G6|HA|G7|G8|HA|DY001|HA|G2|G3|G4|G5|G6|G7|G8|DZ001|G2|HA|HB|HC|HD|G3|HA|HB|G4|HA|G5|HA|G6|G7",
    "G8|G9|F10|G1|G2|G3|G4|G5|HA|HB|HC|HD|HE|HF|HG|HH|HI|G6|HA|HB|HC|HD|HE|HF|HG|HH|DAA001|H2|H3|H4|H5|H6",
    "H7|IA|IB|H8|H9|G10|H1|H2|H3|H4|H5|H6|H7|H8|H9|G20|H1|H2|H3|H4|H5|H6|H7|H8|H9|G30|H1|H2|",
    "DVERTICAL JOINER|DHORIZONTAL JOINER|DINSERT AT TOP START|NBOTTOM START|NTOP END|NBOTTOM END",
    "DOVERLAY MIDDLE|DBEGIN SEGMENT|DEND SEGMENT"]),
  (0x14400, ["0ANATOLIAN HIEROGLYPH A001|H2|H3|H4|H5|H6|H7|H8|H9|G10|IA|H1|H2|H3|H4|H5|H6|H7|H8|H9|G20|H1|H2|H3|H4",
    "H5|H6|IA|H7|H8|H9|G30|H1|H2|H3|H4|H5|H6|H7|H8|H9|IA|G40|H1|IA|H2|H3|H4|H5|IA|H6|IA|IB|H7|H8|H9|G50",
    "H1|H2|H3|H4|H5|H6|H7|H8|H9|G60|H1|H2|H3|H4|H5|H6|IA|IB|IC|H7|H8|H9|G70|H1|H2|H3|H4|H5|H6|H7|H8|H9",
    "G80|H1|H2|H3|H4|H5|H6|H7|H8|H9|G90|H1|H2|H3|H4|H5|H6|H7|IA|H8|IA|H9|F100|IA|H1|IA|H2|IA|H3|H4|IA|IB",
    "IC|H5|IA|IB|H6|H7|IA|IB|IC|H8|H9|G10|IA|IB|H1|H2|H3|H4|H5|IA|H6|H7|H8|H9|G20|H1|H2|H3|H4|H5|IA|H6|H7",
    "H8|H9|G30|H1|H2|H3|H4|H5|IA|H6|H7|H8|H9|G40|H1|H2|H3|H4|H5|H6|H7|H8|H9|G50|H1|H2|H3|H4|H5|H6|H7|H8",
    "H9|G60|H1|H2|H3|H4|H5|H6|H7|H8|H9|G70|H1|H2|H3|H4|H5|H6|H7|H8|H9|G80|H1|H2|H3|H4|H5|H6|H7|H8|H9|G90",
    "H1|H2|H3|H4|H5|H6|H7|H8|H9|F200|H1|H2|IA|IB|H3|H4|H5|H6|H7|IA|H8|H9|IA|G10|H1|H2|H3|H4|H5|IA|H6|IA",
    "H7|H8|H9|G20|H1|H2|H3|H4|H5|H6|H7|IA|H8|H9|G30|H1|H2|H3|H4|H5|H6|H7|H8|H9|G40|H1|H2|H3|H4|H5|H6|H7",
    "H8|H9|G50|H1|H2|H3|H4|H5|H6|H7|H8|H9|G60|H1|H2|H3|H4|H5|H6|H7|IA|H8|H9|G70|H1|H2|H3|H4|H5|H6|H7|H8",
    "H9|G80|H1|H2|H3|H4|H5|H6|H7|H8|H9|IA|G90|H1|H2|H3|H4|IA|H5|H6|H7|H8|H9|IA|F300|H1|H2|H3|H4|H5|H6|H7",
    "H8|H9|IA|G10|H1|H2|H3|H4|H5|H6|H7|H8|H9|G20|H1|H2|H3|H4|H5|H6|H7|H8|H9|IA|G30|H1|H2A|IB|IC|H3|H4|H5",
    "H6|IA|IB|IC|H7|H8|H9|G40|H1|H2|H3|H4|H5|H6|H7|H8|H9|G50|H1|H2|H3|H4|H5|H6|H7|H8|H9|IA|G60|H1|H2|H3",
    "H4|IA|H5|H6|H7|H8|IA|H9|G70|H1|IA|H2|H3|H4|H5|H6|H7|H8|H9|G80|H1|IA|H2|H3 RA OR RI|IA|H4|H5|H6|IA|H7",
    "H8|H9|G90|H1|H2|H3 EIGHT|H4|H5|H6|H7|H8|H9|F400|H1|H2|H3|H4|H5|H6|H7|H8|H9|G10 BEGIN LOGOGRAM MARK",
    "IA END LOGOGRAM MARK|H1|H2|H3|H4|H5|H6|H7|H8|H9|G20|H1|H2|H3|H4|H5|H6|H7|H8|H9|G30|H1|H2|H3|H4|H5|H6",
    "H7|H8|H9|G40|H1|H2|H3|H4|H5|H6|H7|H8|H9|G50|IA|H1|H2|H3|H4|H5|H6|H7|IA|H8|H9|G60|H1|H2|H3|H4|H5|H6",
    "H7|H8|H9|G70|H1|H2|H3|H4|H5|H6|H7|H8|H9|G80|H1|H2|H3|H4|H5|H6|H7|H8|H9|G90|H1|H2|H3|H4|H5|H6|H7|F501",
    "H2|H3|H4|H5|H6|H7|H8|H9|G10|H1|H2|H3|H4|H5|H6|H7|H8|H9|G20|H1|H2|H3|H4|H5|H6|H7|H8|H9|G30"]),
  (0x16800, ["0BAMUM LETTER PHASE-A NGKUE MFON|EGBIEE FON|EPON MFON PIPAEMGBIEE|TBA|ENAA MFON|ESHUENSHUET",
    "ETITA MFON|ENZA MFON|ESHINDA PA NJI|EPON PA NJI PIPAEMGBIEE|VBA|EMAEMBGBIEE|ETU MAEMBA|ENGANGU",
    "EMAEMVEUX|GNSUAE|FVEUAENGAM|ESEUNYAM|ENTOQPEN|EKEUKEUTNDA|ENKINDI|ESUU|ENGKUENZEUM|ELAPAQ|FET KUT",
    "ENTAP MFAA|EMAEKEUP|EPASHAE|EGHEUAERAE|EPAMSHAE|EMON NGGEUAET|ENZUN MEUT|EU YUQ NAE|EGHEUAEGHEUAE",
    "ENTAP NTAA|ESISA|EMGBASA|FEUNJOMNDEUQ|FOOMPUQ|EKAFA|EPA LEERAEWA|ENDA LEERAEWA|EPET|EMAEMKPEN|ENIKA",
    "EPUP|ETUAEP|ELUAEP|ESONJAM|ETEUTEUWEN|EMAENYI|EKET|ENDAANGGEUAET|EKUOQ|EMOOMEUT|ESHUM|ELOMMAE|EFIRI",
    "EROM|EKPOQ|ESOQ|EMAP PIEET|ESHIRAE|ENTAP|ESHOQ NSHUT YUM|ENYIT MONGKEUAEQ|EPAARAE|ENKAARAE|EUNKNOWN",
    "ENGGEN|EMAESI|ENJAM|EMBANYI|ENYET|ETEUAEN|ESOT|EPAAM|ENSHIEE|EMAEM|ENYI|EKAQ|ENSHA|EVEE|ELU|ENEN|FAQ",
    "EMBAQ|CB NSHUET|ETU MAEMGBIEE|ESIEE|FET TU|ELOM NTEUM|EMBA MAELEE|EKIEEM|EYEURAE|EMBAARAE|EKAM",
    "EPEESHI|EYAFU LEERAEWA|ELAM NSHUT NYAM|ENTIEE SHEUOQ|FDU NJAA|EGHEUGHEUAEM|EPIT|ETU NSIEE|ESHET NJAQ",
    "HUAEQTU|EMFON TEUAEQ|FBIT MBAAKET|ENYI NTEUM|EKEUPUQ|EGHEUGHEN|EKEUYEUX|ELAANAE|EPARUM|EVEUM",
    "ENGKINDI MVOP|GGEU MBU|EWUAET|ESAKEUAE|ETAAM|EMEUQ|ENGGUOQ|K LARGE|EMFIYAQ|ESUE|EMBEURI|FONTIEEN",
    "ENYAEMAE|EPUNGAAM|EMEUT NGGEET|EFEUX|EMBUOQ|EFEE|EKEUAEM|EMA NJEUAENA|JUQA|ELET|ENGGAAM|FSEN|EMA",
    "EKIQ|ENGOM|CC NGKUE MAEMBA|FZA|EYUM|EWANGKUOQ|ENGGEN|FDEUAEREE|FGKAQ|EGHARAE|EMBEEKEET|EGBAYI",
    "ENYIR MKPARAQ MEUN|FTU MBIT|EMBEUM|EPIRIEEN|ENDOMBU|EMBAA CABBAGE-TREE|EKEUSHEUAEP|EGHAP|EKEUKAQ",
    "EYU MUOMAE|ENZEUM|EMBUE|ENSEUAEN|EMBIT|EYEUQ|EKPARAQ|FAA|ESEUX|ENDIDA|ETAASHAE|ENJUEQ|ETITA YUE",
    "ESUAET|ENGGUAEN NYAM|EVEUX|ENANSANAQ|EMA KEUAERI|ENTAA|FGGUON|ELAP|EMBIRIEEN|FGBASAQ|ENTEUNGBA",
    "ETEUTEUX|ENGGUM|EFUE|ENDEUT|FSA|GHAQ|EBUNG|EVEUAEPEN|EMBERAE|ERU|ENJAEM|ELAM|ETITUAEP|ENSUOT NGOM",
    "FJEEEE|EKET|ENGGU|EMAESI|FBUAEM|ELU|EKUT|ENJAM|FGOM|EWUP|ENGGUEET|FSOM|FTEN|EKUOP NKAARAE|ENSUN|FDAM",
    "EMA NSIEE|EYAA|ENDAP|ESHUEQ|FETFON|EMBI|FAEMBA|FBANYI|EKEUSEUX|EMBEUX|EKEUM|EMBAA PICKET|EYUWOQ",
    "ENJEUX|EMIEE|FUAE|ESHIQ|EKEN LAW|IFATIGUE|ENGAQ|FAQ|ELIQ|EPIN|FEN|ETET|CD MBUO|EWAP|ENJI|EMFON",
    "ENJIEE|ELIEE|ENJEUT|FSHEE|FGGAAMAE|FYAM|EWUAEN|ENGKUN|ESHEE|ENGKAP|EKEUAETMEUN|ETEUT|ESHEUAE|ENJAP",
    "ESUE|EKET|EYAEMMAE|EKUOM|ESAP|EMFEUT|ENDEUX|EMALEERI|FEUT|ESEUAEQ|EYEN|ENJEUAEM|EKEUOT MBUAE",
    "ENGKEURI|ETU|EGHAA|ENGKYEE|EFEUFEUAET|ENDEE|EMGBOFUM|ELEUAEP|ENDON|EMONI|FGBEUN|EPUUT|EMGBIEE|FFO",
    "ELUM|ENSIEEP|EMBAA|EKWAET|ENYET|ETEUAEN|ESOT|EYUWOQ|EKEUM|ERAEM|ETEEEE|ENGKEUAEQ|EMFEUAE|ENSIEET",
    "EKEUP|EPIP|FEUTAE|ENYUE|ELET|ENGGAAM|EMFIEE|ENGGWAEN|EYUOM|EPAP|EYUOP|ENDAM|FTEUM|ESUAE|EKUN|ENGGEUX",
    "GKIEE|ETUOT|EMEUN|EKUQ|ENSUM|ETEUN|EMAENJET|ENGGAP|ELEUM|ENGGUOM|FSHUT|FJUEQ|EGHEUAE|EKU|EREN OLD",
    "ETAE|FOQ|ENYI|ERII|ELEEEE|EMEEEE|EM|ESUU|EMU|ESHII|GEUX|EKYEE|ENU|ESHU|ENTEE|EPEE|ENI|ESHOQ|EPUQ",
    "EMVOP|ELOQ|EREN MUCH|ETI|ENTUU|EMBAA SEVEN|ESAQ|EFAA|CE NDAP|ETOON|EMBEUM|ELAP|EVOM|ELOON|EPAA|ESOM",
    "ERAQ|ENSHUOP|FDUN|EPUAE|ETAM|ENGKA|EKPEUX|EWUO|ESEE|ENGGEUAET|EPAAM|ETOO|EKUOP|ELOM|ENSHIEE|FGOP",
    "EMAEM|ENGKEUX|GOQ|FSHUE|ERIMGBA|ENJEUX|EPEEM|ESAA|ENGGURAE|EMGBA|EGHEUX|ENGKEUAEM|FJAEMLI|EMAP|ELOOT",
    "ENGGEEEE|FDIQ|ETAEN NTEUM|ESET|EPUM|ENDAA SOFTNESS|FGGUAESHAE NYAM|EYIEE|EGHEUN|ETUAE|EYEUAE|EPO",
    "ETUMAE|EKEUAE|ESUAEN|ETEUAEQ|EVEUAE|EWEUX|ELAAM|EPU|ETAAQ|EGHAAMAE|ENGEUREUT|ESHEUAEQ|EMGBEN|FBEE",
    "ENZAQ|FKOM|EGBET|ETUM|EKUET|EYAP|ENYI CLEAVER|EYIT|EMFEUQ|ENDIAQ|EPIEEQ|EYUEQ|ELEUAEM|EFUE|EGBEUX",
    "ENGKUP|EKET|EMAE|ENGKAAMI|EGHET|EFA|ENTUM|EPEUT|EYEUM|ENGGEUAE|FYI BETWEEN|FZUQ|EPOON|EMIEE|EFUET",
    "ENAE|EMUAE|EGHEUAE|EFU I|EMVI|EPUAQ|ENGKUM|EKUT|EPIET|ENTAP|EYEUAET|ENGGUP|EPA PEOPLE|EFU CALL|FOM",
    "ENJEE|EA|ETOQ|EO|EI|ELAQ|EPA PLURAL|ETAA|GQ|ENDAA MY HOUSE|ESHIQ|EYEUX|ENGUAE|EYUAEN|FOQ SWIMMING",
    "ICOVER|FUQ|GN|EKEUX|EPEUX|ENJEE EPOCH|EPUE|EWUE|EFEE|EVEE|ELU|EMI|EREUX|FAE|ENGUAET|GA|ESHO|HQ",
    "EFU REMEDY|ENA|EPI|ELOQ|EKO|EMEN|FA|GQ|ETEU|EKI|EMON|ETEN|EFAQ|EGHOM|CF KA|EU|EKU|EEE|EREE|ETAE|ENYI",
    "ELA|ERII|GEE|EMEEEE|ETAA|ENDAA|FJAEM|EM|ESUU|FHII|FI|FEUX|EKYEE|FET|ENUAE|FU|FJUAE|EYOQ|ESHU|EYA",
    "ENSHA|EPEUX|ENTEE|EWUE|EPEE|ERU|ENI|EREUX|EKEN|ENGKWAEN|GGA|ESHO|EPUAE|EFOM|EWA|ELI|FOQ|EKO|EMBEN",
    "EREN|EMA|FO|FBAA|ETET|EKPA|ESAMBA|EVUEQ||||||||0MRO LETTER TA|;NGI|;YO|;MIM|;BA|;DA|;A|;PHI|;KHAI",
    ";HAO|;DAI|;CHU|;KEAAE|;OL|;MAEM|;NIN|;PA|;OO|;O|;RO|;SHI|;THEA|;EA|;WA|;E|;KO|;LAN|<A|;HAI|;RI|;TEK|",
    "4DIGIT ZERO|:ONE|:TWO|;HREE|:FOUR|;IVE|:SIX|;EVEN|:EIGHT|:NINE|||||5ANDA|5OUBLE DANDA",
    "0TANGSA LETTER OZ|?C|?Q|?X|>AZ|?C|?Q|?X|>VZ|?C|?Q|?X|>EZ|?C|?Q|?X|>IZ|?C|?Q|?X|>UZ|?C|?Q|?X|>AWZ|@C",
    "@Q|@X|>UIZ|@C|@Q|@X|>FINAL NG|>LONG UEX|>SHORT UEZ|DAWX|>UEC|@Z|@Q|@X|?IUZ|AC|AQ|AX|>MZ|?C|?Q|?X|>KA",
    "?HA|>GA|>NGA|>SA|>YA|>WA|>PA|>NYA|>PHA|>BA|>MA|>NA|>HA|>LA|>HTA|>TA|>DA|>RA|>NHA|>SHA|>CA|>TSA|>GHA",
    ">HTTA|>THA|>XA|>FA|>DHA|>CHA|>ZA||7DIGIT ZERO|=ONE|=TWO|>HREE|=FOUR|>IVE|=SIX|>EVEN|=EIGHT|=NINE||||",
    "||0BASSA VAH LETTER ENNI|AKA|ASE|AFA|AMBE|AYIE|AGAH|ADHII|AKPAH|AJO|AHWAH|AWA|AZO|AGBU|ADO|ACE|AUWU",
    "ATO|ABA|AVU|AYEIN|APA|AWADDA|AA|AO|BO|AU|AEE|AE|AI|||:COMBINING HIGH TONE|DLOW TONE|DMID TONE",
    "DLOW-MID TONE|DHIGH-LOW TONE|:FULL STOP"]),
  (0x16b00, ["0PAHAWH HMONG VOWEL KEEB|FV|DIB|EV|DAUB|FV|DUB|EV|DEB|EV|DAIB|FV|DOOB|FV|DAWB|FV|DUAB|FV|DOB|EV|DIAB",
    "FV|DAB|EV|DWB|EV|DAAB|FV|=CONSONANT VAU|GNTSAU|GLAU|GHAU|GNLAU|GRAU|GNKAU|GQHAU|GYAU|GHLAU|GMAU",
    "GCHAU|GNCHAU|GHNAU|GPLHAU|GNTHAU|HAU|GAU|GXAU|GCAU|=MARK CIM TUB|FSO|FKES|GHAV|FSUAM|FHOM|FTAUM",
    "=SIGN VOS THOM|GSHAB CEEB|BCIM CHEEM|BVOS THIAB|FFEEM|BXYEEM NTXIV|HRHO|HTOV|HFAIB|BVOS SEEV",
    "BMEEJ SUAB|BVOS NRUA|BIB YAM|BXAUS|BCIM TSOV ROG"]),
  (0x16b50, ["0PAHAWH HMONG DIGIT ZERO|CONE|CTWO|DHREE|CFOUR|DIVE|CSIX|DEVEN|CEIGHT|CNINE||=NUMBER TENS|DHUNDREDS",
    "DTEN THOUSANDS|DMILLIONS|DHUNDRED MILLIONS|DTEN BILLIONS|ERILLIONS||=SIGN VOS LUB|BXYOO|BHLI",
    "BTHIRD-STAGE HLI|BZWJ THAJ|BHNUB|BNQIG|BXIAB|BNTUJ|BAV|BTXHEEJ CEEV|BMEEJ TSEEB|BTAU|BLOS|BMUS",
    "BCIM HAIS LUS NTOG NTOG|FCUAM TSHOOJ|FTXWV|J CHWV|FPUB DAWB|FNRES TOS||||||=CLAN SIGN TSHEEJ|GYEEG",
    "GLIS|HAUJ|GXYOOJ|GKOO|GHAWJ|GMUAS|GTHOJ|HSAB|GPHAB|GKHAB|GHAM|GVAJ|GFAJ|GYAJ|GTSWB|GKWM|GVWJ"]),
  (0x16e40, ["0MEDEFAIDRIN CAPITAL LETTER M|KS|KV|KW|KATIU|KZ|KKP|KP|KT|KG|KF|KI|KK|KA|KJ|KE|KB|KC|KU|KYU|KL|KQ",
    "KHP|KNY|KX|KD|KOE|KN|KR|KO|KAI|KY|<SMALL LETTER M|IS|IV|IW|IATIU|IZ|IKP|IP|IT|IG|IF|II|IK|IA|IJ|IE",
    "IB|IC|IU|IYU|IL|IQ|IHP|INY|IX|ID|IOE|IN|IR|IO|IAI|IY|<DIGIT ZERO|BONE|BTWO|CHREE|BFOUR|CIVE|BSIX",
    "CEVEN|BEIGHT|BNINE|<NUMBER TEN|CELEVEN|CTWELVE|DHIRTEEN|CFOURTEEN|DIFTEEN|CSIXTEEN|DEVENTEEN",
    "CEIGHTEEN|CNINETEEN|<DIGIT ONE ALTERNATE FORM|BTWO ALTERNATE FORM|CHREE ALTERNATE FORM|<COMMA",
    "<FULL STOP|<SYMBOL AIVA|<EXCLAMATION OH"]),
  (0x16f00, ["0MIAO LETTER PA|<BA|<YI PA|<PLA|<MA|=HA|<ARCHAIC MA|<FA|<VA|=FA|<TA|<DA|<YI TTA|@A|<TTA|<DDA|<NA|=HA",
    "<YI NNA|<ARCHAIC NA|<NNA|>HA|<LA|=YA|=HA|>YA|<TLHA|<DLHA|<TLHYA|<DLHYA|<KA|<GA|<YI KA|<QA|=GA|<NGA",
    ">HA|<ARCHAIC NGA|<HA|<XA|<GHA|>HA|<TSSA|<DZZA|<NYA|>HA|<TSHA|<DZHA|<YI TSHA|?DZHA|<REFORMED TSHA",
    "<SHA|=SA|<ZHA|=SHA|<TSA|<DZA|<YI TSA|<SA|<ZA|=SA|=ZA|>SA|<ARCHAIC ZZA|<ZZYA|>SYA|<WA|<AH|<HHA|<BRI",
    "<SYI|<DZYI|<TE|=SE|<RTE|||||5SIGN CONSONANT MODIFIER BAR|5LETTER NASALIZATION|5SIGN ASPIRATION",
    ":REFORMED VOICING|CASPIRATION|5VOWEL SIGN A|AA|AHH|AN|BG|@O|AO|@WO|@W|@E|AN|BG|@OEY|@I|AA|BN|CG|AO",
    "AE|AI|AU|ANG|@U|AA|BN|CG|AU|AEI|ANG|@Y|AI|@AE|BE|@ERR|@ROUNDED ERR|@ER|@ROUNDED ER|@AI|@EI|@AU|@OU",
    "@N|AG|@UOG|@YUI|@OG|AER|@VW|@IG|@EA|@IONG|@UI||||||||5TONE RIGHT|:TOP RIGHT|:ABOVE|:BELOW",
    "5LETTER TONE-2|A3|A4|A5|A6|A7|A8|<REFORMED TONE-1|J2|J4|J5|J6|J8"]),
  (0x16fe0, ["0TANGUT ITERATION MARK|0NUSHU ITERATION MARK|0OLD CHINESE HOOK MARK|<ITERATION MARK",
    "0KHITAN SMALL SCRIPT FILLER"]),
  (0x16ff0, ["0VIETNAMESE ALTERNATE READING MARK CA|RNHAY"]),
  (0x18800, ["0TANGUT COMPONENT-001|C2|C3|C4|C5|C6|C7|C8|C9|B10|C1|C2|C3|C4|C5|C6|C7|C8|C9|B20|C1|C2|C3|C4|C5|C6",
    "C7|C8|C9|B30|C1|C2|C3|C4|C5|C6|C7|C8|C9|B40|C1|C2|C3|C4|C5|C6|C7|C8|C9|B50|C1|C2|C3|C4|C5|C6|C7|C8",
    "C9|B60|C1|C2|C3|C4|C5|C6|C7|C8|C9|B70|C1|C2|C3|C4|C5|C6|C7|C8|C9|B80|C1|C2|C3|C4|C5|C6|C7|C8|C9|B90",
    "C1|C2|C3|C4|C5|C6|C7|C8|C9|A100|C1|C2|C3|C4|C5|C6|C7|C8|C9|B10|C1|C2|C3|C4|C5|C6|C7|C8|C9|B20|C1|C2",
    "C3|C4|C5|C6|C7|C8|C9|B30|C1|C2|C3|C4|C5|C6|C7|C8|C9|B40|C1|C2|C3|C4|C5|C6|C7|C8|C9|B50|C1|C2|C3|C4",
    "C5|C6|C7|C8|C9|B60|C1|C2|C3|C4|C5|C6|C7|C8|C9|B70|C1|C2|C3|C4|C5|C6|C7|C8|C9|B80|C1|C2|C3|C4|C5|C6",
    "C7|C8|C9|B90|C1|C2|C3|C4|C5|C6|C7|C8|C9|A200|C1|C2|C3|C4|C5|C6|C7|C8|C9|B10|C1|C2|C3|C4|C5|C6|C7|C8",
    "C9|B20|C1|C2|C3|C4|C5|C6|C7|C8|C9|B30|C1|C2|C3|C4|C5|C6|C7|C8|C9|B40|C1|C2|C3|C4|C5|C6|C7|C8|C9|B50",
    "C1|C2|C3|C4|C5|C6|C7|C8|C9|B60|C1|C2|C3|C4|C5|C6|C7|C8|C9|B70|C1|C2|C3|C4|C5|C6|C7|C8|C9|B80|C1|C2",
    "C3|C4|C5|C6|C7|C8|C9|B90|C1|C2|C3|C4|C5|C6|C7|C8|C9|A300|C1|C2|C3|C4|C5|C6|C7|C8|C9|B10|C1|C2|C3|C4",
    "C5|C6|C7|C8|C9|B20|C1|C2|C3|C4|C5|C6|C7|C8|C9|B30|C1|C2|C3|C4|C5|C6|C7|C8|C9|B40|C1|C2|C3|C4|C5|C6",
    "C7|C8|C9|B50|C1|C2|C3|C4|C5|C6|C7|C8|C9|B60|C1|C2|C3|C4|C5|C6|C7|C8|C9|B70|C1|C2|C3|C4|C5|C6|C7|C8",
    "C9|B80|C1|C2|C3|C4|C5|C6|C7|C8|C9|B90|C1|C2|C3|C4|C5|C6|C7|C8|C9|A400|C1|C2|C3|C4|C5|C6|C7|C8|C9|B10",
    "C1|C2|C3|C4|C5|C6|C7|C8|C9|B20|C1|C2|C3|C4|C5|C6|C7|C8|C9|B30|C1|C2|C3|C4|C5|C6|C7|C8|C9|B40|C1|C2",
    "C3|C4|C5|C6|C7|C8|C9|B50|C1|C2|C3|C4|C5|C6|C7|C8|C9|B60|C1|C2|C3|C4|C5|C6|C7|C8|C9|B70|C1|C2|C3|C4",
    "C5|C6|C7|C8|C9|B80|C1|C2|C3|C4|C5|C6|C7|C8|C9|B90|C1|C2|C3|C4|C5|C6|C7|C8|C9|A500|C1|C2|C3|C4|C5|C6",
    "C7|C8|C9|B10|C1|C2|C3|C4|C5|C6|C7|C8|C9|B20|C1|C2|C3|C4|C5|C6|C7|C8|C9|B30|C1|C2|C3|C4|C5|C6|C7|C8",
    "C9|B40|C1|C2|C3|C4|C5|C6|C7|C8|C9|B50|C1|C2|C3|C4|C5|C6|C7|C8|C9|B60|C1|C2|C3|C4|C5|C6|C7|C8|C9|B70",
    "C1|C2|C3|C4|C5|C6|C7|C8|C9|B80|C1|C2|C3|C4|C5|C6|C7|C8|C9|B90|C1|C2|C3|C4|C5|C6|C7|C8|C9|A600|C1|C2",
    "C3|C4|C5|C6|C7|C8|C9|B10|C1|C2|C3|C4|C5|C6|C7|C8|C9|B20|C1|C2|C3|C4|C5|C6|C7|C8|C9|B30|C1|C2|C3|C4",
    "C5|C6|C7|C8|C9|B40|C1|C2|C3|C4|C5|C6|C7|C8|C9|B50|C1|C2|C3|C4|C5|C6|C7|C8|C9|B60|C1|C2|C3|C4|C5|C6",
    "C7|C8|C9|B70|C1|C2|C3|C4|C5|C6|C7|C8|C9|B80|C1|C2|C3|C4|C5|C6|C7|C8|C9|B90|C1|C2|C3|C4|C5|C6|C7|C8",
    "C9|A700|C1|C2|C3|C4|C5|C6|C7|C8|C9|B10|C1|C2|C3|C4|C5|C6|C7|C8|C9|B20|C1|C2|C3|C4|C5|C6|C7|C8|C9|B30",
    "C1|C2|C3|C4|C5|C6|C7|C8|C9|B40|C1|C2|C3|C4|C5|C6|C7|C8|C9|B50|C1|C2|C3|C4|C5|C6|C7|C8|C9|B60|C1|C2",
    "C3|C4|C5|C6|C7|C8"]),
  (0x1aff0, ["0KATAKANA LETTER MINNAN TONE-2|L3|L4|L5||L7|L8|GNASALIZED TONE-1|V2|V3|V4|V5||V7|V8||@ARCHAIC E",
    "0HIRAGANA LETTER ARCHAIC YE|1ENTAIGANA LETTER A-1|D2|D3|DWO|BI-1|D2|D3|D4|BU-1|D2|D3|D4|D5|BE-2|D3",
    "D4|D5|D6|BO-1|D2|D3|BKA-1|E2|E3|E4|E5|E6|E7|E8|E9|E10|F1|EKE|CI-1|E2|E3|E4|E5|E6|E7|E8|CU-1|E2|E3|E4",
    "E5|E6|E7|CE-1|E2|E3|E4|E5|E6|CO-1|E2|E3|EKI|BSA-1|E2|E3|E4|E5|E6|E7|E8|CI-1|E2|E3|E4|E5|E6|CU-1|E2",
    "E3|E4|E5|E6|E7|E8|CE-1|E2|E3|E4|E5|CO-1|E2|E3|E4|E5|E6|E7|BTA-1|E2|E3|E4|CI-1|E2|E3|E4|E5|E6|E7|CU-1",
    "E2|E3|E4|ETO|CE-1|E2|E3|E4|E5|E6|E7|E8|E9|CO-1|E2|E3|E4|E5|E6|ERA|BNA-1|E2|E3|E4|E5|E6|E7|E8|E9|CI-1",
    "E2|E3|E4|E5|E6|E7|ETE|CU-1|E2|E3|CE-1|E2|E3|E4|E5|E6|EKO|CO-1|E2|E3|E4|E5|BHA-1|E2|E3|E4|E5|E6|E7|E8",
    "E9|E10|F1|CI-1|E2|E3|E4|E5|E6|E7|CU-1|E2|E3|CE-1|E2|E3|E4|E5|E6|E7|CO-1|E2|E3|E4|E5|E6|E7|E8|BMA-1",
    "E2|E3|E4|E5|E6|E7|CI-1|E2|E3|E4|E5|E6|E7|CU-1|E2|E3|E4|CE-1|E2|EMA|CO-1|E2|E3|E4|E5|E6|BYA-1|E2|E3",
    "E4|E5|EYO|CU-1|E2|E3|E4|CO-1|E2|E3|E4|E5|E6|BRA-1|E2|E3|E4|CI-1|E2|E3|E4|E5|E6|E7|CU-1|E2|E3|E4|E5",
    "E6|CE-1|E2|E3|E4|CO-1|E2|E3|E4|E5|E6|BWA-1|E2|E3|E4|E5|CI-1|E2|E3|E4|E5|CE-1|E2|E3|E4|CO-1|E2|E3|E4",
    "E5|E6|E7|BN-MU-MO-1|J2|1IRAGANA LETTER ARCHAIC WU|0KATAKANA LETTER ARCHAIC YI|IE|HWU"]),
  (0x1b150, ["0HIRAGANA LETTER SMALL WI|GE|GO"]),
  (0x1b164, ["0KATAKANA LETTER SMALL WI|GE|GO|FN"])]

end AccessorForge.Text.CharName.Pictorial

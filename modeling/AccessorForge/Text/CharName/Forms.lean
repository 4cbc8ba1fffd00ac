/-! Names of characters: presentation forms. -/
namespace AccessorForge.Text.CharName.Forms

def runs : List (Nat × List String) := [
  (0xd7b0, ["0HANGUL JUNGSEONG O-YEO|CO-I|AYO-A|EE|DEO|AU-YEO|CI-I|AYU-AE|DO|AEU-A|DEO|DE|DO|AI-YA-O|EE|DEO|DE",
    "CO-I|CYO|DU|CI|AARAEA-A|GE|||||8ONGSEONG NIEUN-RIEUL|GCHIEUCH|ASSANGTIKEUT|L-PIEUP|ATIKEUT-PIEUP",
    "HSIOS|L-KIYEOK|HCIEUC|IHIEUCH|HTHIEUTH|ARIEUL-SSANGKIYEOK|GKIYEOK-HIEUH|ASSANGRIEUL-KHIEUKH",
    "ARIEUL-MIEUM-HIEUH|GPIEUP-TIKEUT|MPHIEUPH|GYESIEUNG|IORINHIEUH-HIEUH|AKAPYEOUNRIEUL|AMIEUM-NIEUN",
    "GSSANGNIEUN|ASSANGMIEUM|AMIEUM-PIEUP-SIOS|GCIEUC|APIEUP-TIKEUT|GRIEUL-PHIEUPH|GMIEUM|ASSANGPIEUP",
    "APIEUP-SIOS-TIKEUT|GCIEUC|HHIEUCH|ASIOS-MIEUM|FKAPYEOUNPIEUP|BSANGSIOS-KIYEOK|KTIKEUT|BIOS-PANSIOS",
    "FCIEUC|GHIEUCH|FTHIEUTH|FHIEUH|APANSIOS-PIEUP|IKAPYEOUNPIEUP|AYESIEUNG-MIEUM|JHIEUH|ACIEUC-PIEUP",
    "GSSANGPIEUP|ASSANGCIEUC|APHIEUPH-SIOS|ITHIEUTH"]),
  (0xfb00, ["0LATIN SMALL LIGATURE FF|FI|FL|FFI|GL|ELONG S T|EST"]),
  (0xfb13, ["0ARMENIAN SMALL LIGATURE MEN NOW|LECH|LINI|HVEW NOW|HMEN XEH||||||0HEBREW LETTER YOD WITH HIRIQ",
    "7POINT JUDEO-SPANISH VARIKA|7LIGATURE YIDDISH YOD YOD PATAH|8ETTER ALTERNATIVE AYIN|>WIDE ALEF",
    "CDALET|CHE|CKAF|CLAMED|CFINAL MEM|CRESH|CTAV|>ALTERNATIVE PLUS SIGN|>SHIN WITH SHIN DOT|IIN DOT",
    "HDAGESH AND SHIN DOT|TIN DOT|>ALEF WITH PATAH|HQAMATS|HMAPIQ|>BET WITH DAGESH|>GIMEL WITH DAGESH",
    ">DALET WITH DAGESH|>HE WITH MAPIQ|>VAV WITH DAGESH|>ZAYIN WITH DAGESH||>TET WITH DAGESH",
    ">YOD WITH DAGESH|>FINAL KAF WITH DAGESH|>KAF WITH DAGESH|>LAMED WITH DAGESH||>MEM WITH DAGESH|",
    ">NUN WITH DAGESH|>SAMEKH WITH DAGESH||>FINAL PE WITH DAGESH|>PE WITH DAGESH||>TSADI WITH DAGESH",
    ">QOF WITH DAGESH|>RESH WITH DAGESH|>SHIN WITH DAGESH|>TAV WITH DAGESH|>VAV WITH HOLAM|>BET WITH RAFE",
    ">KAF WITH RAFE|>PE WITH RAFE|8IGATURE ALEF LAMED|0ARABIC LETTER ALEF WASLA ISOLATED FORM|IFINAL FORM",
    ">BEEH ISOLATED FORM|CFINAL FORM|CINITIAL FORM|CMEDIAL FORM|>PEH ISOLATED FORM|BFINAL FORM",
    "BINITIAL FORM|BMEDIAL FORM|>BEHEH ISOLATED FORM|DFINAL FORM|DINITIAL FORM|DMEDIAL FORM",
    ">TTEHEH ISOLATED FORM|EFINAL FORM|EINITIAL FORM|EMEDIAL FORM|?EHEH ISOLATED FORM|DFINAL FORM",
    "DINITIAL FORM|DMEDIAL FORM|?TEH ISOLATED FORM|CFINAL FORM|CINITIAL FORM|CMEDIAL FORM",
    ">VEH ISOLATED FORM|BFINAL FORM|BINITIAL FORM|BMEDIAL FORM|>PEHEH ISOLATED FORM|DFINAL FORM",
    "DINITIAL FORM|DMEDIAL FORM|>DYEH ISOLATED FORM|CFINAL FORM|CINITIAL FORM|CMEDIAL FORM",
    ">NYEH ISOLATED FORM|CFINAL FORM|CINITIAL FORM|CMEDIAL FORM|>TCHEH ISOLATED FORM|DFINAL FORM",
    "DINITIAL FORM|DMEDIAL FORM|CEH ISOLATED FORM|FFINAL FORM|FINITIAL FORM|FMEDIAL FORM",
    ">DDAHAL ISOLATED FORM|EFINAL FORM|?AHAL ISOLATED FORM|DFINAL FORM|?UL ISOLATED FORM|BFINAL FORM",
    "?DAL ISOLATED FORM|CFINAL FORM|>JEH ISOLATED FORM|BFINAL FORM|>RREH ISOLATED FORM|CFINAL FORM",
    ">KEHEH ISOLATED FORM|DFINAL FORM|DINITIAL FORM|DMEDIAL FORM|>GAF ISOLATED FORM|BFINAL FORM",
    "BINITIAL FORM|BMEDIAL FORM|?UEH ISOLATED FORM|CFINAL FORM|CINITIAL FORM|CMEDIAL FORM",
    ">NGOEH ISOLATED FORM|DFINAL FORM|DINITIAL FORM|DMEDIAL FORM|?OON GHUNNA ISOLATED FORM|JFINAL FORM",
    ">RNOON ISOLATED FORM|DFINAL FORM|DINITIAL FORM|DMEDIAL FORM|>HEH WITH YEH ABOVE ISOLATED FORM",
    "QFINAL FORM|BGOAL ISOLATED FORM|GFINAL FORM|GINITIAL FORM|GMEDIAL FORM|BDOACHASHMEE ISOLATED FORM",
    "NFINAL FORM|NINITIAL FORM|NMEDIAL FORM|>YEH BARREE ISOLATED FORM|IFINAL FORM",
    "IWITH HAMZA ABOVE ISOLATED FORM|ZFINAL FORM|7SYMBOL DOT ABOVE|BBELOW|>TWO DOTS ABOVE|GBELOW",
    "?HREE DOTS ABOVE|IBELOW|IPOINTING DOWNWARDS ABOVE|[ BELOW|>FOUR DOTS ABOVE|HBELOW",
    ">DOUBLE VERTICAL BAR BELOW|>TWO DOTS VERTICALLY ABOVE|RBELOW|>RING|>SMALL TAH ABOVE|HBELOW",
    ">WASLA ABOVE"]),
  (0xfbd3, ["0ARABIC LETTER NG ISOLATED FORM|AFINAL FORM|AINITIAL FORM|AMEDIAL FORM|>U ISOLATED FORM|@FINAL FORM",
    ">OE ISOLATED FORM|AFINAL FORM|>YU ISOLATED FORM|AFINAL FORM|>U WITH HAMZA ABOVE ISOLATED FORM",
    ">VE ISOLATED FORM|AFINAL FORM|>KIRGHIZ OE ISOLATED FORM|IFINAL FORM|FYU ISOLATED FORM|IFINAL FORM",
    ">E ISOLATED FORM|@FINAL FORM|@INITIAL FORM|@MEDIAL FORM",
    ">UIGHUR KAZAKH KIRGHIZ ALEF MAKSURA INITIAL FORM|aMEDIAL FORM",
    "8IGATURE YEH WITH HAMZA ABOVE WITH ALEF ISOLATED FORM|_FINAL FORM|[E ISOLATED FORM|]FINAL FORM",
    "ZWAW ISOLATED FORM|^FINAL FORM|ZU ISOLATED FORM|[ FINAL FORM|ZOE ISOLATED FORM|]FINAL FORM",
    "ZYU ISOLATED FORM|]FINAL FORM|ZE ISOLATED FORM|[ FINAL FORM|[ INITIAL FORM",
    "@UIGHUR KIRGHIZ YEH WITH HAMZA ABOVE WITH ALEF MAKSURA ISOLATED FORM|vFINAL FORM|vINITIAL FORM",
    "8ETTER FARSI YEH ISOLATED FORM|HFINAL FORM|HINITIAL FORM|HMEDIAL FORM",
    "8IGATURE YEH WITH HAMZA ABOVE WITH JEEM ISOLATED FORM|ZHAH ISOLATED FORM|ZMEEM ISOLATED FORM",
    "ZALEF MAKSURA ISOLATED FORM|ZYEH ISOLATED FORM|@BEH WITH JEEM ISOLATED FORM|IHAH ISOLATED FORM",
    "IKHAH ISOLATED FORM|IMEEM ISOLATED FORM|IALEF MAKSURA ISOLATED FORM|IYEH ISOLATED FORM",
    "@TEH WITH JEEM ISOLATED FORM|IHAH ISOLATED FORM|IKHAH ISOLATED FORM|IMEEM ISOLATED FORM",
    "IALEF MAKSURA ISOLATED FORM|IYEH ISOLATED FORM|AHEH WITH JEEM ISOLATED FORM|JMEEM ISOLATED FORM",
    "JALEF MAKSURA ISOLATED FORM|JYEH ISOLATED FORM|@JEEM WITH HAH ISOLATED FORM|JMEEM ISOLATED FORM",
    "@HAH WITH JEEM ISOLATED FORM|IMEEM ISOLATED FORM|@KHAH WITH JEEM ISOLATED FORM|JHAH ISOLATED FORM",
    "JMEEM ISOLATED FORM|@SEEN WITH JEEM ISOLATED FORM|JHAH ISOLATED FORM|JKHAH ISOLATED FORM",
    "JMEEM ISOLATED FORM|AAD WITH HAH ISOLATED FORM|IMEEM ISOLATED FORM|@DAD WITH JEEM ISOLATED FORM",
    "IHAH ISOLATED FORM|IKHAH ISOLATED FORM|IMEEM ISOLATED FORM|@TAH WITH HAH ISOLATED FORM",
    "IMEEM ISOLATED FORM|@ZAH WITH MEEM ISOLATED FORM|@AIN WITH JEEM ISOLATED FORM|IMEEM ISOLATED FORM",
    "@GHAIN WITH JEEM ISOLATED FORM|KMEEM ISOLATED FORM|@FEH WITH JEEM ISOLATED FORM|IHAH ISOLATED FORM",
    "IKHAH ISOLATED FORM|IMEEM ISOLATED FORM|IALEF MAKSURA ISOLATED FORM|IYEH ISOLATED FORM",
    "@QAF WITH HAH ISOLATED FORM|IMEEM ISOLATED FORM|IALEF MAKSURA ISOLATED FORM|IYEH ISOLATED FORM",
    "@KAF WITH ALEF ISOLATED FORM|IJEEM ISOLATED FORM|IHAH ISOLATED FORM|IKHAH ISOLATED FORM",
    "ILAM ISOLATED FORM|IMEEM ISOLATED FORM|IALEF MAKSURA ISOLATED FORM|IYEH ISOLATED FORM",
    "@LAM WITH JEEM ISOLATED FORM|IHAH ISOLATED FORM|IKHAH ISOLATED FORM|IMEEM ISOLATED FORM",
    "IALEF MAKSURA ISOLATED FORM|IYEH ISOLATED FORM|@MEEM WITH JEEM ISOLATED FORM|JHAH ISOLATED FORM",
    "JKHAH ISOLATED FORM|JMEEM ISOLATED FORM|JALEF MAKSURA ISOLATED FORM|JYEH ISOLATED FORM",
    "@NOON WITH JEEM ISOLATED FORM|JHAH ISOLATED FORM|JKHAH ISOLATED FORM|JMEEM ISOLATED FORM",
    "JALEF MAKSURA ISOLATED FORM|JYEH ISOLATED FORM|@HEH WITH JEEM ISOLATED FORM|IMEEM ISOLATED FORM",
    "IALEF MAKSURA ISOLATED FORM|IYEH ISOLATED FORM|@YEH WITH JEEM ISOLATED FORM|IHAH ISOLATED FORM",
    "IKHAH ISOLATED FORM|IMEEM ISOLATED FORM|IALEF MAKSURA ISOLATED FORM|IYEH ISOLATED FORM",
    "@THAL WITH SUPERSCRIPT ALEF ISOLATED FORM|@REH WITH SUPERSCRIPT ALEF ISOLATED FORM",
    "@ALEF MAKSURA WITH SUPERSCRIPT ALEF ISOLATED FORM|@SHADDA WITH DAMMATAN ISOLATED FORM",
    "LKASRATAN ISOLATED FORM|LFATHA ISOLATED FORM|LDAMMA ISOLATED FORM|LKASRA ISOLATED FORM",
    "LSUPERSCRIPT ALEF ISOLATED FORM|@YEH WITH HAMZA ABOVE WITH REH FINAL FORM|ZZAIN FINAL FORM",
    "ZMEEM FINAL FORM|ZNOON FINAL FORM|ZALEF MAKSURA FINAL FORM|ZYEH FINAL FORM|@BEH WITH REH FINAL FORM",
    "IZAIN FINAL FORM|IMEEM FINAL FORM|INOON FINAL FORM|IALEF MAKSURA FINAL FORM|IYEH FINAL FORM",
    "@TEH WITH REH FINAL FORM|IZAIN FINAL FORM|IMEEM FINAL FORM|INOON FINAL FORM|IALEF MAKSURA FINAL FORM",
    "IYEH FINAL FORM|AHEH WITH REH FINAL FORM|JZAIN FINAL FORM|JMEEM FINAL FORM|JNOON FINAL FORM",
    "JALEF MAKSURA FINAL FORM|JYEH FINAL FORM|@FEH WITH ALEF MAKSURA FINAL FORM|IYEH FINAL FORM",
    "@QAF WITH ALEF MAKSURA FINAL FORM|IYEH FINAL FORM|@KAF WITH ALEF FINAL FORM|ILAM FINAL FORM",
    "IMEEM FINAL FORM|IALEF MAKSURA FINAL FORM|IYEH FINAL FORM|@LAM WITH MEEM FINAL FORM",
    "IALEF MAKSURA FINAL FORM|IYEH FINAL FORM|@MEEM WITH ALEF FINAL FORM|JMEEM FINAL FORM",
    "@NOON WITH REH FINAL FORM|JZAIN FINAL FORM|JMEEM FINAL FORM|JNOON FINAL FORM",
    "JALEF MAKSURA FINAL FORM|JYEH FINAL FORM|@ALEF MAKSURA WITH SUPERSCRIPT ALEF FINAL FORM",
    "@YEH WITH REH FINAL FORM|IZAIN FINAL FORM|IMEEM FINAL FORM|INOON FINAL FORM|IALEF MAKSURA FINAL FORM",
    "IYEH FINAL FORM|IHAMZA ABOVE WITH JEEM INITIAL FORM|ZHAH INITIAL FORM|ZKHAH INITIAL FORM",
    "ZMEEM INITIAL FORM|ZHEH INITIAL FORM|@BEH WITH JEEM INITIAL FORM|IHAH INITIAL FORM",
    "IKHAH INITIAL FORM|IMEEM INITIAL FORM|IHEH INITIAL FORM|@TEH WITH JEEM INITIAL FORM",
    "IHAH INITIAL FORM|IKHAH INITIAL FORM|IMEEM INITIAL FORM|IHEH INITIAL FORM",
    "AHEH WITH MEEM INITIAL FORM|@JEEM WITH HAH INITIAL FORM|JMEEM INITIAL FORM",
    "@HAH WITH JEEM INITIAL FORM|IMEEM INITIAL FORM|@KHAH WITH JEEM INITIAL FORM|JMEEM INITIAL FORM",
    "@SEEN WITH JEEM INITIAL FORM|JHAH INITIAL FORM|JKHAH INITIAL FORM|JMEEM INITIAL FORM",
    "AAD WITH HAH INITIAL FORM|IKHAH INITIAL FORM|IMEEM INITIAL FORM|@DAD WITH JEEM INITIAL FORM",
    "IHAH INITIAL FORM|IKHAH INITIAL FORM|IMEEM INITIAL FORM|@TAH WITH HAH INITIAL FORM",
    "@ZAH WITH MEEM INITIAL FORM|@AIN WITH JEEM INITIAL FORM|IMEEM INITIAL FORM",
    "@GHAIN WITH JEEM INITIAL FORM|KMEEM INITIAL FORM|@FEH WITH JEEM INITIAL FORM|IHAH INITIAL FORM",
    "IKHAH INITIAL FORM|IMEEM INITIAL FORM|@QAF WITH HAH INITIAL FORM|IMEEM INITIAL FORM",
    "@KAF WITH JEEM INITIAL FORM|IHAH INITIAL FORM|IKHAH INITIAL FORM|ILAM INITIAL FORM",
    "IMEEM INITIAL FORM|@LAM WITH JEEM INITIAL FORM|IHAH INITIAL FORM|IKHAH INITIAL FORM",
    "IMEEM INITIAL FORM|IHEH INITIAL FORM|@MEEM WITH JEEM INITIAL FORM|JHAH INITIAL FORM",
    "JKHAH INITIAL FORM|JMEEM INITIAL FORM|@NOON WITH JEEM INITIAL FORM|JHAH INITIAL FORM",
    "JKHAH INITIAL FORM|JMEEM INITIAL FORM|JHEH INITIAL FORM|@HEH WITH JEEM INITIAL FORM",
    "IMEEM INITIAL FORM|ISUPERSCRIPT ALEF INITIAL FORM|@YEH WITH JEEM INITIAL FORM|IHAH INITIAL FORM",
    "IKHAH INITIAL FORM|IMEEM INITIAL FORM|IHEH INITIAL FORM|JAMZA ABOVE WITH MEEM MEDIAL FORM",
    "ZHEH MEDIAL FORM|@BEH WITH MEEM MEDIAL FORM|IHEH MEDIAL FORM|@TEH WITH MEEM MEDIAL FORM",
    "IHEH MEDIAL FORM|AHEH WITH MEEM MEDIAL FORM|JHEH MEDIAL FORM|@SEEN WITH MEEM MEDIAL FORM",
    "JHEH MEDIAL FORM|AHEEN WITH MEEM MEDIAL FORM|KHEH MEDIAL FORM|@KAF WITH LAM MEDIAL FORM",
    "IMEEM MEDIAL FORM|@LAM WITH MEEM MEDIAL FORM|@NOON WITH MEEM MEDIAL FORM|JHEH MEDIAL FORM",
    "@YEH WITH MEEM MEDIAL FORM|IHEH MEDIAL FORM|@SHADDA WITH FATHA MEDIAL FORM|LDAMMA MEDIAL FORM",
    "LKASRA MEDIAL FORM|@TAH WITH ALEF MAKSURA ISOLATED FORM|IYEH ISOLATED FORM",
    "@AIN WITH ALEF MAKSURA ISOLATED FORM|IYEH ISOLATED FORM|@GHAIN WITH ALEF MAKSURA ISOLATED FORM",
    "KYEH ISOLATED FORM|@SEEN WITH ALEF MAKSURA ISOLATED FORM|JYEH ISOLATED FORM",
    "AHEEN WITH ALEF MAKSURA ISOLATED FORM|KYEH ISOLATED FORM|@HAH WITH ALEF MAKSURA ISOLATED FORM",
    "IYEH ISOLATED FORM|@JEEM WITH ALEF MAKSURA ISOLATED FORM|JYEH ISOLATED FORM",
    "@KHAH WITH ALEF MAKSURA ISOLATED FORM|JYEH ISOLATED FORM|@SAD WITH ALEF MAKSURA ISOLATED FORM",
    "IYEH ISOLATED FORM|@DAD WITH ALEF MAKSURA ISOLATED FORM|IYEH ISOLATED FORM",
    "@SHEEN WITH JEEM ISOLATED FORM|KHAH ISOLATED FORM|KKHAH ISOLATED FORM|KMEEM ISOLATED FORM",
    "KREH ISOLATED FORM|AEEN WITH REH ISOLATED FORM|AAD WITH REH ISOLATED FORM",
    "@DAD WITH REH ISOLATED FORM|@TAH WITH ALEF MAKSURA FINAL FORM|IYEH FINAL FORM",
    "@AIN WITH ALEF MAKSURA FINAL FORM|IYEH FINAL FORM|@GHAIN WITH ALEF MAKSURA FINAL FORM",
    "KYEH FINAL FORM|@SEEN WITH ALEF MAKSURA FINAL FORM|JYEH FINAL FORM",
    "AHEEN WITH ALEF MAKSURA FINAL FORM|KYEH FINAL FORM|@HAH WITH ALEF MAKSURA FINAL FORM|IYEH FINAL FORM",
    "@JEEM WITH ALEF MAKSURA FINAL FORM|JYEH FINAL FORM|@KHAH WITH ALEF MAKSURA FINAL FORM",
    "JYEH FINAL FORM|@SAD WITH ALEF MAKSURA FINAL FORM|IYEH FINAL FORM|@DAD WITH ALEF MAKSURA FINAL FORM",
    "IYEH FINAL FORM|@SHEEN WITH JEEM FINAL FORM|KHAH FINAL FORM|KKHAH FINAL FORM|KMEEM FINAL FORM",
    "KREH FINAL FORM|AEEN WITH REH FINAL FORM|AAD WITH REH FINAL FORM|@DAD WITH REH FINAL FORM",
    "@SHEEN WITH JEEM INITIAL FORM|KHAH INITIAL FORM|KKHAH INITIAL FORM|KMEEM INITIAL FORM",
    "AEEN WITH HEH INITIAL FORM|AHEEN WITH HEH INITIAL FORM|@TAH WITH MEEM INITIAL FORM",
    "@SEEN WITH JEEM MEDIAL FORM|JHAH MEDIAL FORM|JKHAH MEDIAL FORM|AHEEN WITH JEEM MEDIAL FORM",
    "KHAH MEDIAL FORM|KKHAH MEDIAL FORM|@TAH WITH MEEM MEDIAL FORM|@ZAH WITH MEEM MEDIAL FORM",
    "@ALEF WITH FATHATAN FINAL FORM|SISOLATED FORM|0ORNATE LEFT PARENTHESIS|7RIGHT PARENTHESIS",
    "0ARABIC LIGATURE RAHIMAHU ALLAAH|BDI ALLAAHU ANH|PAA|PUM|RAA|QNNA|@SALLALLAAHU ALAYHI WA-AALIH",
    "@ALAYHI AS-SALAAM|FM AS-SALAAM|GAA AS-SALAAM|F AS-SALAATU WAS-SALAAM|@QUDDISA SIRRAH",
    "@SALLALLAHU ALAYHI WAAALIHEE WA-SALLAM|@ALAYHAA AS-SALAAM|@TABAARAKA WA-TAAALAA|@RAHIMAHUM ALLAAH",
    "@TEH WITH JEEM WITH MEEM INITIAL FORM|IHAH WITH JEEM FINAL FORM|WINITIAL FORM|RMEEM INITIAL FORM",
    "IKHAH WITH MEEM INITIAL FORM|IMEEM WITH JEEM INITIAL FORM|SHAH INITIAL FORM|SKHAH INITIAL FORM",
    "@JEEM WITH MEEM WITH HAH FINAL FORM|XINITIAL FORM|@HAH WITH MEEM WITH YEH FINAL FORM",
    "SALEF MAKSURA FINAL FORM|@SEEN WITH HAH WITH JEEM INITIAL FORM|JJEEM WITH HAH INITIAL FORM",
    "TALEF MAKSURA FINAL FORM|JMEEM WITH HAH FINAL FORM|XINITIAL FORM|TJEEM INITIAL FORM|TMEEM FINAL FORM",
    "YINITIAL FORM|AAD WITH HAH WITH HAH FINAL FORM|VINITIAL FORM|IMEEM WITH MEEM FINAL FORM",
    "AHEEN WITH HAH WITH MEEM FINAL FORM|YINITIAL FORM|KJEEM WITH YEH FINAL FORM",
    "KMEEM WITH KHAH FINAL FORM|ZINITIAL FORM|UMEEM FINAL FORM|ZINITIAL FORM",
    "@DAD WITH HAH WITH ALEF MAKSURA FINAL FORM|IKHAH WITH MEEM FINAL FORM|XINITIAL FORM",
    "@TAH WITH MEEM WITH HAH FINAL FORM|WINITIAL FORM|SMEEM INITIAL FORM|SYEH FINAL FORM",
    "@AIN WITH JEEM WITH MEEM FINAL FORM|IMEEM WITH MEEM FINAL FORM|XINITIAL FORM",
    "SALEF MAKSURA FINAL FORM|@GHAIN WITH MEEM WITH MEEM FINAL FORM|UYEH FINAL FORM",
    "UALEF MAKSURA FINAL FORM|@FEH WITH KHAH WITH MEEM FINAL FORM|XINITIAL FORM",
    "@QAF WITH MEEM WITH HAH FINAL FORM|SMEEM FINAL FORM|@LAM WITH HAH WITH MEEM FINAL FORM",
    "RYEH FINAL FORM|RALEF MAKSURA FINAL FORM|IJEEM WITH JEEM INITIAL FORM|XFINAL FORM",
    "IKHAH WITH MEEM FINAL FORM|XINITIAL FORM|IMEEM WITH HAH FINAL FORM|WINITIAL FORM",
    "@MEEM WITH HAH WITH JEEM INITIAL FORM|SMEEM INITIAL FORM|SYEH FINAL FORM|JJEEM WITH HAH INITIAL FORM",
    "TMEEM INITIAL FORM|JKHAH WITH JEEM INITIAL FORM|TMEEM INITIAL FORM|||JJEEM WITH KHAH INITIAL FORM",
    "@HEH WITH MEEM WITH JEEM INITIAL FORM|SMEEM INITIAL FORM|@NOON WITH HAH WITH MEEM INITIAL FORM",
    "SALEF MAKSURA FINAL FORM|JJEEM WITH MEEM FINAL FORM|YINITIAL FORM|TALEF MAKSURA FINAL FORM",
    "JMEEM WITH YEH FINAL FORM|TALEF MAKSURA FINAL FORM|@YEH WITH MEEM WITH MEEM FINAL FORM|XINITIAL FORM",
    "@BEH WITH KHAH WITH YEH FINAL FORM|@TEH WITH JEEM WITH YEH FINAL FORM|SALEF MAKSURA FINAL FORM",
    "IKHAH WITH YEH FINAL FORM|SALEF MAKSURA FINAL FORM|IMEEM WITH YEH FINAL FORM",
    "SALEF MAKSURA FINAL FORM|@JEEM WITH MEEM WITH YEH FINAL FORM|JHAH WITH ALEF MAKSURA FINAL FORM",
    "JMEEM WITH ALEF MAKSURA FINAL FORM|@SEEN WITH KHAH WITH ALEF MAKSURA FINAL FORM",
    "AAD WITH HAH WITH YEH FINAL FORM|AHEEN WITH HAH WITH YEH FINAL FORM",
    "@DAD WITH HAH WITH YEH FINAL FORM|@LAM WITH JEEM WITH YEH FINAL FORM|IMEEM WITH YEH FINAL FORM",
    "@YEH WITH HAH WITH YEH FINAL FORM|IJEEM WITH YEH FINAL FORM|IMEEM WITH YEH FINAL FORM",
    "@MEEM WITH MEEM WITH YEH FINAL FORM|@QAF WITH MEEM WITH YEH FINAL FORM",
    "@NOON WITH HAH WITH YEH FINAL FORM|@QAF WITH MEEM WITH HAH INITIAL FORM",
    "@LAM WITH HAH WITH MEEM INITIAL FORM|@AIN WITH MEEM WITH YEH FINAL FORM",
    "@KAF WITH MEEM WITH YEH FINAL FORM|@NOON WITH JEEM WITH HAH INITIAL FORM",
    "@MEEM WITH KHAH WITH YEH FINAL FORM|@LAM WITH JEEM WITH MEEM INITIAL FORM",
    "@KAF WITH MEEM WITH MEEM FINAL FORM|@LAM WITH JEEM WITH MEEM FINAL FORM",
    "@NOON WITH JEEM WITH HAH FINAL FORM|@JEEM WITH HAH WITH YEH FINAL FORM",
    "@HAH WITH JEEM WITH YEH FINAL FORM|@MEEM WITH JEEM WITH YEH FINAL FORM",
    "@FEH WITH MEEM WITH YEH FINAL FORM|@BEH WITH HAH WITH YEH FINAL FORM",
    "@KAF WITH MEEM WITH MEEM INITIAL FORM|@AIN WITH JEEM WITH MEEM INITIAL FORM",
    "@SAD WITH MEEM WITH MEEM INITIAL FORM|AEEN WITH KHAH WITH YEH FINAL FORM",
    "@NOON WITH JEEM WITH YEH FINAL FORM||||||||@SALAAMUHU ALAYNAA"]),
  (0xfdf0, ["0ARABIC LIGATURE SALLA USED AS KORANIC STOP SIGN ISOLATED FORM",
    "@QALA USED AS KORANIC STOP SIGN ISOLATED FORM|@ALLAH ISOLATED FORM|AKBAR ISOLATED FORM",
    "@MOHAMMAD ISOLATED FORM|@SALAM ISOLATED FORM|@RASOUL ISOLATED FORM|@ALAYHE ISOLATED FORM",
    "@WASALLAM ISOLATED FORM|@SALLA ISOLATED FORM|ELLAHOU ALAYHE WASALLAM|@JALLAJALALOUHOU|0RIAL SIGN",
    "0ARABIC LIGATURE BISMILLAH AR-RAHMAN AR-RAHEEM|@SUBHAANAHU WA TAAALAA|@AZZA WA JALL"]),
  (0xfe10, ["0PRESENTATION FORM FOR VERTICAL COMMA|OIDEOGRAPHIC COMMA|[FULL STOP|OCOLON|OSEMICOLON",
    "OEXCLAMATION MARK|OQUESTION MARK|OLEFT WHITE LENTICULAR BRACKET|ORIGHT WHITE LENTICULAR BRAKCET",
    "OHORIZONTAL ELLIPSIS|||||||0COMBINING LIGATURE LEFT HALF|CRIGHT HALF|:DOUBLE TILDE LEFT HALF",
    "GRIGHT HALF|:MACRON LEFT HALF|ARIGHT HALF|:CONJOINING MACRON|:LIGATURE LEFT HALF BELOW",
    "CRIGHT HALF BELOW|:TILDE LEFT HALF BELOW|@RIGHT HALF BELOW|:MACRON LEFT HALF BELOW|ARIGHT HALF BELOW",
    ":CONJOINING MACRON BELOW|;YRILLIC TITLO LEFT HALF|IRIGHT HALF",
    "0PRESENTATION FORM FOR VERTICAL TWO DOT LEADER|OEM DASH|PN DASH|OLOW LINE|OWAVY LOW LINE",
    "OLEFT PARENTHESIS|ORIGHT PARENTHESIS|OLEFT CURLY BRACKET|ORIGHT CURLY BRACKET",
    "OLEFT TORTOISE SHELL BRACKET|ORIGHT TORTOISE SHELL BRACKET|OLEFT BLACK LENTICULAR BRACKET",
    "ORIGHT BLACK LENTICULAR BRACKET|OLEFT DOUBLE ANGLE BRACKET|ORIGHT DOUBLE ANGLE BRACKET",
    "OLEFT ANGLE BRACKET|ORIGHT ANGLE BRACKET|OLEFT CORNER BRACKET|ORIGHT CORNER BRACKET",
    "OLEFT WHITE CORNER BRACKET|ORIGHT WHITE CORNER BRACKET|0SESAME DOT|0WHITE SESAME DOT",
    "0PRESENTATION FORM FOR VERTICAL LEFT SQUARE BRACKET|ORIGHT SQUARE BRACKET|0DASHED OVERLINE",
    "0CENTRELINE OVERLINE|0WAVY OVERLINE|0DOUBLE WAVY OVERLINE|1ASHED LOW LINE|0CENTRELINE LOW LINE",
    "0WAVY LOW LINE|0SMALL COMMA|6IDEOGRAPHIC COMMA|6FULL STOP||6SEMICOLON|6COLON|6QUESTION MARK",
    "6EXCLAMATION MARK|7M DASH|6LEFT PARENTHESIS|6RIGHT PARENTHESIS|6LEFT CURLY BRACKET",
    "6RIGHT CURLY BRACKET|6LEFT TORTOISE SHELL BRACKET|6RIGHT TORTOISE SHELL BRACKET|6NUMBER SIGN",
    "6AMPERSAND|7STERISK|6PLUS SIGN|6HYPHEN-MINUS|6LESS-THAN SIGN|6GREATER-THAN SIGN|6EQUALS SIGN|",
    "6REVERSE SOLIDUS|6DOLLAR SIGN|6PERCENT SIGN|6COMMERCIAL AT|||||0ARABIC FATHATAN ISOLATED FORM",
    "7TATWEEL WITH FATHATAN ABOVE|7DAMMATAN ISOLATED FORM|7TAIL FRAGMENT|7KASRATAN ISOLATED FORM|",
    "7FATHA ISOLATED FORM|=MEDIAL FORM|7DAMMA ISOLATED FORM|=MEDIAL FORM|7KASRA ISOLATED FORM",
    "=MEDIAL FORM|7SHADDA ISOLATED FORM|>MEDIAL FORM|8UKUN ISOLATED FORM|=MEDIAL FORM",
    "7LETTER HAMZA ISOLATED FORM|>ALEF WITH MADDA ABOVE ISOLATED FORM|TFINAL FORM",
    "HHAMZA ABOVE ISOLATED FORM|TFINAL FORM|>WAW WITH HAMZA ABOVE ISOLATED FORM|SFINAL FORM",
    ">ALEF WITH HAMZA BELOW ISOLATED FORM|TFINAL FORM|>YEH WITH HAMZA ABOVE ISOLATED FORM|SFINAL FORM",
    "SINITIAL FORM|SMEDIAL FORM|>ALEF ISOLATED FORM|CFINAL FORM|>BEH ISOLATED FORM|BFINAL FORM",
    "BINITIAL FORM|BMEDIAL FORM|>TEH MARBUTA ISOLATED FORM|JFINAL FORM|BISOLATED FORM|BFINAL FORM",
    "BINITIAL FORM|BMEDIAL FORM|?HEH ISOLATED FORM|CFINAL FORM|CINITIAL FORM|CMEDIAL FORM",
    ">JEEM ISOLATED FORM|CFINAL FORM|CINITIAL FORM|CMEDIAL FORM|>HAH ISOLATED FORM|BFINAL FORM",
    "BINITIAL FORM|BMEDIAL FORM|>KHAH ISOLATED FORM|CFINAL FORM|CINITIAL FORM|CMEDIAL FORM",
    ">DAL ISOLATED FORM|BFINAL FORM|>THAL ISOLATED FORM|CFINAL FORM|>REH ISOLATED FORM|BFINAL FORM",
    ">ZAIN ISOLATED FORM|CFINAL FORM|>SEEN ISOLATED FORM|CFINAL FORM|CINITIAL FORM|CMEDIAL FORM",
    "?HEEN ISOLATED FORM|DFINAL FORM|DINITIAL FORM|DMEDIAL FORM|?AD ISOLATED FORM|BFINAL FORM",
    "BINITIAL FORM|BMEDIAL FORM|>DAD ISOLATED FORM|BFINAL FORM|BINITIAL FORM|BMEDIAL FORM",
    ">TAH ISOLATED FORM|BFINAL FORM|BINITIAL FORM|BMEDIAL FORM|>ZAH ISOLATED FORM|BFINAL FORM",
    "BINITIAL FORM|BMEDIAL FORM|>AIN ISOLATED FORM|BFINAL FORM|BINITIAL FORM|BMEDIAL FORM",
    ">GHAIN ISOLATED FORM|DFINAL FORM|DINITIAL FORM|DMEDIAL FORM|>FEH ISOLATED FORM|BFINAL FORM",
    "BINITIAL FORM|BMEDIAL FORM|>QAF ISOLATED FORM|BFINAL FORM|BINITIAL FORM|BMEDIAL FORM",
    ">KAF ISOLATED FORM|BFINAL FORM|BINITIAL FORM|BMEDIAL FORM|>LAM ISOLATED FORM|BFINAL FORM",
    "BINITIAL FORM|BMEDIAL FORM|>MEEM ISOLATED FORM|CFINAL FORM|CINITIAL FORM|CMEDIAL FORM",
    ">NOON ISOLATED FORM|CFINAL FORM|CINITIAL FORM|CMEDIAL FORM|>HEH ISOLATED FORM|BFINAL FORM",
    "BINITIAL FORM|BMEDIAL FORM|>WAW ISOLATED FORM|BFINAL FORM|>ALEF MAKSURA ISOLATED FORM|KFINAL FORM",
    ">YEH ISOLATED FORM|BFINAL FORM|BINITIAL FORM|BMEDIAL FORM",
    "8IGATURE LAM WITH ALEF WITH MADDA ABOVE ISOLATED FORM|_FINAL FORM|SHAMZA ABOVE ISOLATED FORM",
    "_FINAL FORM|YBELOW ISOLATED FORM|_FINAL FORM|NISOLATED FORM|NFINAL FORM|||0ZERO WIDTH NO-BREAK SPACE",
    "|0FULLWIDTH EXCLAMATION MARK|:QUOTATION MARK|:NUMBER SIGN|:DOLLAR SIGN|:PERCENT SIGN|:AMPERSAND",
    ";POSTROPHE|:LEFT PARENTHESIS|:RIGHT PARENTHESIS|:ASTERISK|:PLUS SIGN|:COMMA|:HYPHEN-MINUS|:FULL STOP",
    ":SOLIDUS|:DIGIT ZERO|@ONE|@TWO|AHREE|@FOUR|AIVE|@SIX|AEVEN|@EIGHT|@NINE|:COLON|:SEMICOLON",
    ":LESS-THAN SIGN|:EQUALS SIGN|:GREATER-THAN SIGN|:QUESTION MARK|:COMMERCIAL AT",
    ":LATIN CAPITAL LETTER A|OB|OC|OD|OE|OF|OG|OH|OI|OJ|OK|OL|OM|ON|OO|OP|OQ|OR|OS|OT|OU|OV|OW|OX|OY|OZ",
    ";EFT SQUARE BRACKET|:REVERSE SOLIDUS|;IGHT SQUARE BRACKET|:CIRCUMFLEX ACCENT|:LOW LINE|:GRAVE ACCENT",
    ":LATIN SMALL LETTER A|MB|MC|MD|ME|MF|MG|MH|MI|MJ|MK|ML|MM|MN|MO|MP|MQ|MR|MS|MT|MU|MV|MW|MX|MY|MZ",
    ";EFT CURLY BRACKET|:VERTICAL LINE|:RIGHT CURLY BRACKET|:TILDE|:LEFT WHITE PARENTHESIS",
    ":RIGHT WHITE PARENTHESIS|0HALFWIDTH IDEOGRAPHIC FULL STOP|:LEFT CORNER BRACKET|:RIGHT CORNER BRACKET",
    ":IDEOGRAPHIC COMMA|:KATAKANA MIDDLE DOT|CLETTER WO|JSMALL A|PI|PU|PE|PO|PYA|QU|QO|PTU",
    "B-HIRAGANA PROLONGED SOUND MARK|B LETTER A|JI|JU|JE|JO|JKA|KI|KU|KE|KO|JSA|KI|KU|KE|KO|JTA|KI|KU|KE",
    "KO|JNA|KI|KU|KE|KO|JHA|KI|KU|KE|KO|JMA|KI|KU|KE|KO|JYA|KU|KO|JRA|KI|KU|KE|KO|JWA|JN",
    "CVOICED SOUND MARK|CSEMI-VOICED SOUND MARK|:HANGUL FILLER|ALETTER KIYEOK|HSSANGKIYEOK|HKIYEOK-SIOS",
    "HNIEUN|M-CIEUC|NHIEUH|HTIKEUT|HSSANGTIKEUT|HRIEUL|M-KIYEOK|NMIEUM|NPIEUP|NSIOS|NTHIEUTH|NPHIEUPH",
    "NHIEUH|HMIEUM|HPIEUP|HSSANGPIEUP|HPIEUP-SIOS|HSIOS|ISANGSIOS|HIEUNG|HCIEUC|HSSANGCIEUC|HCHIEUCH",
    "HKHIEUKH|HTHIEUTH|HPHIEUPH|HHIEUH||||HA|IE|HYA|JE|HEO|HE|||HYEO|IE|HO|HWA|JE|HOE|||HYO|HU|HWEO|IE|II",
    "HYU|||HEU|HYI|HI||||0FULLWIDTH CENT SIGN|:POUND SIGN|:NOT SIGN|:MACRON|:BROKEN BAR|:YEN SIGN",
    ":WON SIGN||0HALFWIDTH FORMS LIGHT VERTICAL|:LEFTWARDS ARROW|:UPWARDS ARROW|:RIGHTWARDS ARROW",
    ":DOWNWARDS ARROW|:BLACK SQUARE|:WHITE CIRCLE"]),
  (0xfff9, ["0INTERLINEAR ANNOTATION ANCHOR|GSEPARATOR|GTERMINATOR|0OBJECT REPLACEMENT CHARACTER",
    "0REPLACEMENT CHARACTER"])]

end AccessorForge.Text.CharName.Forms

/-! Names of characters: phonetic letters and letters with marks. -/
namespace AccessorForge.Text.CharName.Phonetic

def runs : List (Nat × List String) := [
  (0x1d00, ["0LATIN LETTER SMALL CAPITAL A|LE|6SMALL LETTER TURNED AE|6LETTER SMALL CAPITAL BARRED B|KC|KD|KETH",
    "KE|6SMALL LETTER TURNED OPEN E|JI|6LETTER SMALL CAPITAL J|KK|KL WITH STROKE|KM|KREVERSED N|KO|LPEN O",
    "6SMALL LETTER SIDEWAYS O|MPEN O|M WITH STROKE|CTURNED OE|6LETTER SMALL CAPITAL OU",
    "6SMALL LETTER TOP HALF O|CBOTTOM HALF O|6LETTER SMALL CAPITAL P|KREVERSED R|KTURNED R|KT|KU",
    "6SMALL LETTER SIDEWAYS U|LDIAERESIZED U|LTURNED M|6LETTER SMALL CAPITAL V|KW|KZ|KEZH",
    "=VOICED LARYNGEAL SPIRANT|=AIN|0GREEK LETTER SMALL CAPITAL GAMMA|KLAMDA|KPI|KRHO|KPSI",
    "0CYRILLIC LETTER SMALL CAPITAL EL|0MODIFIER LETTER CAPITAL A|IE|HB|IARRED B|HD|HE|HREVERSED E|HG|HH",
    "HI|HJ|HK|HL|HM|HN|HREVERSED N|HO|IU|HP|HR|HT|HU|HW|@SMALL A|FTURNED A|FALPHA|FTURNED AE|FB|FD|FE",
    "FSCHWA|FOPEN E|FTURNED OPEN E|FG|FTURNED I|FK|FM|FENG|FO|GPEN O|FTOP HALF O|FBOTTOM HALF O|FP|FT|FU",
    "FSIDEWAYS U|FTURNED M|FV|FAIN|FBETA|FGREEK GAMMA|FDELTA|FGREEK PHI|FCHI",
    "0LATIN SUBSCRIPT SMALL LETTER I|MR|MU|MV|0GREEK SUBSCRIPT SMALL LETTER BETA|MGAMMA|MRHO|MPHI|MCHI",
    "0LATIN SMALL LETTER UE|CB WITH MIDDLE TILDE|CD WITH MIDDLE TILDE|CF WITH MIDDLE TILDE",
    "CM WITH MIDDLE TILDE|CN WITH MIDDLE TILDE|CP WITH MIDDLE TILDE|CR WITH MIDDLE TILDE",
    "JFISHHOOK AND MIDDLE TILDE|CS WITH MIDDLE TILDE|CT WITH MIDDLE TILDE|CZ WITH MIDDLE TILDE|CTURNED G",
    "0MODIFIER LETTER CYRILLIC EN|0LATIN SMALL LETTER INSULAR G|CTH WITH STRIKETHROUGH",
    "<CAPITAL LETTER I WITH STROKE|<LETTER IOTA WITH STROKE|CP WITH STROKE|<CAPITAL LETTER U WITH STROKE",
    "<LETTER UPSILON WITH STROKE|CB WITH PALATAL HOOK|CD WITH PALATAL HOOK|CF WITH PALATAL HOOK",
    "CG WITH PALATAL HOOK|CK WITH PALATAL HOOK|CL WITH PALATAL HOOK|CM WITH PALATAL HOOK",
    "CN WITH PALATAL HOOK|CP WITH PALATAL HOOK|CR WITH PALATAL HOOK|CS WITH PALATAL HOOK",
    "CESH WITH PALATAL HOOK|CV WITH PALATAL HOOK|CX WITH PALATAL HOOK|CZ WITH PALATAL HOOK",
    "CA WITH RETROFLEX HOOK|DLPHA WITH RETROFLEX HOOK|CD WITH HOOK AND TAIL|CE WITH RETROFLEX HOOK",
    "COPEN E WITH RETROFLEX HOOK|CREVERSED OPEN E WITH RETROFLEX HOOK|CSCHWA WITH RETROFLEX HOOK",
    "CI WITH RETROFLEX HOOK|COPEN O WITH RETROFLEX HOOK|CESH WITH RETROFLEX HOOK|CU WITH RETROFLEX HOOK",
    "CEZH WITH RETROFLEX HOOK|0MODIFIER LETTER SMALL TURNED ALPHA|FC|G WITH CURL|FETH|FREVERSED OPEN E|FF",
    "FDOTLESS J WITH STROKE|FSCRIPT G|FTURNED H|FI WITH STROKE|GOTA|FCAPITAL I|O WITH STROKE",
    "FJ WITH CROSSED-TAIL|FL WITH RETROFLEX HOOK|MPALATAL HOOK|FCAPITAL L|FM WITH HOOK",
    "FTURNED M WITH LONG LEG|FN WITH LEFT HOOK|MRETROFLEX HOOK|FCAPITAL N|FBARRED O|FPHI|FS WITH HOOK",
    "FESH|FT WITH PALATAL HOOK|FU BAR|GPSILON|FCAPITAL U|FV WITH HOOK|FTURNED V|FZ|G WITH RETROFLEX HOOK",
    "MCURL|FEZH|FTHETA|0COMBINING DOTTED GRAVE ACCENT|AACUTE ACCENT|:SNAKE BELOW|;USPENSION MARK",
    ":MACRON-ACUTE|:GRAVE-MACRON|:MACRON-GRAVE|:ACUTE-MACRON|:GRAVE-ACUTE-GRAVE|:ACUTE-GRAVE-ACUTE",
    ":LATIN SMALL LETTER R BELOW|:BREVE-MACRON|:MACRON-BREVE|:DOUBLE CIRCUMFLEX ABOVE|:OGONEK ABOVE",
    ":ZIGZAG BELOW|:IS BELOW|:UR ABOVE|;S ABOVE|:LATIN SMALL LETTER FLATTENED OPEN A ABOVE|MAE|NO|NV",
    "MC CEDILLA|MINSULAR D|METH|MG|@LETTER SMALL CAPITAL G|@SMALL LETTER K|ML|@LETTER SMALL CAPITAL L|UM",
    "@SMALL LETTER N|@LETTER SMALL CAPITAL N|UR|@SMALL LETTER R ROTUNDA|MS|MLONG S|MZ|MALPHA|MB|NETA",
    "MSCHWA|MF|ML WITH DOUBLE MIDDLE TILDE|MO WITH LIGHT CENTRALIZATION STROKE|MP|MESH",
    "MU WITH LIGHT CENTRALIZATION STROKE|MW|MA WITH DIAERESIS|MO WITH DIAERESIS|MU WITH DIAERESIS",
    ":UP TACK ABOVE|:KAVYKA ABOVE RIGHT|GLEFT|:DOT ABOVE LEFT|:WIDE INVERTED BRIDGE BELOW|:DOT BELOW LEFT",
    ";ELETION MARK|;OUBLE INVERTED BREVE BELOW|:ALMOST EQUAL TO BELOW|:LEFT ARROWHEAD ABOVE",
    ":RIGHT ARROWHEAD AND DOWN ARROWHEAD BELOW|0LATIN CAPITAL LETTER A WITH RING BELOW",
    "6SMALL LETTER A WITH RING BELOW|6CAPITAL LETTER B WITH DOT ABOVE|6SMALL LETTER B WITH DOT ABOVE",
    "6CAPITAL LETTER B WITH DOT BELOW|6SMALL LETTER B WITH DOT BELOW|6CAPITAL LETTER B WITH LINE BELOW",
    "6SMALL LETTER B WITH LINE BELOW|6CAPITAL LETTER C WITH CEDILLA AND ACUTE",
    "6SMALL LETTER C WITH CEDILLA AND ACUTE|6CAPITAL LETTER D WITH DOT ABOVE",
    "6SMALL LETTER D WITH DOT ABOVE|6CAPITAL LETTER D WITH DOT BELOW|6SMALL LETTER D WITH DOT BELOW",
    "6CAPITAL LETTER D WITH LINE BELOW|6SMALL LETTER D WITH LINE BELOW|6CAPITAL LETTER D WITH CEDILLA",
    "6SMALL LETTER D WITH CEDILLA|6CAPITAL LETTER D WITH CIRCUMFLEX BELOW",
    "6SMALL LETTER D WITH CIRCUMFLEX BELOW|6CAPITAL LETTER E WITH MACRON AND GRAVE",
    "6SMALL LETTER E WITH MACRON AND GRAVE|6CAPITAL LETTER E WITH MACRON AND ACUTE",
    "6SMALL LETTER E WITH MACRON AND ACUTE|6CAPITAL LETTER E WITH CIRCUMFLEX BELOW",
    "6SMALL LETTER E WITH CIRCUMFLEX BELOW|6CAPITAL LETTER E WITH TILDE BELOW",
    "6SMALL LETTER E WITH TILDE BELOW|6CAPITAL LETTER E WITH CEDILLA AND BREVE",
    "6SMALL LETTER E WITH CEDILLA AND BREVE|6CAPITAL LETTER F WITH DOT ABOVE",
    "6SMALL LETTER F WITH DOT ABOVE|6CAPITAL LETTER G WITH MACRON|6SMALL LETTER G WITH MACRON",
    "6CAPITAL LETTER H WITH DOT ABOVE|6SMALL LETTER H WITH DOT ABOVE|6CAPITAL LETTER H WITH DOT BELOW",
    "6SMALL LETTER H WITH DOT BELOW|6CAPITAL LETTER H WITH DIAERESIS|6SMALL LETTER H WITH DIAERESIS",
    "6CAPITAL LETTER H WITH CEDILLA|6SMALL LETTER H WITH CEDILLA|6CAPITAL LETTER H WITH BREVE BELOW",
    "6SMALL LETTER H WITH BREVE BELOW|6CAPITAL LETTER I WITH TILDE BELOW|6SMALL LETTER I WITH TILDE BELOW",
    "6CAPITAL LETTER I WITH DIAERESIS AND ACUTE|6SMALL LETTER I WITH DIAERESIS AND ACUTE",
    "6CAPITAL LETTER K WITH ACUTE|6SMALL LETTER K WITH ACUTE|6CAPITAL LETTER K WITH DOT BELOW",
    "6SMALL LETTER K WITH DOT BELOW|6CAPITAL LETTER K WITH LINE BELOW|6SMALL LETTER K WITH LINE BELOW",
    "6CAPITAL LETTER L WITH DOT BELOW|6SMALL LETTER L WITH DOT BELOW",
    "6CAPITAL LETTER L WITH DOT BELOW AND MACRON|6SMALL LETTER L WITH DOT BELOW AND MACRON",
    "6CAPITAL LETTER L WITH LINE BELOW|6SMALL LETTER L WITH LINE BELOW",
    "6CAPITAL LETTER L WITH CIRCUMFLEX BELOW|6SMALL LETTER L WITH CIRCUMFLEX BELOW",
    "6CAPITAL LETTER M WITH ACUTE|6SMALL LETTER M WITH ACUTE|6CAPITAL LETTER M WITH DOT ABOVE",
    "6SMALL LETTER M WITH DOT ABOVE|6CAPITAL LETTER M WITH DOT BELOW|6SMALL LETTER M WITH DOT BELOW",
    "6CAPITAL LETTER N WITH DOT ABOVE|6SMALL LETTER N WITH DOT ABOVE|6CAPITAL LETTER N WITH DOT BELOW",
    "6SMALL LETTER N WITH DOT BELOW|6CAPITAL LETTER N WITH LINE BELOW|6SMALL LETTER N WITH LINE BELOW",
    "6CAPITAL LETTER N WITH CIRCUMFLEX BELOW|6SMALL LETTER N WITH CIRCUMFLEX BELOW",
    "6CAPITAL LETTER O WITH TILDE AND ACUTE|6SMALL LETTER O WITH TILDE AND ACUTE",
    "6CAPITAL LETTER O WITH TILDE AND DIAERESIS|6SMALL LETTER O WITH TILDE AND DIAERESIS",
    "6CAPITAL LETTER O WITH MACRON AND GRAVE|6SMALL LETTER O WITH MACRON AND GRAVE",
    "6CAPITAL LETTER O WITH MACRON AND ACUTE|6SMALL LETTER O WITH MACRON AND ACUTE",
    "6CAPITAL LETTER P WITH ACUTE|6SMALL LETTER P WITH ACUTE|6CAPITAL LETTER P WITH DOT ABOVE",
    "6SMALL LETTER P WITH DOT ABOVE|6CAPITAL LETTER R WITH DOT ABOVE|6SMALL LETTER R WITH DOT ABOVE",
    "6CAPITAL LETTER R WITH DOT BELOW|6SMALL LETTER R WITH DOT BELOW",
    "6CAPITAL LETTER R WITH DOT BELOW AND MACRON|6SMALL LETTER R WITH DOT BELOW AND MACRON",
    "6CAPITAL LETTER R WITH LINE BELOW|6SMALL LETTER R WITH LINE BELOW|6CAPITAL LETTER S WITH DOT ABOVE",
    "6SMALL LETTER S WITH DOT ABOVE|6CAPITAL LETTER S WITH DOT BELOW|6SMALL LETTER S WITH DOT BELOW",
    "6CAPITAL LETTER S WITH ACUTE AND DOT ABOVE|6SMALL LETTER S WITH ACUTE AND DOT ABOVE",
    "6CAPITAL LETTER S WITH CARON AND DOT ABOVE|6SMALL LETTER S WITH CARON AND DOT ABOVE",
    "6CAPITAL LETTER S WITH DOT BELOW AND DOT ABOVE|6SMALL LETTER S WITH DOT BELOW AND DOT ABOVE",
    "6CAPITAL LETTER T WITH DOT ABOVE|6SMALL LETTER T WITH DOT ABOVE|6CAPITAL LETTER T WITH DOT BELOW",
    "6SMALL LETTER T WITH DOT BELOW|6CAPITAL LETTER T WITH LINE BELOW|6SMALL LETTER T WITH LINE BELOW",
    "6CAPITAL LETTER T WITH CIRCUMFLEX BELOW|6SMALL LETTER T WITH CIRCUMFLEX BELOW",
    "6CAPITAL LETTER U WITH DIAERESIS BELOW|6SMALL LETTER U WITH DIAERESIS BELOW",
    "6CAPITAL LETTER U WITH TILDE BELOW|6SMALL LETTER U WITH TILDE BELOW",
    "6CAPITAL LETTER U WITH CIRCUMFLEX BELOW|6SMALL LETTER U WITH CIRCUMFLEX BELOW",
    "6CAPITAL LETTER U WITH TILDE AND ACUTE|6SMALL LETTER U WITH TILDE AND ACUTE",
    "6CAPITAL LETTER U WITH MACRON AND DIAERESIS|6SMALL LETTER U WITH MACRON AND DIAERESIS",
    "6CAPITAL LETTER V WITH TILDE|6SMALL LETTER V WITH TILDE|6CAPITAL LETTER V WITH DOT BELOW",
    "6SMALL LETTER V WITH DOT BELOW|6CAPITAL LETTER W WITH GRAVE|6SMALL LETTER W WITH GRAVE",
    "6CAPITAL LETTER W WITH ACUTE|6SMALL LETTER W WITH ACUTE|6CAPITAL LETTER W WITH DIAERESIS",
    "6SMALL LETTER W WITH DIAERESIS|6CAPITAL LETTER W WITH DOT ABOVE|6SMALL LETTER W WITH DOT ABOVE",
    "6CAPITAL LETTER W WITH DOT BELOW|6SMALL LETTER W WITH DOT BELOW|6CAPITAL LETTER X WITH DOT ABOVE",
    "6SMALL LETTER X WITH DOT ABOVE|6CAPITAL LETTER X WITH DIAERESIS|6SMALL LETTER X WITH DIAERESIS",
    "6CAPITAL LETTER Y WITH DOT ABOVE|6SMALL LETTER Y WITH DOT ABOVE|6CAPITAL LETTER Z WITH CIRCUMFLEX",
    "6SMALL LETTER Z WITH CIRCUMFLEX|6CAPITAL LETTER Z WITH DOT BELOW|6SMALL LETTER Z WITH DOT BELOW",
    "6CAPITAL LETTER Z WITH LINE BELOW|6SMALL LETTER Z WITH LINE BELOW|CH WITH LINE BELOW",
    "CT WITH DIAERESIS|CW WITH RING ABOVE|CY WITH RING ABOVE|CA WITH RIGHT HALF RING",
    "CLONG S WITH DOT ABOVE|PIAGONAL STROKE|OHIGH STROKE|6CAPITAL LETTER SHARP S|6SMALL LETTER DELTA",
    "6CAPITAL LETTER A WITH DOT BELOW|6SMALL LETTER A WITH DOT BELOW|6CAPITAL LETTER A WITH HOOK ABOVE",
    "6SMALL LETTER A WITH HOOK ABOVE|6CAPITAL LETTER A WITH CIRCUMFLEX AND ACUTE",
    "6SMALL LETTER A WITH CIRCUMFLEX AND ACUTE|6CAPITAL LETTER A WITH CIRCUMFLEX AND GRAVE",
    "6SMALL LETTER A WITH CIRCUMFLEX AND GRAVE|6CAPITAL LETTER A WITH CIRCUMFLEX AND HOOK ABOVE",
    "6SMALL LETTER A WITH CIRCUMFLEX AND HOOK ABOVE|6CAPITAL LETTER A WITH CIRCUMFLEX AND TILDE",
    "6SMALL LETTER A WITH CIRCUMFLEX AND TILDE|6CAPITAL LETTER A WITH CIRCUMFLEX AND DOT BELOW",
    "6SMALL LETTER A WITH CIRCUMFLEX AND DOT BELOW|6CAPITAL LETTER A WITH BREVE AND ACUTE",
    "6SMALL LETTER A WITH BREVE AND ACUTE|6CAPITAL LETTER A WITH BREVE AND GRAVE",
    "6SMALL LETTER A WITH BREVE AND GRAVE|6CAPITAL LETTER A WITH BREVE AND HOOK ABOVE",
    "6SMALL LETTER A WITH BREVE AND HOOK ABOVE|6CAPITAL LETTER A WITH BREVE AND TILDE",
    "6SMALL LETTER A WITH BREVE AND TILDE|6CAPITAL LETTER A WITH BREVE AND DOT BELOW",
    "6SMALL LETTER A WITH BREVE AND DOT BELOW|6CAPITAL LETTER E WITH DOT BELOW",
    "6SMALL LETTER E WITH DOT BELOW|6CAPITAL LETTER E WITH HOOK ABOVE|6SMALL LETTER E WITH HOOK ABOVE",
    "6CAPITAL LETTER E WITH TILDE|6SMALL LETTER E WITH TILDE|6CAPITAL LETTER E WITH CIRCUMFLEX AND ACUTE",
    "6SMALL LETTER E WITH CIRCUMFLEX AND ACUTE|6CAPITAL LETTER E WITH CIRCUMFLEX AND GRAVE",
    "6SMALL LETTER E WITH CIRCUMFLEX AND GRAVE|6CAPITAL LETTER E WITH CIRCUMFLEX AND HOOK ABOVE",
    "6SMALL LETTER E WITH CIRCUMFLEX AND HOOK ABOVE|6CAPITAL LETTER E WITH CIRCUMFLEX AND TILDE",
    "6SMALL LETTER E WITH CIRCUMFLEX AND TILDE|6CAPITAL LETTER E WITH CIRCUMFLEX AND DOT BELOW",
    "6SMALL LETTER E WITH CIRCUMFLEX AND DOT BELOW|6CAPITAL LETTER I WITH HOOK ABOVE",
    "6SMALL LETTER I WITH HOOK ABOVE|6CAPITAL LETTER I WITH DOT BELOW|6SMALL LETTER I WITH DOT BELOW",
    "6CAPITAL LETTER O WITH DOT BELOW|6SMALL LETTER O WITH DOT BELOW|6CAPITAL LETTER O WITH HOOK ABOVE",
    "6SMALL LETTER O WITH HOOK ABOVE|6CAPITAL LETTER O WITH CIRCUMFLEX AND ACUTE",
    "6SMALL LETTER O WITH CIRCUMFLEX AND ACUTE|6CAPITAL LETTER O WITH CIRCUMFLEX AND GRAVE",
    "6SMALL LETTER O WITH CIRCUMFLEX AND GRAVE|6CAPITAL LETTER O WITH CIRCUMFLEX AND HOOK ABOVE",
    "6SMALL LETTER O WITH CIRCUMFLEX AND HOOK ABOVE|6CAPITAL LETTER O WITH CIRCUMFLEX AND TILDE",
    "6SMALL LETTER O WITH CIRCUMFLEX AND TILDE|6CAPITAL LETTER O WITH CIRCUMFLEX AND DOT BELOW",
    "6SMALL LETTER O WITH CIRCUMFLEX AND DOT BELOW|6CAPITAL LETTER O WITH HORN AND ACUTE",
    "6SMALL LETTER O WITH HORN AND ACUTE|6CAPITAL LETTER O WITH HORN AND GRAVE",
    "6SMALL LETTER O WITH HORN AND GRAVE|6CAPITAL LETTER O WITH HORN AND HOOK ABOVE",
    "6SMALL LETTER O WITH HORN AND HOOK ABOVE|6CAPITAL LETTER O WITH HORN AND TILDE",
    "6SMALL LETTER O WITH HORN AND TILDE|6CAPITAL LETTER O WITH HORN AND DOT BELOW",
    "6SMALL LETTER O WITH HORN AND DOT BELOW|6CAPITAL LETTER U WITH DOT BELOW",
    "6SMALL LETTER U WITH DOT BELOW|6CAPITAL LETTER U WITH HOOK ABOVE|6SMALL LETTER U WITH HOOK ABOVE",
    "6CAPITAL LETTER U WITH HORN AND ACUTE|6SMALL LETTER U WITH HORN AND ACUTE",
    "6CAPITAL LETTER U WITH HORN AND GRAVE|6SMALL LETTER U WITH HORN AND GRAVE",
    "6CAPITAL LETTER U WITH HORN AND HOOK ABOVE|6SMALL LETTER U WITH HORN AND HOOK ABOVE",
    "6CAPITAL LETTER U WITH HORN AND TILDE|6SMALL LETTER U WITH HORN AND TILDE",
    "6CAPITAL LETTER U WITH HORN AND DOT BELOW|6SMALL LETTER U WITH HORN AND DOT BELOW",
    "6CAPITAL LETTER Y WITH GRAVE|6SMALL LETTER Y WITH GRAVE|6CAPITAL LETTER Y WITH DOT BELOW",
    "6SMALL LETTER Y WITH DOT BELOW|6CAPITAL LETTER Y WITH HOOK ABOVE|6SMALL LETTER Y WITH HOOK ABOVE",
    "6CAPITAL LETTER Y WITH TILDE|6SMALL LETTER Y WITH TILDE|6CAPITAL LETTER MIDDLE-WELSH LL",
    "6SMALL LETTER MIDDLE-WELSH LL|6CAPITAL LETTER MIDDLE-WELSH V|6SMALL LETTER MIDDLE-WELSH V",
    "6CAPITAL LETTER Y WITH LOOP|6SMALL LETTER Y WITH LOOP|0GREEK SMALL LETTER ALPHA WITH PSILI|NDASIA",
    "NPSILI AND VARIA|NDASIA AND VARIA|NPSILI AND OXIA|NDASIA AND OXIA|NPSILI AND PERISPOMENI",
    "NDASIA AND PERISPOMENI|6CAPITAL LETTER ALPHA WITH PSILI|PDASIA|PPSILI AND VARIA|PDASIA AND VARIA",
    "PPSILI AND OXIA|PDASIA AND OXIA|PPSILI AND PERISPOMENI|PDASIA AND PERISPOMENI",
    "6SMALL LETTER EPSILON WITH PSILI|PDASIA|PPSILI AND VARIA|PDASIA AND VARIA|PPSILI AND OXIA",
    "PDASIA AND OXIA|||6CAPITAL LETTER EPSILON WITH PSILI|RDASIA|RPSILI AND VARIA|RDASIA AND VARIA",
    "RPSILI AND OXIA|RDASIA AND OXIA|||6SMALL LETTER ETA WITH PSILI|LDASIA|LPSILI AND VARIA",
    "LDASIA AND VARIA|LPSILI AND OXIA|LDASIA AND OXIA|LPSILI AND PERISPOMENI|LDASIA AND PERISPOMENI",
    "6CAPITAL LETTER ETA WITH PSILI|NDASIA|NPSILI AND VARIA|NDASIA AND VARIA|NPSILI AND OXIA",
    "NDASIA AND OXIA|NPSILI AND PERISPOMENI|NDASIA AND PERISPOMENI|6SMALL LETTER IOTA WITH PSILI|MDASIA",
    "MPSILI AND VARIA|MDASIA AND VARIA|MPSILI AND OXIA|MDASIA AND OXIA|MPSILI AND PERISPOMENI",
    "MDASIA AND PERISPOMENI|6CAPITAL LETTER IOTA WITH PSILI|ODASIA|OPSILI AND VARIA|ODASIA AND VARIA",
    "OPSILI AND OXIA|ODASIA AND OXIA|OPSILI AND PERISPOMENI|ODASIA AND PERISPOMENI",
    "6SMALL LETTER OMICRON WITH PSILI|PDASIA|PPSILI AND VARIA|PDASIA AND VARIA|PPSILI AND OXIA",
    "PDASIA AND OXIA|||6CAPITAL LETTER OMICRON WITH PSILI|RDASIA|RPSILI AND VARIA|RDASIA AND VARIA",
    "RPSILI AND OXIA|RDASIA AND OXIA|||6SMALL LETTER UPSILON WITH PSILI|PDASIA|PPSILI AND VARIA",
    "PDASIA AND VARIA|PPSILI AND OXIA|PDASIA AND OXIA|PPSILI AND PERISPOMENI|PDASIA AND PERISPOMENI|",
    "6CAPITAL LETTER UPSILON WITH DASIA||W AND VARIA||[ OXIA||[ PERISPOMENI",
    "6SMALL LETTER OMEGA WITH PSILI|NDASIA|NPSILI AND VARIA|NDASIA AND VARIA|NPSILI AND OXIA",
    "NDASIA AND OXIA|NPSILI AND PERISPOMENI|NDASIA AND PERISPOMENI|6CAPITAL LETTER OMEGA WITH PSILI",
    "PDASIA|PPSILI AND VARIA|PDASIA AND VARIA|PPSILI AND OXIA|PDASIA AND OXIA|PPSILI AND PERISPOMENI",
    "PDASIA AND PERISPOMENI|6SMALL LETTER ALPHA WITH VARIA|NOXIA|CEPSILON WITH VARIA|POXIA|DTA WITH VARIA",
    "LOXIA|CIOTA WITH VARIA|MOXIA|COMICRON WITH VARIA|POXIA|CUPSILON WITH VARIA|POXIA|COMEGA WITH VARIA",
    "NOXIA|||CALPHA WITH PSILI AND YPOGEGRAMMENI|NDASIA AND YPOGEGRAMMENI",
    "NPSILI AND VARIA AND YPOGEGRAMMENI|NDASIA AND VARIA AND YPOGEGRAMMENI",
    "NPSILI AND OXIA AND YPOGEGRAMMENI|NDASIA AND OXIA AND YPOGEGRAMMENI",
    "NPSILI AND PERISPOMENI AND YPOGEGRAMMENI|NDASIA AND PERISPOMENI AND YPOGEGRAMMENI",
    "6CAPITAL LETTER ALPHA WITH PSILI AND PROSGEGRAMMENI|PDASIA AND PROSGEGRAMMENI",
    "PPSILI AND VARIA AND PROSGEGRAMMENI|PDASIA AND VARIA AND PROSGEGRAMMENI",
    "PPSILI AND OXIA AND PROSGEGRAMMENI|PDASIA AND OXIA AND PROSGEGRAMMENI",
    "PPSILI AND PERISPOMENI AND PROSGEGRAMMENI|PDASIA AND PERISPOMENI AND PROSGEGRAMMENI",
    "6SMALL LETTER ETA WITH PSILI AND YPOGEGRAMMENI|LDASIA AND YPOGEGRAMMENI",
    "LPSILI AND VARIA AND YPOGEGRAMMENI|LDASIA AND VARIA AND YPOGEGRAMMENI",
    "LPSILI AND OXIA AND YPOGEGRAMMENI|LDASIA AND OXIA AND YPOGEGRAMMENI",
    "LPSILI AND PERISPOMENI AND YPOGEGRAMMENI|LDASIA AND PERISPOMENI AND YPOGEGRAMMENI",
    "6CAPITAL LETTER ETA WITH PSILI AND PROSGEGRAMMENI|NDASIA AND PROSGEGRAMMENI",
    "NPSILI AND VARIA AND PROSGEGRAMMENI|NDASIA AND VARIA AND PROSGEGRAMMENI",
    "NPSILI AND OXIA AND PROSGEGRAMMENI|NDASIA AND OXIA AND PROSGEGRAMMENI",
    "NPSILI AND PERISPOMENI AND PROSGEGRAMMENI|NDASIA AND PERISPOMENI AND PROSGEGRAMMENI",
    "6SMALL LETTER OMEGA WITH PSILI AND YPOGEGRAMMENI|NDASIA AND YPOGEGRAMMENI",
    "NPSILI AND VARIA AND YPOGEGRAMMENI|NDASIA AND VARIA AND YPOGEGRAMMENI",
    "NPSILI AND OXIA AND YPOGEGRAMMENI|NDASIA AND OXIA AND YPOGEGRAMMENI",
    "NPSILI AND PERISPOMENI AND YPOGEGRAMMENI|NDASIA AND PERISPOMENI AND YPOGEGRAMMENI",
    "6CAPITAL LETTER OMEGA WITH PSILI AND PROSGEGRAMMENI|PDASIA AND PROSGEGRAMMENI",
    "PPSILI AND VARIA AND PROSGEGRAMMENI|PDASIA AND VARIA AND PROSGEGRAMMENI",
    "PPSILI AND OXIA AND PROSGEGRAMMENI|PDASIA AND OXIA AND PROSGEGRAMMENI",
    "PPSILI AND PERISPOMENI AND PROSGEGRAMMENI|PDASIA AND PERISPOMENI AND PROSGEGRAMMENI",
    "6SMALL LETTER ALPHA WITH VRACHY|NMACRON|NVARIA AND YPOGEGRAMMENI|NYPOGEGRAMMENI",
    "NOXIA AND YPOGEGRAMMENI||NPERISPOMENI|Y AND YPOGEGRAMMENI|6CAPITAL LETTER ALPHA WITH VRACHY|PMACRON",
    "PVARIA|POXIA|PPROSGEGRAMMENI|6KORONIS|6PROSGEGRAMMENI|7SILI|7ERISPOMENI|6DIALYTIKA AND PERISPOMENI",
    "6SMALL LETTER ETA WITH VARIA AND YPOGEGRAMMENI|LYPOGEGRAMMENI|LOXIA AND YPOGEGRAMMENI||LPERISPOMENI",
    "W AND YPOGEGRAMMENI|6CAPITAL LETTER EPSILON WITH VARIA|ROXIA|FTA WITH VARIA|NOXIA|NPROSGEGRAMMENI",
    "6PSILI AND VARIA|@OXIA|@PERISPOMENI|6SMALL LETTER IOTA WITH VRACHY|MMACRON|MDIALYTIKA AND VARIA",
    "[OXIA|||MPERISPOMENI|MDIALYTIKA AND PERISPOMENI|6CAPITAL LETTER IOTA WITH VRACHY|OMACRON|OVARIA",
    "OOXIA||6DASIA AND VARIA|@OXIA|@PERISPOMENI|6SMALL LETTER UPSILON WITH VRACHY|PMACRON",
    "PDIALYTIKA AND VARIA|^OXIA|CRHO WITH PSILI|LDASIA|CUPSILON WITH PERISPOMENI",
    "PDIALYTIKA AND PERISPOMENI|6CAPITAL LETTER UPSILON WITH VRACHY|RMACRON|RVARIA|ROXIA|ERHO WITH DASIA",
    "6DIALYTIKA AND VARIA|DOXIA|6VARIA|||6SMALL LETTER OMEGA WITH VARIA AND YPOGEGRAMMENI|NYPOGEGRAMMENI",
    "NOXIA AND YPOGEGRAMMENI||NPERISPOMENI|Y AND YPOGEGRAMMENI|6CAPITAL LETTER OMICRON WITH VARIA|ROXIA",
    "GEGA WITH VARIA|POXIA|PPROSGEGRAMMENI|6OXIA|6DASIA"])]

end AccessorForge.Text.CharName.Phonetic

import JobHerald.Unicode.Category

/-!
# Names of code points

Marks, spaces, ends of lines and format characters cannot be shown by themselves, and
are named instead.  The table of names is written as entries with semicolons between
them: the distance from the code point before, how many words of the name before are
kept, and the words that follow.

## Main definitions

* `Unicode.name?` — the name of a code point that cannot be shown.
* `Unicode.codeName` — the name made from the number.
-/

namespace JobHerald.Unicode

/-! ### Table -/

/-- The names. -/
def nameTable : List String :=
  ["20 0 SPACE;80 0 NO-BREAK SPACE;d 0 SOFT HYPHEN;253 0 COMBINING GRAVE ACCENT",
   "1 1 ACUTE ACCENT;1 1 CIRCUMFLEX ACCENT;1 1 TILDE;1 1 MACRON;1 1 OVERLINE;1 1 BREVE",
   "1 1 DOT ABOVE;1 1 DIAERESIS;1 1 HOOK ABOVE;1 1 RING ABOVE;1 1 DOUBLE ACUTE ACCENT",
   "1 1 CARON;1 1 VERTICAL LINE ABOVE;1 1 DOUBLE VERTICAL LINE ABOVE;1 2 GRAVE ACCENT",
   "1 1 CANDRABINDU;1 1 INVERTED BREVE;1 1 TURNED COMMA ABOVE;1 1 COMMA ABOVE",
   "1 1 REVERSED COMMA ABOVE;1 1 COMMA ABOVE RIGHT;1 1 GRAVE ACCENT BELOW",
   "1 1 ACUTE ACCENT BELOW;1 1 LEFT TACK BELOW;1 1 RIGHT TACK BELOW;1 1 LEFT ANGLE ABOVE",
   "1 1 HORN;1 1 LEFT HALF RING BELOW;1 1 UP TACK BELOW;1 1 DOWN TACK BELOW",
   "1 1 PLUS SIGN BELOW;1 1 MINUS SIGN BELOW;1 1 PALATALIZED HOOK BELOW",
   "1 1 RETROFLEX HOOK BELOW;1 1 DOT BELOW;1 1 DIAERESIS BELOW;1 1 RING BELOW;1 1 COMMA BELOW",
   "1 1 CEDILLA;1 1 OGONEK;1 1 VERTICAL LINE BELOW;1 1 BRIDGE BELOW",
   "1 1 INVERTED DOUBLE ARCH BELOW;1 1 CARON BELOW;1 1 CIRCUMFLEX ACCENT BELOW",
   "1 1 BREVE BELOW;1 1 INVERTED BREVE BELOW;1 1 TILDE BELOW;1 1 MACRON BELOW;1 1 LOW LINE",
   "1 1 DOUBLE LOW LINE;1 1 TILDE OVERLAY;1 1 SHORT STROKE OVERLAY;1 1 LONG STROKE OVERLAY",
   "1 1 SHORT SOLIDUS OVERLAY;1 1 LONG SOLIDUS OVERLAY;1 1 RIGHT HALF RING BELOW",
   "1 1 INVERTED BRIDGE BELOW;1 1 SQUARE BELOW;1 1 SEAGULL BELOW;1 1 X ABOVE",
   "1 1 VERTICAL TILDE;1 1 DOUBLE OVERLINE;1 1 GRAVE TONE MARK;1 1 ACUTE TONE MARK",
   "1 1 GREEK PERISPOMENI;1 2 KORONIS;1 2 DIALYTIKA TONOS;1 2 YPOGEGRAMMENI;1 1 BRIDGE ABOVE",
   "1 1 EQUALS SIGN BELOW;1 1 DOUBLE VERTICAL LINE BELOW;1 1 LEFT ANGLE BELOW",
   "1 1 NOT TILDE ABOVE;1 1 HOMOTHETIC ABOVE;1 1 ALMOST EQUAL TO ABOVE",
   "1 1 LEFT RIGHT ARROW BELOW;1 1 UPWARDS ARROW BELOW;1 1 GRAPHEME JOINER",
   "1 1 RIGHT ARROWHEAD ABOVE;1 1 LEFT HALF RING ABOVE;1 1 FERMATA;1 1 X BELOW",
   "1 1 LEFT ARROWHEAD BELOW;1 1 RIGHT ARROWHEAD BELOW;1 3 AND UP ARROWHEAD BELOW",
   "1 2 HALF RING ABOVE;1 1 DOT ABOVE RIGHT;1 1 ASTERISK BELOW;1 1 DOUBLE RING BELOW",
   "1 1 ZIGZAG ABOVE;1 1 DOUBLE BREVE BELOW;1 3;1 2 MACRON;1 3 BELOW;1 2 TILDE",
   "1 2 INVERTED BREVE;1 2 RIGHTWARDS ARROW BELOW;1 1 LATIN SMALL LETTER A;1 4 E;1 4 I;1 4 O",
   "1 4 U;1 4 C;1 4 D;1 4 H;1 4 M;1 4 R;1 4 T;1 4 V;1 4 X;114 1 CYRILLIC TITLO",
   "1 2 PALATALIZATION;1 2 DASIA PNEUMATA;1 2 PSILI PNEUMATA;1 2 POKRYTIE",
   "1 2 HUNDRED THOUSANDS SIGN;1 2 MILLIONS SIGN;108 0 HEBREW ACCENT ETNAHTA;1 2 SEGOL",
   "1 2 SHALSHELET;1 2 ZAQEF QATAN;1 3 GADOL;1 2 TIPEHA;1 2 REVIA;1 2 ZARQA;1 2 PASHTA",
   "1 2 YETIV;1 2 TEVIR;1 2 GERESH;1 3 MUQDAM;1 2 GERSHAYIM;1 2 QARNEY PARA",
   "1 2 TELISHA GEDOLA;1 2 PAZER;1 2 ATNAH HAFUKH;1 2 MUNAH;1 2 MAHAPAKH;1 2 MERKHA",
   "1 3 KEFULA;1 2 DARGA;1 2 QADMA;1 2 TELISHA QETANA;1 2 YERAH BEN YOMO;1 2 OLE;1 2 ILUY",
   "1 2 DEHI;1 2 ZINOR;1 1 MARK MASORA CIRCLE;1 1 POINT SHEVA;1 2 HATAF SEGOL;1 3 PATAH",
   "1 3 QAMATS;1 2 HIRIQ;1 2 TSERE;1 2 SEGOL;1 2 PATAH;1 2 QAMATS;1 2 HOLAM;1 3 HASER FOR VAV",
   "1 2 QUBUTS;1 2 DAGESH OR MAPIQ;1 2 METEG;2 2 RAFE;2 2 SHIN DOT;1 2 SIN DOT",
   "2 1 MARK UPPER DOT;1 2 LOWER DOT;2 1 POINT QAMATS QATAN;39 0 ARABIC NUMBER SIGN",
   "1 1 SIGN SANAH;1 1 FOOTNOTE MARKER;1 1 SIGN SAFHA;1 2 SAMVAT;1 1 NUMBER MARK ABOVE",
   "b 1 SIGN SALLALLAHOU ALAYHE WASSALLAM;1 2 ALAYHE ASSALLAM;1 2 RAHMATULLAH ALAYHE",
   "1 2 RADI ALLAHOU ANHU;1 2 TAKHALLUS;1 1 SMALL HIGH TAH",
   "1 3 LIGATURE ALEF WITH LAM WITH YEH;1 3 ZAIN;1 2 FATHA;1 2 DAMMA;1 2 KASRA",
   "2 1 LETTER MARK;2f 1 FATHATAN;1 1 DAMMATAN;1 1 KASRATAN;1 1 FATHA;1 1 DAMMA;1 1 KASRA",
   "1 1 SHADDA;1 1 SUKUN;1 1 MADDAH ABOVE;1 1 HAMZA ABOVE;1 2 BELOW;1 1 SUBSCRIPT ALEF",
   "1 1 INVERTED DAMMA;1 1 MARK NOON GHUNNA;1 1 ZWARAKAY;1 1 VOWEL SIGN SMALL V ABOVE",
   "1 3 INVERTED SMALL V ABOVE;1 3 DOT BELOW;1 1 REVERSED DAMMA;1 1 FATHA WITH TWO DOTS",
   "1 1 WAVY HAMZA BELOW;11 1 LETTER SUPERSCRIPT ALEF",
   "66 1 SMALL HIGH LIGATURE SAD WITH LAM WITH ALEF MAKSURA",
   "1 4 QAF WITH LAM WITH ALEF MAKSURA;1 3 MEEM INITIAL FORM;1 3 LAM ALEF;1 3 JEEM",
   "1 3 THREE DOTS;1 3 SEEN;1 1 END OF AYAH;2 1 SMALL HIGH ROUNDED ZERO",
   "1 3 UPRIGHT RECTANGULAR ZERO;1 3 DOTLESS HEAD OF KHAH;1 3 MEEM ISOLATED FORM;1 2 LOW SEEN",
   "1 2 HIGH MADDA;3 3 YEH;1 3 NOON;2 1 EMPTY CENTRE LOW STOP;1 3 HIGH STOP",
   "1 1 ROUNDED HIGH STOP WITH FILLED CENTRE;1 1 SMALL LOW MEEM;22 0 SYRIAC ABBREVIATION MARK",
   "2 1 LETTER SUPERSCRIPT ALAPH;1f 1 PTHAHA ABOVE;1 2 BELOW;1 2 DOTTED;1 1 ZQAPHA ABOVE",
   "1 2 BELOW;1 2 DOTTED;1 1 RBASA ABOVE;1 2 BELOW;1 1 DOTTED ZLAMA HORIZONTAL;1 3 ANGULAR",
   "1 1 HBASA ABOVE;1 2 BELOW;1 1 HBASA-ESASA DOTTED;1 1 ESASA ABOVE;1 2 BELOW;1 1 RWAHA",
   "1 1 FEMININE DOT;1 1 QUSHSHAYA;1 1 RUKKAKHA;1 1 TWO VERTICAL DOTS ABOVE;1 4 BELOW",
   "1 1 THREE DOTS ABOVE;1 3 BELOW;1 1 OBLIQUE LINE ABOVE;1 3 BELOW;1 1 MUSIC;1 1 BARREKH",
   "5c 0 THAANA ABAFILI;1 1 AABAAFILI;1 1 IBIFILI;1 1 EEBEEFILI;1 1 UBUFILI;1 1 OOBOOFILI",
   "1 1 EBEFILI;1 1 EYBEYFILI;1 1 OBOFILI;1 1 OABOAFILI;1 1 SUKUN",
   "3b 0 NKO COMBINING SHORT HIGH TONE;1 3 LOW TONE;1 3 RISING TONE;1 2 LONG DESCENDING TONE",
   "1 3 HIGH TONE;1 3 LOW TONE;1 3 RISING TONE;1 2 NASALIZATION MARK;1 2 DOUBLE DOT ABOVE",
   "a 1 DANTAYALAN;19 0 SAMARITAN MARK IN;1 2 IN-ALAF;1 2 OCCLUSION;1 2 DAGESH",
   "2 2 EPENTHETIC YUT;1 1 VOWEL SIGN LONG E;1 3 E;1 3 OVERLONG AA;1 3 LONG AA;1 3 AA",
   "1 3 OVERLONG A;1 3 LONG A;1 3 A;2 3 SHORT A;1 3 LONG U;1 3 U;2 3 LONG I;1 3 I;1 3 O",
   "1 3 SUKUN;1 1 MARK NEQUDAA;2c 0 MANDAIC AFFRICATION MARK;1 1 VOCALIZATION MARK",
   "1 1 GEMINATION MARK;35 0 ARABIC POUND MARK ABOVE;1 1 PIASTRE MARK ABOVE",
   "7 1 SMALL HIGH WORD AL-JUZ;1 2 LOW WORD ISHMAAM;1 4 IMAALA;1 4 TASHEEL;1 1 MADDA WAAJIB",
   "1 1 SUPERSCRIPT ALEF MOKHASSAS;1 1 DOUBLED MADDA;1 1 HALF MADDA OVER MADDA",
   "2b 1 SMALL HIGH FARSI YEH;1 3 YEH BARREE WITH TWO DOTS BELOW;1 3 WORD SAH;1 3 ZAH",
   "1 1 LARGE ROUND DOT ABOVE;1 4 BELOW;1 1 SUKUN BELOW;1 1 LARGE CIRCLE BELOW",
   "1 2 ROUND DOT INSIDE CIRCLE BELOW;1 1 SMALL LOW WAW;1 2 HIGH WORD AR-RUB;1 3 SAD;1 3 AIN",
   "1 3 QAF;1 3 NOON WITH KASRA;1 2 LOW NOON WITH KASRA;1 2 HIGH WORD ATH-THALATHA",
   "1 4 AS-SAJDA;1 4 AN-NISF;1 4 SAKTA;1 4 QIF;1 4 WAQFA;1 3 FOOTNOTE MARKER;1 3 SIGN SAFHA",
   "1 1 DISPUTED END OF AYAH;1 1 TURNED DAMMA BELOW;1 1 CURLY FATHA;1 2 DAMMA;1 2 KASRA",
   "1 2 FATHATAN;1 2 DAMMATAN;1 2 KASRATAN;1 1 TONE ONE DOT ABOVE;1 2 TWO DOTS ABOVE",
   "1 2 LOOP ABOVE;1 2 ONE DOT BELOW;1 2 TWO DOTS BELOW;1 2 LOOP BELOW;1 1 OPEN FATHATAN",
   "1 2 DAMMATAN;1 2 KASRATAN;1 1 SMALL HIGH WAW;1 1 FATHA WITH RING;1 3 DOT ABOVE",
   "1 1 KASRA WITH DOT BELOW;1 1 LEFT ARROWHEAD ABOVE;1 1 RIGHT ARROWHEAD ABOVE",
   "1 1 LEFT ARROWHEAD BELOW;1 1 RIGHT ARROWHEAD BELOW;1 1 DOUBLE RIGHT ARROWHEAD ABOVE",
   "1 5 WITH DOT;1 1 RIGHT ARROWHEAD ABOVE WITH DOT;1 1 DAMMA WITH DOT",
   "1 1 MARK SIDEWAYS NOON GHUNNA;1 0 DEVANAGARI SIGN INVERTED CANDRABINDU;1 2 CANDRABINDU",
   "1 2 ANUSVARA;1 2 VISARGA;37 1 VOWEL SIGN OE;1 3 OOE;1 1 SIGN NUKTA;2 1 VOWEL SIGN AA",
   "1 3 I;1 3 II;1 3 U;1 3 UU;1 3 VOCALIC R;1 4 RR;1 3 CANDRA E;1 3 SHORT E;1 3 E;1 3 AI",
   "1 3 CANDRA O;1 3 SHORT O;1 3 O;1 3 AU;1 1 SIGN VIRAMA;1 1 VOWEL SIGN PRISHTHAMATRA E",
   "1 3 AW;2 1 STRESS SIGN UDATTA;1 3 ANUDATTA;1 1 GRAVE ACCENT;1 1 ACUTE ACCENT",
   "1 1 VOWEL SIGN CANDRA LONG E;1 3 UE;1 3 UUE;b 3 VOCALIC L;1 4 LL",
   "1e 0 BENGALI SIGN CANDRABINDU;1 2 ANUSVARA;1 2 VISARGA;39 2 NUKTA;2 1 VOWEL SIGN AA;1 3 I",
   "1 3 II;1 3 U;1 3 UU;1 3 VOCALIC R;1 4 RR;3 3 E;1 3 AI;3 3 O;1 3 AU;1 1 SIGN VIRAMA",
   "a 1 AU LENGTH MARK;b 1 VOWEL SIGN VOCALIC L;1 4 LL;1b 1 SANDHI MARK",
   "3 0 GURMUKHI SIGN ADAK BINDI;1 2 BINDI;1 2 VISARGA;39 2 NUKTA;2 1 VOWEL SIGN AA;1 3 I",
   "1 3 II;1 3 U;1 3 UU;5 3 EE;1 3 AI;3 3 OO;1 3 AU;1 1 SIGN VIRAMA;4 2 UDAAT;1f 1 TIPPI",
   "1 1 ADDAK;4 1 SIGN YAKASH;c 0 GUJARATI SIGN CANDRABINDU;1 2 ANUSVARA;1 2 VISARGA",
   "39 2 NUKTA;2 1 VOWEL SIGN AA;1 3 I;1 3 II;1 3 U;1 3 UU;1 3 VOCALIC R;1 4 RR;1 3 CANDRA E",
   "2 3 E;1 3 AI;1 3 CANDRA O;2 3 O;1 3 AU;1 1 SIGN VIRAMA;15 1 VOWEL SIGN VOCALIC L;1 4 LL",
   "17 1 SIGN SUKUN;1 2 SHADDA;1 2 MADDAH;1 2 THREE-DOT NUKTA ABOVE;1 2 CIRCLE NUKTA ABOVE",
   "1 2 TWO-CIRCLE NUKTA ABOVE;2 0 ORIYA SIGN CANDRABINDU;1 2 ANUSVARA;1 2 VISARGA;39 2 NUKTA",
   "2 1 VOWEL SIGN AA;1 3 I;1 3 II;1 3 U;1 3 UU;1 3 VOCALIC R;1 4 RR;3 3 E;1 3 AI;3 3 O",
   "1 3 AU;1 1 SIGN VIRAMA;8 2 OVERLINE;1 1 AI LENGTH MARK;1 1 AU LENGTH MARK",
   "b 1 VOWEL SIGN VOCALIC L;1 4 LL;1f 0 TAMIL SIGN ANUSVARA;3c 1 VOWEL SIGN AA;1 3 I;1 3 II",
   "1 3 U;1 3 UU;4 3 E;1 3 EE;1 3 AI;2 3 O;1 3 OO;1 3 AU;1 1 SIGN VIRAMA;a 1 AU LENGTH MARK",
   "29 0 TELUGU SIGN COMBINING CANDRABINDU ABOVE;1 2 CANDRABINDU;1 2 ANUSVARA;1 2 VISARGA",
   "1 2 COMBINING ANUSVARA ABOVE;38 2 NUKTA;2 1 VOWEL SIGN AA;1 3 I;1 3 II;1 3 U;1 3 UU",
   "1 3 VOCALIC R;1 4 RR;2 3 E;1 3 EE;1 3 AI;2 3 O;1 3 OO;1 3 AU;1 1 SIGN VIRAMA",
   "8 1 LENGTH MARK;1 1 AI LENGTH MARK;c 1 VOWEL SIGN VOCALIC L;1 4 LL",
   "1e 0 KANNADA SIGN CANDRABINDU;1 2 ANUSVARA;1 2 VISARGA;39 2 NUKTA;2 1 VOWEL SIGN AA;1 3 I",
   "1 3 II;1 3 U;1 3 UU;1 3 VOCALIC R;1 4 RR;2 3 E;1 3 EE;1 3 AI;2 3 O;1 3 OO;1 3 AU",
   "1 1 SIGN VIRAMA;8 1 LENGTH MARK;1 1 AI LENGTH MARK;c 1 VOWEL SIGN VOCALIC L;1 4 LL",
   "1d 0 MALAYALAM SIGN COMBINING ANUSVARA ABOVE;1 2 CANDRABINDU;1 2 ANUSVARA;1 2 VISARGA",
   "38 2 VERTICAL BAR VIRAMA;1 2 CIRCULAR VIRAMA;2 1 VOWEL SIGN AA;1 3 I;1 3 II;1 3 U;1 3 UU",
   "1 3 VOCALIC R;1 4 RR;2 3 E;1 3 EE;1 3 AI;2 3 O;1 3 OO;1 3 AU;1 1 SIGN VIRAMA",
   "a 1 AU LENGTH MARK;b 1 VOWEL SIGN VOCALIC L;1 4 LL;1e 0 SINHALA SIGN CANDRABINDU",
   "1 2 ANUSVARAYA;1 2 VISARGAYA;47 2 AL-LAKUNA;5 1 VOWEL SIGN AELA-PILLA",
   "1 3 KETTI AEDA-PILLA;1 3 DIGA AEDA-PILLA;1 3 KETTI IS-PILLA;1 3 DIGA IS-PILLA",
   "1 3 KETTI PAA-PILLA;2 3 DIGA PAA-PILLA;2 3 GAETTA-PILLA;1 3 KOMBUVA;1 3 DIGA KOMBUVA",
   "1 3 KOMBU DEKA;1 3 KOMBUVA HAA AELA-PILLA;1 5 DIGA AELA-PILLA;1 5 GAYANUKITTA",
   "1 3 GAYANUKITTA;13 3 DIGA GAETTA-PILLA;1 4 GAYANUKITTA;3e 0 THAI CHARACTER MAI HAN-AKAT",
   "3 2 SARA I;1 3 II;1 3 UE;1 3 UEE;1 3 U;1 3 UU;1 2 PHINTHU;d 2 MAITAIKHU;1 2 MAI EK",
   "1 3 THO;1 3 TRI;1 3 CHATTAWA;1 2 THANTHAKHAT;1 2 NIKHAHIT;1 2 YAMAKKAN",
   "63 0 LAO VOWEL SIGN MAI KAN;3 3 I;1 3 II;1 3 Y;1 3 YY;1 3 U;1 3 UU;1 1 SIGN PALI VIRAMA",
   "1 1 VOWEL SIGN MAI KON;1 1 SEMIVOWEL SIGN LO;c 1 TONE MAI EK;1 3 THO;1 3 TI;1 3 CATAWA",
   "1 1 CANCELLATION MARK;1 1 NIGGAHITA;4b 0 TIBETAN ASTROLOGICAL SIGN -KHYUD PA",
   "1 3 SDONG TSHUGS;1c 1 MARK NGAS BZUNG NYI ZLA;2 4 SGOR RTAGS;2 2 TSA -PHRU",
   "5 1 SIGN YAR TSHES;1 2 MAR TSHES;32 1 VOWEL SIGN AA;1 3 I;1 3 II;1 3 U;1 3 UU",
   "1 3 VOCALIC R;1 4 RR;1 4 L;1 4 LL;1 3 E;1 3 EE;1 3 O;1 3 OO;1 1 SIGN RJES SU NGA RO",
   "1 2 RNAM BCAD;1 1 VOWEL SIGN REVERSED I;1 4 II;1 1 SIGN NYI ZLA NAA DA;1 2 SNA LDAN",
   "1 1 MARK HALANTA;2 1 SIGN LCI RTAGS;1 2 YANG RTAGS;6 1 SUBJOINED SIGN LCE TSA CAN",
   "1 3 MCHU CAN;1 3 INVERTED MCHU CAN;1 2 LETTER KA;1 3 KHA;1 3 GA;1 3 GHA;1 3 NGA;1 3 CA",
   "1 3 CHA;1 3 JA;2 3 NYA;1 3 TTA;1 3 TTHA;1 3 DDA;1 3 DDHA;1 3 NNA;1 3 TA;1 3 THA;1 3 DA",
   "1 3 DHA;1 3 NA;1 3 PA;1 3 PHA;1 3 BA;1 3 BHA;1 3 MA;1 3 TSA;1 3 TSHA;1 3 DZA;1 3 DZHA",
   "1 3 WA;1 3 ZHA;1 3 ZA;1 3 -A;1 3 YA;1 3 RA;1 3 LA;1 3 SHA;1 3 SSA;1 3 SA;1 3 HA;1 3 A",
   "1 3 KSSA;1 3 FIXED-FORM WA;1 4 YA;1 4 RA;a 1 SYMBOL PADMA GDAN",
   "65 0 MYANMAR VOWEL SIGN TALL AA;1 3 AA;1 3 I;1 3 II;1 3 U;1 3 UU;1 3 E;1 3 AI;1 3 MON II",
   "1 4 O;1 3 E ABOVE;1 1 SIGN ANUSVARA;1 2 DOT BELOW;1 2 VISARGA;1 2 VIRAMA;1 2 ASAT",
   "1 1 CONSONANT SIGN MEDIAL YA;1 4 RA;1 4 WA;1 4 HA;18 1 VOWEL SIGN VOCALIC R;1 4 RR;1 4 L",
   "1 4 LL;5 1 CONSONANT SIGN MON MEDIAL NA;1 5 MA;1 5 LA;2 1 VOWEL SIGN SGAW KAREN EU",
   "1 1 TONE MARK SGAW KAREN HATHI;1 5 KE PHO;3 1 VOWEL SIGN WESTERN PWO KAREN EU;1 6 UE",
   "1 1 SIGN WESTERN PWO KAREN TONE-1;1 5 TONE-2;1 5 TONE-3;1 5 TONE-4;1 5 TONE-5",
   "4 1 VOWEL SIGN GEBA KAREN I;1 3 KAYAH OE;1 4 U;1 4 EE;e 1 CONSONANT SIGN SHAN MEDIAL WA",
   "1 1 VOWEL SIGN SHAN AA;1 4 E;1 5 ABOVE;1 4 FINAL Y;1 1 SIGN SHAN TONE-2;1 3 TONE-3",
   "1 3 TONE-5;1 3 TONE-6;1 3 COUNCIL TONE-2;1 4 TONE-3;1 4 EMPHATIC TONE",
   "2 2 RUMAI PALAUNG TONE-5;b 2 KHAMTI TONE-1;1 3 TONE-3;1 1 VOWEL SIGN AITON A;1 4 AI",
   "2c0 0 ETHIOPIC COMBINING GEMINATION AND VOWEL LENGTH MARK;1 2 VOWEL LENGTH MARK",
   "1 2 GEMINATION MARK;321 0 OGHAM SPACE MARK;92 0 TAGALOG VOWEL SIGN I;1 3 U",
   "1 1 SIGN VIRAMA;1 2 PAMUDPOD;1d 0 HANUNOO VOWEL SIGN I;1 3 U;1 1 SIGN PAMUDPOD",
   "1e 0 BUHID VOWEL SIGN I;1 3 U;1f 0 TAGBANWA VOWEL SIGN I;1 3 U",
   "41 0 KHMER VOWEL INHERENT AQ;1 3 AA;1 2 SIGN AA;1 3 I;1 3 II;1 3 Y;1 3 YY;1 3 U;1 3 UU",
   "1 3 UA;1 3 OE;1 3 YA;1 3 IE;1 3 E;1 3 AE;1 3 AI;1 3 OO;1 3 AU;1 1 SIGN NIKAHIT",
   "1 2 REAHMUK;1 2 YUUKALEAPINTU;1 2 MUUSIKATOAN;1 2 TRIISAP;1 2 BANTOC;1 2 ROBAT",
   "1 2 TOANDAKHIAT;1 2 KAKABAT;1 2 AHSDA;1 2 SAMYOK SANNYA;1 2 VIRIAM;1 2 COENG",
   "1 2 BATHAMASAT;a 2 ATTHACAN;2e 0 MONGOLIAN FREE VARIATION SELECTOR ONE;1 4 TWO;1 4 THREE",
   "1 1 VOWEL SEPARATOR;1 1 FREE VARIATION SELECTOR FOUR;76 1 LETTER ALI GALI BALUDA",
   "1 4 THREE BALUDA;23 4 DAGALGA;77 0 LIMBU VOWEL SIGN A;1 3 I;1 3 U;1 3 EE;1 3 AI;1 3 OO",
   "1 3 AU;1 3 E;1 3 O;1 1 SUBJOINED LETTER YA;1 3 RA;1 3 WA;5 1 SMALL LETTER KA;1 3 NGA",
   "1 3 ANUSVARA;1 3 TA;1 3 NA;1 3 PA;1 3 MA;1 3 RA;1 3 LA;1 1 SIGN MUKPHRENG;1 2 KEMPHRENG",
   "1 2 SA-I;dc 0 BUGINESE VOWEL SIGN I;1 3 U;1 3 E;1 3 O;1 3 AE",
   "3a 0 TAI THAM CONSONANT SIGN MEDIAL RA;1 5 LA;1 4 LA TANG LAI;1 2 SIGN MAI KANG LAI",
   "1 2 CONSONANT SIGN FINAL NGA;1 4 LOW PA;1 4 HIGH RATHA OR LOW PA;1 4 MA;1 4 BA;1 4 SA",
   "2 2 SIGN SAKOT;1 2 VOWEL SIGN A;1 4 MAI SAT;1 4 AA;1 4 TALL AA;1 4 I;1 4 II;1 4 UE",
   "1 4 UUE;1 4 U;1 4 UU;1 4 O;1 4 OA BELOW;1 4 OY;1 4 E;1 4 AE;1 4 OO;1 4 AI;1 4 THAM AI",
   "1 4 OA ABOVE;1 2 SIGN MAI KANG;1 3 TONE-1;1 3 TONE-2;1 3 KHUEN TONE-3;1 4 TONE-4",
   "1 4 TONE-5;1 3 RA HAAM;1 3 MAI SAM;1 3 KHUEN-LUE KARAN;3 2 COMBINING CRYPTOGRAMMIC DOT",
   "31 0 COMBINING DOUBLED CIRCUMFLEX ACCENT;1 1 DIAERESIS-RING;1 1 INFINITY",
   "1 1 DOWNWARDS ARROW;1 1 TRIPLE DOT;1 1 X-X BELOW;1 1 WIGGLY LINE BELOW",
   "1 1 OPEN MARK BELOW;1 1 DOUBLE OPEN MARK BELOW;1 1 LIGHT CENTRALIZATION STROKE BELOW",
   "1 1 STRONG CENTRALIZATION STROKE BELOW;1 1 PARENTHESES ABOVE;1 1 DOUBLE PARENTHESES ABOVE",
   "1 1 PARENTHESES BELOW;1 2 OVERLAY;1 1 LATIN SMALL LETTER W BELOW;1 4 TURNED W BELOW",
   "1 1 LEFT PARENTHESIS ABOVE LEFT;1 1 RIGHT PARENTHESIS ABOVE RIGHT",
   "1 1 LEFT PARENTHESIS BELOW LEFT;1 1 RIGHT PARENTHESIS BELOW RIGHT",
   "1 1 SQUARE BRACKETS ABOVE;1 1 NUMBER SIGN ABOVE;1 1 INVERTED DOUBLE ARCH ABOVE",
   "1 1 PLUS SIGN ABOVE;1 1 DOUBLE PLUS SIGN ABOVE;1 4 BELOW;1 1 TRIPLE ACUTE ACCENT",
   "1 1 LATIN SMALL LETTER INSULAR G;1 5 R;1 5 T;32 0 BALINESE SIGN ULU RICEM;1 3 CANDRA",
   "1 2 CECEK;1 2 SURANG;1 2 BISAH;30 2 REREKAN;1 1 VOWEL SIGN TEDUNG;1 3 ULU;1 4 SARI",
   "1 3 SUKU;1 4 ILUT;1 3 RA REPA;1 5 TEDUNG;1 3 LA LENGA;1 5 TEDUNG;1 3 TALING;1 4 REPA",
   "1 4 TEDUNG;1 4 REPA TEDUNG;1 3 PEPET;1 4 TEDUNG;1 1 ADEG ADEG",
   "27 1 MUSICAL SYMBOL COMBINING TEGEH;1 4 ENDEP;1 4 KEMPUL;1 4 KEMPLI;1 4 JEGOGAN",
   "1 4 KEMPUL WITH JEGOGAN;1 4 KEMPLI WITH JEGOGAN;1 4 BENDE;1 4 GONG",
   "d 0 SUNDANESE SIGN PANYECEK;1 2 PANGLAYAR;1 2 PANGWISAD;1f 1 CONSONANT SIGN PAMINGKAL",
   "1 3 PANYAKRA;1 3 PANYIKU;1 1 VOWEL SIGN PANGHULU;1 3 PANYUKU;1 3 PANAELAENG;1 3 PANOLONG",
   "1 3 PAMEPET;1 3 PANEULEUNG;1 1 SIGN PAMAAEH;1 2 VIRAMA;1 1 CONSONANT SIGN PASANGAN MA",
   "1 4 WA;39 0 BATAK SIGN TOMPI;1 1 VOWEL SIGN E;1 3 PAKPAK E;1 3 EE;1 3 I;1 3 KARO I;1 3 O",
   "1 3 KARO O;1 3 U;1 4 FOR SIMALUNGUN SA;1 1 CONSONANT SIGN NG;1 3 H;1 1 PANGOLAT",
   "1 1 PANONGONAN;31 0 LEPCHA SUBJOINED LETTER YA;1 3 RA;1 1 VOWEL SIGN AA;1 3 I;1 3 O",
   "1 3 OO;1 3 U;1 3 UU;1 3 E;1 1 CONSONANT SIGN K;1 3 M;1 3 L;1 3 N;1 3 P;1 3 R;1 3 T",
   "1 3 NYIN-DO;1 3 KANG;1 1 SIGN RAN;1 2 NUKTA;99 0 VEDIC TONE KARSHANA;1 2 SHARA",
   "1 2 PRENKHA;2 1 SIGN YAJURVEDIC MIDLINE SVARITA",
   "1 1 TONE YAJURVEDIC AGGRAVATED INDEPENDENT SVARITA;1 3 INDEPENDENT SVARITA",
   "1 3 KATHAKA INDEPENDENT SVARITA;1 2 CANDRA BELOW",
   "1 2 YAJURVEDIC KATHAKA INDEPENDENT SVARITA SCHROEDER;1 2 DOUBLE SVARITA",
   "1 2 TRIPLE SVARITA;1 2 KATHAKA ANUDATTA;1 2 DOT BELOW;1 2 TWO DOTS BELOW",
   "1 2 THREE DOTS BELOW;1 2 RIGVEDIC KASHMIRI INDEPENDENT SVARITA",
   "1 2 ATHARVAVEDIC INDEPENDENT SVARITA;1 1 SIGN VISARGA SVARITA;1 3 UDATTA",
   "1 2 REVERSED VISARGA UDATTA;1 2 VISARGA ANUDATTA;1 2 REVERSED VISARGA ANUDATTA",
   "1 2 VISARGA UDATTA WITH TAIL;1 3 ANUDATTA WITH TAIL;5 2 TIRYAK;7 1 TONE CANDRA ABOVE",
   "3 1 SIGN ATIKRAMA;1 1 TONE RING ABOVE;1 2 DOUBLE RING ABOVE",
   "c7 0 COMBINING DOTTED GRAVE ACCENT;1 2 ACUTE ACCENT;1 1 SNAKE BELOW;1 1 SUSPENSION MARK",
   "1 1 MACRON-ACUTE;1 1 GRAVE-MACRON;1 1 MACRON-GRAVE;1 1 ACUTE-MACRON;1 1 GRAVE-ACUTE-GRAVE",
   "1 1 ACUTE-GRAVE-ACUTE;1 1 LATIN SMALL LETTER R BELOW;1 1 BREVE-MACRON;1 1 MACRON-BREVE",
   "1 1 DOUBLE CIRCUMFLEX ABOVE;1 1 OGONEK ABOVE;1 1 ZIGZAG BELOW;1 1 IS BELOW;1 1 UR ABOVE",
   "1 1 US ABOVE;1 1 LATIN SMALL LETTER FLATTENED OPEN A ABOVE;1 4 AE;1 4 AO;1 4 AV",
   "1 4 C CEDILLA;1 4 INSULAR D;1 4 ETH;1 4 G;1 2 LETTER SMALL CAPITAL G;1 2 SMALL LETTER K",
   "1 4 L;1 2 LETTER SMALL CAPITAL L;1 5 M;1 2 SMALL LETTER N;1 2 LETTER SMALL CAPITAL N",
   "1 5 R;1 2 SMALL LETTER R ROTUNDA;1 4 S;1 4 LONG S;1 4 Z;1 4 ALPHA;1 4 B;1 4 BETA",
   "1 4 SCHWA;1 4 F;1 4 L WITH DOUBLE MIDDLE TILDE;1 4 O WITH LIGHT CENTRALIZATION STROKE",
   "1 4 P;1 4 ESH;1 4 U WITH LIGHT CENTRALIZATION STROKE;1 4 W;1 4 A WITH DIAERESIS",
   "1 4 O WITH DIAERESIS;1 4 U WITH DIAERESIS;1 1 UP TACK ABOVE;1 1 KAVYKA ABOVE RIGHT",
   "1 3 LEFT;1 1 DOT ABOVE LEFT;1 1 WIDE INVERTED BRIDGE BELOW;1 1 DOT BELOW LEFT",
   "1 1 DELETION MARK;1 1 DOUBLE INVERTED BREVE BELOW;1 1 ALMOST EQUAL TO BELOW",
   "1 1 LEFT ARROWHEAD ABOVE;1 1 RIGHT ARROWHEAD AND DOWN ARROWHEAD BELOW;201 0 EN QUAD",
   "1 0 EM QUAD;1 0 EN SPACE;1 0 EM SPACE;1 0 THREE-PER-EM SPACE;1 0 FOUR-PER-EM SPACE",
   "1 0 SIX-PER-EM SPACE;1 0 FIGURE SPACE;1 0 PUNCTUATION SPACE;1 0 THIN SPACE;1 0 HAIR SPACE",
   "1 0 ZERO WIDTH SPACE;1 2 NON-JOINER;1 2 JOINER;1 0 LEFT-TO-RIGHT MARK",
   "1 0 RIGHT-TO-LEFT MARK;19 0 LINE SEPARATOR;1 0 PARAGRAPH SEPARATOR",
   "1 0 LEFT-TO-RIGHT EMBEDDING;1 0 RIGHT-TO-LEFT EMBEDDING;1 0 POP DIRECTIONAL FORMATTING",
   "1 0 LEFT-TO-RIGHT OVERRIDE;1 0 RIGHT-TO-LEFT OVERRIDE;1 0 NARROW NO-BREAK SPACE",
   "30 0 MEDIUM MATHEMATICAL SPACE;1 0 WORD JOINER;1 0 FUNCTION APPLICATION",
   "1 0 INVISIBLE TIMES;1 1 SEPARATOR;1 1 PLUS;2 0 LEFT-TO-RIGHT ISOLATE",
   "1 0 RIGHT-TO-LEFT ISOLATE;1 0 FIRST STRONG ISOLATE;1 0 POP DIRECTIONAL ISOLATE",
   "1 0 INHIBIT SYMMETRIC SWAPPING;1 0 ACTIVATE SYMMETRIC SWAPPING",
   "1 0 INHIBIT ARABIC FORM SHAPING;1 0 ACTIVATE ARABIC FORM SHAPING",
   "1 0 NATIONAL DIGIT SHAPES;1 0 NOMINAL DIGIT SHAPES;61 0 COMBINING LEFT HARPOON ABOVE",
   "1 1 RIGHT HARPOON ABOVE;1 1 LONG VERTICAL LINE OVERLAY;1 1 SHORT VERTICAL LINE OVERLAY",
   "1 1 ANTICLOCKWISE ARROW ABOVE;1 1 CLOCKWISE ARROW ABOVE;1 1 LEFT ARROW ABOVE",
   "1 1 RIGHT ARROW ABOVE;1 1 RING OVERLAY;1 1 CLOCKWISE RING OVERLAY",
   "1 1 ANTICLOCKWISE RING OVERLAY;1 1 THREE DOTS ABOVE;1 1 FOUR DOTS ABOVE",
   "1 1 ENCLOSING CIRCLE;1 2 SQUARE;1 2 DIAMOND;1 2 CIRCLE BACKSLASH",
   "1 1 LEFT RIGHT ARROW ABOVE;1 1 ENCLOSING SCREEN;1 2 KEYCAP;1 2 UPWARD POINTING TRIANGLE",
   "1 1 REVERSE SOLIDUS OVERLAY;1 1 DOUBLE VERTICAL STROKE OVERLAY;1 1 ANNUITY SYMBOL",
   "1 1 TRIPLE UNDERDOT;1 1 WIDE BRIDGE ABOVE;1 1 LEFTWARDS ARROW OVERLAY",
   "1 1 LONG DOUBLE SOLIDUS OVERLAY;1 1 RIGHTWARDS HARPOON WITH BARB DOWNWARDS",
   "1 1 LEFTWARDS HARPOON WITH BARB DOWNWARDS;1 1 LEFT ARROW BELOW;1 1 RIGHT ARROW BELOW",
   "1 1 ASTERISK ABOVE;bff 0 COPTIC COMBINING NI ABOVE;1 2 SPIRITUS ASPER;1 3 LENIS",
   "8e 0 TIFINAGH CONSONANT JOINER;61 0 COMBINING CYRILLIC LETTER BE;1 3 VE;1 3 GHE;1 3 DE",
   "1 3 ZHE;1 3 ZE;1 3 KA;1 3 EL;1 3 EM;1 3 EN;1 3 O;1 3 PE;1 3 ER;1 3 ES;1 3 TE;1 3 HA",
   "1 3 TSE;1 3 CHE;1 3 SHA;1 3 SHCHA;1 3 FITA;1 3 ES-TE;1 3 A;1 3 IE;1 3 DJERV",
   "1 3 MONOGRAPH UK;1 3 YAT;1 3 YU;1 3 IOTIFIED A;1 3 LITTLE YUS;1 3 BIG YUS",
   "1 3 IOTIFIED BIG YUS;201 0 IDEOGRAPHIC SPACE;2a 1 LEVEL TONE MARK;1 1 RISING TONE MARK",
   "1 1 DEPARTING TONE MARK;1 1 ENTERING TONE MARK;1 0 HANGUL SINGLE DOT TONE MARK",
   "1 1 DOUBLE DOT TONE MARK;6a 0 COMBINING KATAKANA-HIRAGANA VOICED SOUND MARK",
   "1 2 SEMI-VOICED SOUND MARK;75d5 1 CYRILLIC VZMET;1 2 TEN MILLIONS SIGN",
   "1 2 HUNDRED MILLIONS SIGN;1 2 THOUSAND MILLIONS SIGN;2 2 LETTER UKRAINIAN IE;1 3 I;1 3 YI",
   "1 3 U;1 3 HARD SIGN;1 3 YERU;1 3 SOFT SIGN;1 3 OMEGA;1 2 KAVYKA;1 2 PAYEROK",
   "21 2 LETTER EF;1 3 IOTIFIED E;51 0 BAMUM COMBINING MARK KOQNDON;1 3 TUKWENTIS",
   "111 0 SYLOTI NAGRI SIGN DVISVARA;4 3 HASANTA;5 3 ANUSVARA;18 2 VOWEL SIGN A;1 4 I;1 4 U",
   "1 4 E;1 4 OO;5 2 SIGN ALTERNATE HASANTA;54 0 SAURASHTRA SIGN ANUSVARA;1 2 VISARGA",
   "33 1 CONSONANT SIGN HAARU;1 1 VOWEL SIGN AA;1 3 I;1 3 II;1 3 U;1 3 UU;1 3 VOCALIC R",
   "1 4 RR;1 4 L;1 4 LL;1 3 E;1 3 EE;1 3 AI;1 3 O;1 3 OO;1 3 AU;1 1 SIGN VIRAMA",
   "1 2 CANDRABINDU;1b 0 COMBINING DEVANAGARI DIGIT ZERO;1 3 ONE;1 3 TWO;1 3 THREE;1 3 FOUR",
   "1 3 FIVE;1 3 SIX;1 3 SEVEN;1 3 EIGHT;1 3 NINE;1 2 LETTER A;1 3 U;1 3 KA;1 3 NA;1 3 PA",
   "1 3 RA;1 3 VI;1 2 SIGN AVAGRAHA;e 0 DEVANAGARI VOWEL SIGN AY;27 0 KAYAH LI VOWEL UE;1 3 E",
   "1 3 U;1 3 EE;1 3 O;1 2 TONE PLOPHU;1 3 CALYA;1 4 PLOPHU;1a 0 REJANG VOWEL SIGN I;1 3 U",
   "1 3 E;1 3 AI;1 3 O;1 3 AU;1 3 EU;1 3 EA;1 1 CONSONANT SIGN NG;1 3 N;1 3 R;1 3 H",
   "1 1 VIRAMA;2d 0 JAVANESE SIGN PANYANGGA;1 2 CECAK;1 2 LAYAR;1 2 WIGNYAN;30 2 CECAK TELU",
   "1 1 VOWEL SIGN TARUNG;1 3 TOLONG;1 3 WULU;1 4 MELIK;1 3 SUKU;1 4 MENDUT;1 3 TALING",
   "1 3 DIRGA MURE;1 3 PEPET;1 1 CONSONANT SIGN KERET;1 3 PENGKAL;1 3 CAKRA;1 1 PANGKON",
   "25 0 MYANMAR SIGN SHAN SAW;44 0 CHAM VOWEL SIGN AA;1 3 I;1 3 II;1 3 EI;1 3 U;1 3 OE;1 3 O",
   "1 3 AI;1 3 AU;1 3 UE;1 1 CONSONANT SIGN YA;1 3 RA;1 3 LA;1 3 WA;d 3 FINAL NG;9 4 M;1 4 H",
   "2e 0 MYANMAR SIGN PAO KAREN TONE;1 2 TAI LAING TONE-2;1 4 TONE-5;33 0 TAI VIET MAI KANG",
   "2 2 VOWEL I;1 3 UE;1 3 U;3 2 MAI KHIT;1 2 VOWEL IA;6 3 AM;1 2 TONE MAI EK;2 4 THO",
   "2a 0 MEETEI MAYEK VOWEL SIGN II;1 4 UU;1 4 AAI;1 4 AU;1 4 AAU;6 4 VISARGA;1 2 VIRAMA",
   "ed 2 VOWEL SIGN ONAP;1 4 INAP;1 4 ANAP;1 4 YENAP;1 4 SOUNAP;1 4 UNAP;1 4 CHEINAP;1 4 NUNG",
   "2 2 LUM IYEK;1 2 APUN IYEK;4f31 0 HEBREW POINT JUDEO-SPANISH VARIKA",
   "302 0 COMBINING LIGATURE LEFT HALF;1 2 RIGHT HALF;1 1 DOUBLE TILDE LEFT HALF",
   "1 3 RIGHT HALF;1 1 MACRON LEFT HALF;1 2 RIGHT HALF;1 1 CONJOINING MACRON",
   "1 1 LIGATURE LEFT HALF BELOW;1 2 RIGHT HALF BELOW;1 1 TILDE LEFT HALF BELOW",
   "1 2 RIGHT HALF BELOW;1 1 MACRON LEFT HALF BELOW;1 2 RIGHT HALF BELOW",
   "1 1 CONJOINING MACRON BELOW;1 1 CYRILLIC TITLO LEFT HALF;1 3 RIGHT HALF",
   "d0 0 ZERO WIDTH NO-BREAK SPACE;fa 0 INTERLINEAR ANNOTATION ANCHOR;1 2 SEPARATOR",
   "1 2 TERMINATOR;202 0 PHAISTOS DISC SIGN COMBINING OBLIQUE STROKE",
   "e3 0 COPTIC EPACT THOUSANDS MARK;96 0 COMBINING OLD PERMIC LETTER AN;1 4 DOI;1 4 ZATA",
   "1 4 NENOE;1 4 SII;687 0 KHAROSHTHI VOWEL SIGN I;1 3 U;1 3 VOCALIC R;2 3 E;1 3 O",
   "6 2 LENGTH MARK;1 1 SIGN DOUBLE RING BELOW;1 2 ANUSVARA;1 2 VISARGA;29 2 BAR ABOVE",
   "1 2 CAUDA;1 2 DOT BELOW;5 1 VIRAMA;a6 0 MANICHAEAN ABBREVIATION MARK ABOVE;1 3 BELOW",
   "23e 0 HANIFI ROHINGYA SIGN HARBAHAY;1 3 TAHALA;1 3 TANA;1 3 TASSI",
   "184 0 YEZIDI COMBINING HAMZA MARK;1 2 MADDA MARK;9a 0 SOGDIAN COMBINING DOT BELOW",
   "1 2 TWO DOTS BELOW;1 2 DOT ABOVE;1 2 TWO DOTS ABOVE;1 2 CURVE ABOVE;1 3 BELOW",
   "1 2 HOOK ABOVE;1 3 BELOW;1 2 LONG HOOK BELOW;1 2 RESH BELOW;1 2 STROKE BELOW",
   "32 0 OLD UYGHUR COMBINING DOT ABOVE;1 4 BELOW;1 3 TWO DOTS ABOVE;1 5 BELOW",
   "7b 0 BRAHMI SIGN CANDRABINDU;1 2 ANUSVARA;1 2 VISARGA;36 1 VOWEL SIGN AA",
   "1 3 BHATTIPROLU AA;1 3 I;1 3 II;1 3 U;1 3 UU;1 3 VOCALIC R;1 4 RR;1 4 L;1 4 LL;1 3 E",
   "1 3 AI;1 3 O;1 3 AU;1 1 VIRAMA;2a 1 SIGN OLD TAMIL VIRAMA",
   "3 1 VOWEL SIGN OLD TAMIL SHORT E;1 6 O;b 1 NUMBER JOINER;1 0 KAITHI SIGN CANDRABINDU",
   "1 2 ANUSVARA;1 2 VISARGA;2e 1 VOWEL SIGN AA;1 3 I;1 3 II;1 3 U;1 3 UU;1 3 E;1 3 AI;1 3 O",
   "1 3 AU;1 1 SIGN VIRAMA;1 2 NUKTA;3 1 NUMBER SIGN;5 1 VOWEL SIGN VOCALIC R",
   "b 1 NUMBER SIGN ABOVE;33 0 CHAKMA SIGN CANDRABINDU;1 2 ANUSVARA;1 2 VISARGA",
   "25 1 VOWEL SIGN A;1 3 I;1 3 II;1 3 U;1 3 UU;1 3 E;1 3 AI;1 3 O;1 3 AU;1 3 OI;1 1 O MARK",
   "1 1 AU MARK;1 1 VIRAMA;1 1 MAAYYAA;11 1 VOWEL SIGN AA;1 3 EI;2d 0 MAHAJANI SIGN NUKTA",
   "d 0 SHARADA SIGN CANDRABINDU;1 2 ANUSVARA;1 2 VISARGA;31 1 VOWEL SIGN AA;1 3 I;1 3 II",
   "1 3 U;1 3 UU;1 3 VOCALIC R;1 4 RR;1 4 L;1 4 LL;1 3 E;1 3 AI;1 3 O;1 3 AU;1 1 SIGN VIRAMA",
   "9 1 SANDHI MARK;1 1 SIGN NUKTA;1 1 VOWEL MODIFIER MARK;1 1 EXTRA SHORT VOWEL MARK",
   "2 1 VOWEL SIGN PRISHTHAMATRA E;1 1 SIGN INVERTED CANDRABINDU;5d 0 KHOJKI VOWEL SIGN AA",
   "1 3 I;1 3 II;1 3 U;1 3 E;1 3 AI;1 3 O;1 3 AU;1 1 SIGN ANUSVARA;1 2 VIRAMA;1 2 NUKTA",
   "1 2 SHADDA;7 2 SUKUN;a1 0 KHUDAWADI SIGN ANUSVARA;1 1 VOWEL SIGN AA;1 3 I;1 3 II;1 3 U",
   "1 3 UU;1 3 E;1 3 AI;1 3 O;1 3 AU;1 1 SIGN NUKTA;1 2 VIRAMA",
   "16 0 GRANTHA SIGN COMBINING ANUSVARA ABOVE;1 2 CANDRABINDU;1 2 ANUSVARA;1 2 VISARGA",
   "38 0 COMBINING BINDU BELOW;1 0 GRANTHA SIGN NUKTA;2 1 VOWEL SIGN AA;1 3 I;1 3 II;1 3 U",
   "1 3 UU;1 3 VOCALIC R;1 4 RR;3 3 EE;1 3 AI;3 3 OO;1 3 AU;1 1 SIGN VIRAMA",
   "a 1 AU LENGTH MARK;b 1 VOWEL SIGN VOCALIC L;1 4 LL;3 0 COMBINING GRANTHA DIGIT ZERO",
   "1 3 ONE;1 3 TWO;1 3 THREE;1 3 FOUR;1 3 FIVE;1 3 SIX;4 2 LETTER A;1 3 KA;1 3 NA;1 3 VI",
   "1 3 PA;c1 0 NEWA VOWEL SIGN AA;1 3 I;1 3 II;1 3 U;1 3 UU;1 3 VOCALIC R;1 4 RR;1 4 L",
   "1 4 LL;1 3 E;1 3 AI;1 3 O;1 3 AU;1 1 SIGN VIRAMA;1 2 CANDRABINDU;1 2 ANUSVARA;1 2 VISARGA",
   "1 2 NUKTA;18 1 SANDHI MARK;52 0 TIRHUTA VOWEL SIGN AA;1 3 I;1 3 II;1 3 U;1 3 UU",
   "1 3 VOCALIC R;1 4 RR;1 4 L;1 4 LL;1 3 E;1 3 SHORT E;1 3 AI;1 3 O;1 3 SHORT O;1 3 AU",
   "1 1 SIGN CANDRABINDU;1 2 ANUSVARA;1 2 VISARGA;1 2 VIRAMA;1 2 NUKTA",
   "ec 0 SIDDHAM VOWEL SIGN AA;1 3 I;1 3 II;1 3 U;1 3 UU;1 3 VOCALIC R;1 4 RR;3 3 E;1 3 AI",
   "1 3 O;1 3 AU;1 1 SIGN CANDRABINDU;1 2 ANUSVARA;1 2 VISARGA;1 2 VIRAMA;1 2 NUKTA",
   "1c 1 VOWEL SIGN ALTERNATE U;1 4 UU;53 0 MODI VOWEL SIGN AA;1 3 I;1 3 II;1 3 U;1 3 UU",
   "1 3 VOCALIC R;1 4 RR;1 4 L;1 4 LL;1 3 E;1 3 AI;1 3 O;1 3 AU;1 1 SIGN ANUSVARA;1 2 VISARGA",
   "1 2 VIRAMA;1 2 ARDHACANDRA;6b 0 TAKRI SIGN ANUSVARA;1 2 VISARGA;1 1 VOWEL SIGN AA;1 3 I",
   "1 3 II;1 3 U;1 3 UU;1 3 E;1 3 AI;1 3 O;1 3 AU;1 1 SIGN VIRAMA;1 2 NUKTA",
   "66 0 AHOM CONSONANT SIGN MEDIAL LA;1 4 RA;1 4 LIGATING RA;1 1 VOWEL SIGN A;1 3 AA;1 3 I",
   "1 3 II;1 3 U;1 3 UU;1 3 E;1 3 AW;1 3 O;1 3 AI;1 3 AM;1 1 SIGN KILLER",
   "101 0 DOGRA VOWEL SIGN AA;1 3 I;1 3 II;1 3 U;1 3 UU;1 3 VOCALIC R;1 4 RR;1 3 E;1 3 AI",
   "1 3 O;1 3 AU;1 1 SIGN ANUSVARA;1 2 VISARGA;1 2 VIRAMA;1 2 NUKTA",
   "f6 0 DIVES AKURU VOWEL SIGN AA;1 4 I;1 4 II;1 4 U;1 4 UU;1 4 E;2 4 AI;1 4 O",
   "3 2 SIGN ANUSVARA;1 3 CANDRABINDU;1 3 HALANTA;1 2 VIRAMA;2 2 MEDIAL YA;2 3 RA",
   "1 2 SIGN NUKTA;8e 0 NANDINAGARI VOWEL SIGN AA;1 3 I;1 3 II;1 3 U;1 3 UU;1 3 VOCALIC R",
   "1 4 RR;3 3 E;1 3 AI;1 3 O;1 3 AU;1 1 SIGN ANUSVARA;1 2 VISARGA;1 2 VIRAMA",
   "4 1 VOWEL SIGN PRISHTHAMATRA E;1d 0 ZANABAZAR SQUARE VOWEL SIGN I;1 4 UE;1 4 U;1 4 E",
   "1 4 OE;1 4 O;1 4 AI;1 4 AU;1 4 REVERSED I;1 3 LENGTH MARK;29 2 FINAL CONSONANT MARK",
   "1 2 SIGN VIRAMA;1 3 CANDRABINDU;1 4 WITH ORNAMENT;1 3 CANDRA WITH ORNAMENT;1 3 ANUSVARA",
   "1 3 VISARGA;2 2 CLUSTER-FINAL LETTER YA;1 4 RA;1 4 LA;1 4 VA;9 2 SUBJOINER",
   "a 0 SOYOMBO VOWEL SIGN I;1 3 UE;1 3 U;1 3 E;1 3 O;1 3 OE;1 3 AI;1 3 AU;1 3 VOCALIC R",
   "1 4 L;1 2 LENGTH MARK;2f 1 FINAL CONSONANT SIGN G;1 4 K;1 4 NG;1 4 D;1 4 N;1 4 B;1 4 M",
   "1 4 R;1 4 L;1 4 SH;1 4 S;1 4 -A;1 1 SIGN ANUSVARA;1 2 VISARGA;1 1 GEMINATION MARK",
   "1 1 SUBJOINER;196 0 BHAIKSUKI VOWEL SIGN AA;1 3 I;1 3 II;1 3 U;1 3 UU;1 3 VOCALIC R",
   "1 4 RR;1 4 L;2 3 E;1 3 AI;1 3 O;1 3 AU;1 1 SIGN CANDRABINDU;1 2 ANUSVARA;1 2 VISARGA",
   "1 2 VIRAMA;53 0 MARCHEN SUBJOINED LETTER KA;1 3 KHA;1 3 GA;1 3 NGA;1 3 CA;1 3 CHA;1 3 JA",
   "1 3 NYA;1 3 TA;1 3 THA;1 3 DA;1 3 NA;1 3 PA;1 3 PHA;1 3 BA;1 3 MA;1 3 TSA;1 3 TSHA",
   "1 3 DZA;1 3 WA;1 3 ZHA;1 3 ZA;2 3 YA;1 3 RA;1 3 LA;1 3 SHA;1 3 SA;1 3 HA;1 3 A",
   "1 1 VOWEL SIGN AA;1 3 I;1 3 U;1 3 E;1 3 O;1 1 SIGN ANUSVARA;1 2 CANDRABINDU",
   "7b 0 MASARAM GONDI VOWEL SIGN AA;1 4 I;1 4 II;1 4 U;1 4 UU;1 4 VOCALIC R;4 4 E;2 4 AI",
   "1 4 O;2 4 AU;1 2 SIGN ANUSVARA;1 3 VISARGA;1 3 NUKTA;1 3 CANDRA;1 3 HALANTA;1 2 VIRAMA",
   "2 2 RA-KARA;43 0 GUNJALA GONDI VOWEL SIGN AA;1 4 I;1 4 II;1 4 U;1 4 UU;2 4 EE;1 4 AI",
   "2 4 OO;1 4 AU;1 2 SIGN ANUSVARA;1 3 VISARGA;1 2 VIRAMA;15c 0 MAKASAR VOWEL SIGN I;1 3 U",
   "1 3 E;1 3 O;153a 0 EGYPTIAN HIEROGLYPH VERTICAL JOINER;1 2 HORIZONTAL JOINER",
   "1 2 INSERT AT TOP START;1 4 BOTTOM START;1 4 TOP END;1 4 BOTTOM END;1 2 OVERLAY MIDDLE",
   "1 2 BEGIN SEGMENT;1 2 END SEGMENT;36b8 0 BASSA VAH COMBINING HIGH TONE;1 3 LOW TONE",
   "1 3 MID TONE;1 3 LOW-MID TONE;1 3 HIGH-LOW TONE;3c 0 PAHAWH HMONG MARK CIM TUB;1 4 SO",
   "1 4 KES;1 4 KHAV;1 4 SUAM;1 4 HOM;1 4 TAUM;419 0 MIAO SIGN CONSONANT MODIFIER BAR",
   "2 2 ASPIRATION;1 2 REFORMED VOICING;1 3 ASPIRATION;1 1 VOWEL SIGN A;1 3 AA;1 3 AHH;1 3 AN",
   "1 3 ANG;1 3 O;1 3 OO;1 3 WO;1 3 W;1 3 E;1 3 EN;1 3 ENG;1 3 OEY;1 3 I;1 3 IA;1 3 IAN",
   "1 3 IANG;1 3 IO;1 3 IE;1 3 II;1 3 IU;1 3 ING;1 3 U;1 3 UA;1 3 UAN;1 3 UANG;1 3 UU;1 3 UEI",
   "1 3 UNG;1 3 Y;1 3 YI;1 3 AE;1 3 AEE;1 3 ERR;1 3 ROUNDED ERR;1 3 ER;1 3 ROUNDED ER;1 3 AI",
   "1 3 EI;1 3 AU;1 3 OU;1 3 N;1 3 NG;1 3 UOG;1 3 YUI;1 3 OG;1 3 OER;1 3 VW;1 3 IG;1 3 EA",
   "1 3 IONG;1 3 UI;8 1 TONE RIGHT;1 2 TOP RIGHT;1 2 ABOVE;1 2 BELOW",
   "52 0 KHITAN SMALL SCRIPT FILLER;c 0 VIETNAMESE ALTERNATE READING MARK CA;1 4 NHAY",
   "4cac 0 DUPLOYAN THICK LETTER SELECTOR;1 1 DOUBLE MARK;2 0 SHORTHAND FORMAT LETTER OVERLAP",
   "1 2 CONTINUING OVERLAP;1 2 DOWN STEP;1 2 UP STEP",
   "125d 0 ZNAMENNY COMBINING MARK GORAZDO NIZKO S KRYZHEM ON LEFT",
   "1 3 NIZKO S KRYZHEM ON LEFT;1 3 TSATA ON LEFT;1 3 GORAZDO NIZKO ON LEFT;1 3 NIZKO ON LEFT",
   "1 3 SREDNE ON LEFT;1 3 MALO POVYSHE ON LEFT;1 3 POVYSHE ON LEFT;1 3 VYSOKO ON LEFT",
   "1 3 MALO POVYSHE S KHOKHLOM ON LEFT;1 3 POVYSHE S KHOKHLOM ON LEFT",
   "1 3 VYSOKO S KHOKHLOM ON LEFT;1 3 GORAZDO NIZKO S KRYZHEM ON RIGHT",
   "1 3 NIZKO S KRYZHEM ON RIGHT;1 3 TSATA ON RIGHT;1 3 GORAZDO NIZKO ON RIGHT",
   "1 3 NIZKO ON RIGHT;1 3 SREDNE ON RIGHT;1 3 MALO POVYSHE ON RIGHT;1 3 POVYSHE ON RIGHT",
   "1 3 VYSOKO ON RIGHT;1 3 MALO POVYSHE S KHOKHLOM ON RIGHT;1 3 POVYSHE S KHOKHLOM ON RIGHT",
   "1 3 VYSOKO S KHOKHLOM ON RIGHT;1 3 TSATA S KRYZHEM;1 3 MALO POVYSHE S KRYZHEM",
   "1 3 STRANNO MALO POVYSHE;1 3 POVYSHE S KRYZHEM;1 4 STRANNO;1 3 VYSOKO S KRYZHEM",
   "1 3 MALO POVYSHE STRANNO;1 3 GORAZDO VYSOKO;1 3 ZELO;1 3 ON;1 3 RAVNO;1 3 TIKHAYA",
   "1 3 BORZAYA;1 3 UDARKA;1 3 PODVERTKA;1 3 LOMKA;1 3 KUPNAYA;1 3 KACHKA;1 3 ZEVOK;1 3 SKOBA",
   "1 3 RAZSEKA;1 3 KRYZH ON LEFT;3 2 TONAL RANGE MARK MRACHNO;1 5 SVETLO;1 5 TRESVETLO",
   "1 2 MARK ZADERZHKA;1 3 DEMESTVENNY ZADERZHKA;1 3 OTSECHKA;1 3 PODCHASHIE",
   "1 4 WITH VERTICAL STROKE;1 3 CHASHKA;1 4 POLNAYA;1 3 OBLACHKO;1 3 SOROCHYA NOZHKA",
   "1 3 TOCHKA;1 3 DVOETOCHIE;1 2 ATTACHING VERTICAL OMET;1 2 MARK CURVED OMET;1 3 KRYZH",
   "1 2 LOWER TONAL RANGE INDICATOR;1 1 PRIZNAK MODIFIER LEVEL-2;1 3 LEVEL-3",
   "1 3 DIRECTION FLIP;1 3 KRYZH;1 3 ROG;21f 0 MUSICAL SYMBOL COMBINING STEM",
   "1 3 SPRECHGESANG STEM;1 3 TREMOLO-1;1 3 TREMOLO-2;1 3 TREMOLO-3;4 3 AUGMENTATION DOT",
   "1 3 FLAG-1;1 3 FLAG-2;1 3 FLAG-3;1 3 FLAG-4;1 3 FLAG-5;1 2 BEGIN BEAM;1 2 END BEAM",
   "1 2 BEGIN TIE;1 2 END TIE;1 2 BEGIN SLUR;1 2 END SLUR;1 2 BEGIN PHRASE;1 2 END PHRASE",
   "1 2 COMBINING ACCENT;1 3 STACCATO;1 3 TENUTO;1 3 STACCATISSIMO;1 3 MARCATO",
   "1 3 MARCATO-STACCATO;1 3 ACCENT-STACCATO;1 3 LOURE;3 3 DOIT;1 3 RIP;1 3 FLIP;1 3 SMEAR",
   "1 3 BEND;1 3 DOUBLE TONGUE;1 3 TRIPLE TONGUE;1f 3 DOWN BOW;1 3 UP BOW;1 3 HARMONIC",
   "1 3 SNAP PIZZICATO;95 0 COMBINING GREEK MUSICAL TRISEME;1 3 TETRASEME;1 3 PENTASEME",
   "7bc 0 SIGNWRITING HEAD RIM;1 2 MOVEMENT-WALLPLANE STRAIGHT;1 3 TILT",
   "1 2 MOVEMENT-FLOORPLANE STRAIGHT;1 2 MOVEMENT-WALLPLANE CURVE",
   "1 2 MOVEMENT-FLOORPLANE CURVE;1 2 MOVEMENT CIRCLE",
   "1 1 FACE DIRECTION POSITION NOSE FORWARD TILTING;1 5 UP OR DOWN;1 8 TILTING",
   "1 1 EYEBROWS STRAIGHT UP;1 3 NEUTRAL;1 3 DOWN;1 1 DREAMY EYEBROWS NEUTRAL DOWN",
   "1 3 DOWN NEUTRAL;1 3 UP NEUTRAL;1 3 NEUTRAL UP;1 1 FOREHEAD NEUTRAL;1 2 CONTACT",
   "1 2 WRINKLED;1 1 EYES OPEN;1 2 SQUEEZED;1 2 CLOSED;1 1 EYE BLINK SINGLE;1 3 MULTIPLE",
   "1 1 EYES HALF OPEN;1 2 WIDE OPEN;1 2 HALF CLOSED;1 2 WIDENING MOVEMENT;1 1 EYE WINK",
   "1 1 EYELASHES UP;1 2 DOWN;1 2 FLUTTERING;1 1 EYEGAZE-WALLPLANE STRAIGHT;1 3 DOUBLE",
   "1 3 ALTERNATING;1 1 EYEGAZE-FLOORPLANE STRAIGHT;1 3 DOUBLE;1 3 ALTERNATING",
   "1 1 EYEGAZE-WALLPLANE CURVED;1 1 EYEGAZE-FLOORPLANE CURVED;1 1 EYEGAZE-WALLPLANE CIRCLING",
   "1 1 CHEEKS PUFFED;1 2 NEUTRAL;1 2 SUCKED;1 1 TENSE CHEEKS HIGH;1 3 MIDDLE;1 3 LOW",
   "1 1 EARS;1 1 NOSE NEUTRAL;1 2 CONTACT;1 2 WRINKLES;1 2 WIGGLES;1 1 AIR BLOWING OUT",
   "1 2 SUCKING IN;5 1 MOUTH CLOSED NEUTRAL;1 3 FORWARD;1 3 CONTACT;1 2 SMILE;1 3 WRINKLED",
   "1 3 OPEN;1 2 FROWN;1 3 WRINKLED;1 3 OPEN;1 2 OPEN CIRCLE;1 3 FORWARD;1 3 WRINKLED",
   "1 3 OVAL;1 4 WRINKLED;1 4 YAWN;1 3 RECTANGLE;1 4 WRINKLED;1 4 YAWN;1 2 KISS;1 3 FORWARD",
   "1 3 WRINKLED;1 2 TENSE;1 3 FORWARD;1 3 SUCKED;1 1 LIPS PRESSED TOGETHER",
   "1 1 LIP LOWER OVER UPPER;1 2 UPPER OVER LOWER;1 1 MOUTH CORNERS;1 2 WRINKLES SINGLE",
   "1 3 DOUBLE;1 1 TONGUE STICKING OUT FAR;1 2 LICKING LIPS;1 2 TIP BETWEEN LIPS",
   "1 3 TOUCHING INSIDE MOUTH;1 2 INSIDE MOUTH RELAXED;1 2 MOVES AGAINST CHEEK",
   "1 2 CENTRE STICKING OUT;1 3 INSIDE MOUTH;1 1 TEETH;1 2 MOVEMENT;1 2 ON TONGUE",
   "1 4 MOVEMENT;1 3 LIPS;1 4 MOVEMENT;1 2 BITE LIPS;1 1 MOVEMENT-WALLPLANE JAW",
   "1 1 MOVEMENT-FLOORPLANE JAW;1 1 NECK;1 1 HAIR;1 1 EXCITEMENT",
   "9 1 UPPER BODY TILTING FROM HIP JOINTS;f 1 LOCATION HEAD NECK;17 1 FILL MODIFIER-2",
   "1 2 MODIFIER-3;1 2 MODIFIER-4;1 2 MODIFIER-5;1 2 MODIFIER-6;2 1 ROTATION MODIFIER-2",
   "1 2 MODIFIER-3;1 2 MODIFIER-4;1 2 MODIFIER-5;1 2 MODIFIER-6;1 2 MODIFIER-7;1 2 MODIFIER-8",
   "1 2 MODIFIER-9;1 2 MODIFIER-10;1 2 MODIFIER-11;1 2 MODIFIER-12;1 2 MODIFIER-13",
   "1 2 MODIFIER-14;1 2 MODIFIER-15;1 2 MODIFIER-16;551 0 COMBINING GLAGOLITIC LETTER AZU",
   "1 3 BUKY;1 3 VEDE;1 3 GLAGOLI;1 3 DOBRO;1 3 YESTU;1 3 ZHIVETE;2 3 ZEMLJA;1 3 IZHE",
   "1 3 INITIAL IZHE;1 3 I;1 3 DJERVI;1 3 KAKO;1 3 LJUDIJE;1 3 MYSLITE;1 3 NASHI;1 3 ONU",
   "1 3 POKOJI;1 3 RITSI;1 3 SLOVO;1 3 TVRIDO;1 3 UKU;1 3 FRITU;1 3 HERU;3 3 SHTA;1 3 TSI",
   "1 3 CHRIVI;1 3 SHA;1 3 YERU;1 3 YERI;1 3 YATI;2 3 YU;1 3 SMALL YUS;2 3 YO",
   "1 3 IOTATED SMALL YUS;1 3 BIG YUS;1 3 IOTATED BIG YUS;1 3 FITA",
   "106 0 NYIAKENG PUACHUE HMONG TONE-B;1 3 TONE-M;1 3 TONE-J;1 3 TONE-V;1 3 TONE-S",
   "1 3 TONE-G;1 3 TONE-D;178 0 TOTO SIGN RISING TONE;3e 0 WANCHO TONE TUP;1 2 TUPNI;1 2 KOI",
   "1 2 KOINI;5e1 0 MENDE KIKAKUI COMBINING NUMBER TEENS;1 4 TENS;1 4 HUNDREDS;1 4 THOUSANDS",
   "1 4 TEN THOUSANDS;1 4 HUNDRED THOUSANDS;1 4 MILLIONS;6e 0 ADLAM ALIF LENGTHENER",
   "1 1 VOWEL LENGTHENER;1 1 GEMINATION MARK;1 1 HAMZA;1 1 CONSONANT MODIFIER",
   "1 1 GEMINATE CONSONANT MODIFIER;1 1 NUKTA;c16b7 0 LANGUAGE TAG;1f 0 TAG SPACE",
   "1 1 EXCLAMATION MARK;1 1 QUOTATION MARK;1 1 NUMBER SIGN;1 1 DOLLAR SIGN;1 1 PERCENT SIGN",
   "1 1 AMPERSAND;1 1 APOSTROPHE;1 1 LEFT PARENTHESIS;1 1 RIGHT PARENTHESIS;1 1 ASTERISK",
   "1 1 PLUS SIGN;1 1 COMMA;1 1 HYPHEN-MINUS;1 1 FULL STOP;1 1 SOLIDUS;1 1 DIGIT ZERO;1 2 ONE",
   "1 2 TWO;1 2 THREE;1 2 FOUR;1 2 FIVE;1 2 SIX;1 2 SEVEN;1 2 EIGHT;1 2 NINE;1 1 COLON",
   "1 1 SEMICOLON;1 1 LESS-THAN SIGN;1 1 EQUALS SIGN;1 1 GREATER-THAN SIGN;1 1 QUESTION MARK",
   "1 1 COMMERCIAL AT;1 1 LATIN CAPITAL LETTER A;1 4 B;1 4 C;1 4 D;1 4 E;1 4 F;1 4 G;1 4 H",
   "1 4 I;1 4 J;1 4 K;1 4 L;1 4 M;1 4 N;1 4 O;1 4 P;1 4 Q;1 4 R;1 4 S;1 4 T;1 4 U;1 4 V;1 4 W",
   "1 4 X;1 4 Y;1 4 Z;1 1 LEFT SQUARE BRACKET;1 1 REVERSE SOLIDUS;1 1 RIGHT SQUARE BRACKET",
   "1 1 CIRCUMFLEX ACCENT;1 1 LOW LINE;1 1 GRAVE ACCENT;1 1 LATIN SMALL LETTER A;1 4 B;1 4 C",
   "1 4 D;1 4 E;1 4 F;1 4 G;1 4 H;1 4 I;1 4 J;1 4 K;1 4 L;1 4 M;1 4 N;1 4 O;1 4 P;1 4 Q;1 4 R",
   "1 4 S;1 4 T;1 4 U;1 4 V;1 4 W;1 4 X;1 4 Y;1 4 Z;1 1 LEFT CURLY BRACKET;1 1 VERTICAL LINE",
   "1 1 RIGHT CURLY BRACKET;1 1 TILDE;1 0 CANCEL TAG"]

/-- A code point with the words of its name. -/
abbrev Named := Nat × List (List Char)

/-- The names that an entry of the table adds, the last one first. -/
def addName (names : List Named) (entry : List Char) : List Named :=
  let before : Named := names.headD (0, [])
  match Text.splitOn ' ' entry with
  | gap :: kept :: words =>
      (before.1 + number gap, before.2.take (number kept) ++ words) :: names
  | _ => names

/-- The names of the table. -/
def names : List Named :=
  (nameTable.flatMap fun line => Text.splitOn ';' line.toList).foldl addName []

/-! ### Names -/

/-- The name of a variation selector. -/
def selectorName? (n : Nat) : Option String :=
  let title (k : Nat) : String := "VARIATION SELECTOR-" ++ toString k
  if 0xFE00 ≤ n ∧ n ≤ 0xFE0F then some (title (n - 0xFE00 + 1))
  else if 0xE0100 ≤ n ∧ n ≤ 0xE01EF then some (title (n - 0xE0100 + 17))
  else none

/-- The name of a code point that cannot be shown, if it has one. -/
def name? (n : Nat) : Option String :=
  match selectorName? n with
  | some s => some s
  | none => (names.lookup n).map fun words => Text.joined " " (words.map String.ofList)

/-- The name made from the number of a code point, in four digits or else in eight. -/
def codeName (n : Nat) : String :=
  let digits := Text.hexPadded (if n < 0xFFFF then 4 else 8) n
  "U+" ++ String.ofList (digits.map Char.toUpper)

end JobHerald.Unicode

import OAuthGrant.Text.NameRun

/-!
# Names of characters: MiddleEastern

The data of the Unicode standard, version 14, for the code points from U+0590 to U+08FF.
-/

namespace OAuthGrant.Text.CharacterName

def middleEasternNames : List NameRun :=
  [⟨0x591, "HEBREW ACCENT ", ["ETNAHTA,SEGOL,SHALSHELET,ZAQEF QATAN,ZAQEF GADOL,TIPEHA,REVIA",
     "ZARQA,PASHTA,YETIV,TEVIR,GERESH,GERESH MUQDAM,GERSHAYIM,QARNEY PARA,TELISHA GEDOLA,PAZER",
     "ATNAH HAFUKH,MUNAH,MAHAPAKH,MERKHA,MERKHA KEFULA,DARGA,QADMA,TELISHA QETANA,YERAH BEN YOMO",
     "OLE,ILUY,DEHI,ZINOR"]⟩,
   ⟨0x5AF, "HEBREW MARK MASORA ", ["CIRCLE"]⟩,
   ⟨0x5B0, "HEBREW POINT ", ["SHEVA,HATAF SEGOL,HATAF PATAH,HATAF QAMATS,HIRIQ,TSERE,SEGOL,PATAH",
     "QAMATS,HOLAM,HOLAM HASER FOR VAV,QUBUTS,DAGESH OR MAPIQ,METEG"]⟩,
   ⟨0x5BE, "HEBREW ", ["PUNCTUATION MAQAF,POINT RAFE,PUNCTUATION PASEQ,POINT SHIN DOT",
     "POINT SIN DOT,PUNCTUATION SOF PASUQ,MARK UPPER DOT,MARK LOWER DOT,PUNCTUATION NUN HAFUKHA",
     "POINT QAMATS QATAN"]⟩,
   ⟨0x5D0, "HEBREW LETTER ", ["ALEF,BET,GIMEL,DALET,HE,VAV,ZAYIN,HET,TET,YOD,FINAL KAF,KAF,LAMED",
     "FINAL MEM,MEM,FINAL NUN,NUN,SAMEKH,AYIN,FINAL PE,PE,FINAL TSADI,TSADI,QOF,RESH,SHIN,TAV"]⟩,
   ⟨0x5EF, "HEBREW YOD ", ["TRIANGLE"]⟩,
   ⟨0x5F0, "HEBREW LIGATURE YIDDISH ", ["DOUBLE VAV,VAV YOD,DOUBLE YOD"]⟩,
   ⟨0x5F3, "HEBREW PUNCTUATION ", ["GERESH,GERSHAYIM"]⟩,
   ⟨0x600, "ARABIC ", ["NUMBER SIGN,SIGN SANAH,FOOTNOTE MARKER,SIGN SAFHA,SIGN SAMVAT",
     "NUMBER MARK ABOVE"]⟩,
   ⟨0x606, "ARABIC-INDIC ", ["CUBE ROOT,FOURTH ROOT"]⟩,
   ⟨0x608, "", ["ARABIC RAY,ARABIC-INDIC PER MILLE SIGN,ARABIC-INDIC PER TEN THOUSAND SIGN",
     "AFGHANI SIGN"]⟩,
   ⟨0x60C, "ARABIC ", ["COMMA,DATE SEPARATOR,POETIC VERSE SIGN,SIGN MISRA",
     "SIGN SALLALLAHOU ALAYHE WASSALLAM,SIGN ALAYHE ASSALLAM,SIGN RAHMATULLAH ALAYHE",
     "SIGN RADI ALLAHOU ANHU,SIGN TAKHALLUS,SMALL HIGH TAH",
     "SMALL HIGH LIGATURE ALEF WITH LAM WITH YEH,SMALL HIGH ZAIN,SMALL FATHA,SMALL DAMMA",
     "SMALL KASRA,SEMICOLON,LETTER MARK,END OF TEXT MARK,TRIPLE DOT PUNCTUATION MARK",
     "QUESTION MARK"]⟩,
   ⟨0x620, "ARABIC LETTER ", ["KASHMIRI YEH,HAMZA,ALEF WITH MADDA ABOVE,ALEF WITH HAMZA ABOVE",
     "WAW WITH HAMZA ABOVE,ALEF WITH HAMZA BELOW,YEH WITH HAMZA ABOVE,ALEF,BEH,TEH MARBUTA,TEH",
     "THEH,JEEM,HAH,KHAH,DAL,THAL,REH,ZAIN,SEEN,SHEEN,SAD,DAD,TAH,ZAH,AIN,GHAIN",
     "KEHEH WITH TWO DOTS ABOVE,KEHEH WITH THREE DOTS BELOW"]⟩,
   ⟨0x63D, "ARABIC LETTER FARSI YEH WITH ", ["INVERTED V,TWO DOTS ABOVE,THREE DOTS ABOVE"]⟩,
   ⟨0x640, "ARABIC ", ["TATWEEL"]⟩,
   ⟨0x641, "ARABIC LETTER ", ["FEH,QAF,KAF,LAM,MEEM,NOON,HEH,WAW,ALEF MAKSURA,YEH"]⟩,
   ⟨0x64B, "ARABIC ", ["FATHATAN,DAMMATAN,KASRATAN,FATHA,DAMMA,KASRA,SHADDA,SUKUN,MADDAH ABOVE",
     "HAMZA ABOVE,HAMZA BELOW,SUBSCRIPT ALEF,INVERTED DAMMA,MARK NOON GHUNNA,ZWARAKAY",
     "VOWEL SIGN SMALL V ABOVE,VOWEL SIGN INVERTED SMALL V ABOVE,VOWEL SIGN DOT BELOW",
     "REVERSED DAMMA,FATHA WITH TWO DOTS,WAVY HAMZA BELOW"]⟩,
   ⟨0x660, "ARABIC-INDIC DIGIT ", ["ZERO,ONE,TWO,THREE,FOUR,FIVE,SIX,SEVEN,EIGHT,NINE"]⟩,
   ⟨0x66A, "ARABIC ", ["PERCENT SIGN,DECIMAL SEPARATOR,THOUSANDS SEPARATOR,FIVE POINTED STAR"]⟩,
   ⟨0x66E, "ARABIC LETTER ", ["DOTLESS BEH,DOTLESS QAF,SUPERSCRIPT ALEF,ALEF WASLA",
     "ALEF WITH WAVY HAMZA ABOVE,ALEF WITH WAVY HAMZA BELOW,HIGH HAMZA,HIGH HAMZA ALEF",
     "HIGH HAMZA WAW,U WITH HAMZA ABOVE,HIGH HAMZA YEH,TTEH,TTEHEH,BEEH,TEH WITH RING",
     "TEH WITH THREE DOTS ABOVE DOWNWARDS,PEH,TEHEH,BEHEH,HAH WITH HAMZA ABOVE",
     "HAH WITH TWO DOTS VERTICAL ABOVE,NYEH,DYEH,HAH WITH THREE DOTS ABOVE,TCHEH,TCHEHEH,DDAL",
     "DAL WITH RING,DAL WITH DOT BELOW,DAL WITH DOT BELOW AND SMALL TAH,DAHAL,DDAHAL,DUL",
     "DAL WITH THREE DOTS ABOVE DOWNWARDS,DAL WITH FOUR DOTS ABOVE,RREH,REH WITH SMALL V",
     "REH WITH RING,REH WITH DOT BELOW,REH WITH SMALL V BELOW,REH WITH DOT BELOW AND DOT ABOVE",
     "REH WITH TWO DOTS ABOVE,JEH,REH WITH FOUR DOTS ABOVE,SEEN WITH DOT BELOW AND DOT ABOVE",
     "SEEN WITH THREE DOTS BELOW,SEEN WITH THREE DOTS BELOW AND THREE DOTS ABOVE",
     "SAD WITH TWO DOTS BELOW,SAD WITH THREE DOTS ABOVE,TAH WITH THREE DOTS ABOVE",
     "AIN WITH THREE DOTS ABOVE,DOTLESS FEH,FEH WITH DOT MOVED BELOW,FEH WITH DOT BELOW,VEH",
     "FEH WITH THREE DOTS BELOW,PEHEH,QAF WITH DOT ABOVE,QAF WITH THREE DOTS ABOVE,KEHEH",
     "SWASH KAF,KAF WITH RING,KAF WITH DOT ABOVE,NG,KAF WITH THREE DOTS BELOW,GAF,GAF WITH RING",
     "NGOEH,GAF WITH TWO DOTS BELOW,GUEH,GAF WITH THREE DOTS ABOVE,LAM WITH SMALL V",
     "LAM WITH DOT ABOVE,LAM WITH THREE DOTS ABOVE,LAM WITH THREE DOTS BELOW,NOON WITH DOT BELOW",
     "NOON GHUNNA,RNOON,NOON WITH RING,NOON WITH THREE DOTS ABOVE,HEH DOACHASHMEE",
     "TCHEH WITH DOT ABOVE,HEH WITH YEH ABOVE,HEH GOAL,HEH GOAL WITH HAMZA ABOVE",
     "TEH MARBUTA GOAL,WAW WITH RING,KIRGHIZ OE,OE,U,YU,KIRGHIZ YU,WAW WITH TWO DOTS ABOVE,VE",
     "FARSI YEH,YEH WITH TAIL,YEH WITH SMALL V,WAW WITH DOT ABOVE,E,YEH WITH THREE DOTS BELOW",
     "YEH BARREE,YEH BARREE WITH HAMZA ABOVE"]⟩,
   ⟨0x6D4, "ARABIC ", ["FULL STOP,LETTER AE"]⟩,
   ⟨0x6D6, "ARABIC SMALL HIGH ", ["LIGATURE SAD WITH LAM WITH ALEF MAKSURA",
     "LIGATURE QAF WITH LAM WITH ALEF MAKSURA,MEEM INITIAL FORM,LAM ALEF,JEEM,THREE DOTS,SEEN"]⟩,
   ⟨0x6DD, "ARABIC ", ["END OF AYAH,START OF RUB EL HIZB"]⟩,
   ⟨0x6DF, "ARABIC SMALL ", ["HIGH ROUNDED ZERO,HIGH UPRIGHT RECTANGULAR ZERO",
     "HIGH DOTLESS HEAD OF KHAH,HIGH MEEM ISOLATED FORM,LOW SEEN,HIGH MADDA,WAW,YEH,HIGH YEH",
     "HIGH NOON"]⟩,
   ⟨0x6E9, "ARABIC ", ["PLACE OF SAJDAH,EMPTY CENTRE LOW STOP,EMPTY CENTRE HIGH STOP",
     "ROUNDED HIGH STOP WITH FILLED CENTRE,SMALL LOW MEEM,LETTER DAL WITH INVERTED V",
     "LETTER REH WITH INVERTED V"]⟩,
   ⟨0x6F0, "EXTENDED ARABIC-INDIC DIGIT ", ["ZERO,ONE,TWO,THREE,FOUR,FIVE,SIX,SEVEN,EIGHT,NINE"]⟩,
   ⟨0x6FA, "ARABIC ", ["LETTER SHEEN WITH DOT BELOW,LETTER DAD WITH DOT BELOW",
     "LETTER GHAIN WITH DOT BELOW,SIGN SINDHI AMPERSAND,SIGN SINDHI POSTPOSITION MEN",
     "LETTER HEH WITH INVERTED V"]⟩,
   ⟨0x700, "SYRIAC ", ["END OF PARAGRAPH,SUPRALINEAR FULL STOP,SUBLINEAR FULL STOP",
     "SUPRALINEAR COLON,SUBLINEAR COLON,HORIZONTAL COLON,COLON SKEWED LEFT,COLON SKEWED RIGHT",
     "SUPRALINEAR COLON SKEWED LEFT,SUBLINEAR COLON SKEWED RIGHT,CONTRACTION,HARKLEAN OBELUS",
     "HARKLEAN METOBELUS,HARKLEAN ASTERISCUS,,ABBREVIATION MARK"]⟩,
   ⟨0x710, "SYRIAC LETTER ", ["ALAPH,SUPERSCRIPT ALAPH,BETH,GAMAL,GAMAL GARSHUNI,DALATH",
     "DOTLESS DALATH RISH,HE,WAW,ZAIN,HETH,TETH,TETH GARSHUNI,YUDH,YUDH HE,KAPH,LAMADH,MIM,NUN",
     "SEMKATH,FINAL SEMKATH,E,PE,REVERSED PE,SADHE,QAPH,RISH,SHIN,TAW,PERSIAN BHETH",
     "PERSIAN GHAMAL,PERSIAN DHALATH"]⟩,
   ⟨0x730, "SYRIAC ", ["PTHAHA ABOVE,PTHAHA BELOW,PTHAHA DOTTED,ZQAPHA ABOVE,ZQAPHA BELOW",
     "ZQAPHA DOTTED,RBASA ABOVE,RBASA BELOW,DOTTED ZLAMA HORIZONTAL,DOTTED ZLAMA ANGULAR",
     "HBASA ABOVE,HBASA BELOW,HBASA-ESASA DOTTED,ESASA ABOVE,ESASA BELOW,RWAHA,FEMININE DOT",
     "QUSHSHAYA,RUKKAKHA,TWO VERTICAL DOTS ABOVE,TWO VERTICAL DOTS BELOW,THREE DOTS ABOVE",
     "THREE DOTS BELOW,OBLIQUE LINE ABOVE,OBLIQUE LINE BELOW,MUSIC,BARREKH"]⟩,
   ⟨0x74D, "SYRIAC LETTER SOGDIAN ", ["ZHAIN,KHAPH,FE"]⟩,
   ⟨0x750, "ARABIC LETTER BEH WITH ", ["THREE DOTS HORIZONTALLY BELOW",
     "DOT BELOW AND THREE DOTS ABOVE,THREE DOTS POINTING UPWARDS BELOW",
     "THREE DOTS POINTING UPWARDS BELOW AND TWO DOTS ABOVE,TWO DOTS BELOW AND DOT ABOVE",
     "INVERTED SMALL V BELOW,SMALL V"]⟩,
   ⟨0x757, "ARABIC LETTER ", ["HAH WITH TWO DOTS ABOVE,HAH WITH THREE DOTS POINTING UPWARDS BELOW",
     "DAL WITH TWO DOTS VERTICALLY BELOW AND SMALL TAH,DAL WITH INVERTED SMALL V BELOW",
     "REH WITH STROKE,SEEN WITH FOUR DOTS ABOVE,AIN WITH TWO DOTS ABOVE",
     "AIN WITH THREE DOTS POINTING DOWNWARDS ABOVE,AIN WITH TWO DOTS VERTICALLY ABOVE",
     "FEH WITH TWO DOTS BELOW,FEH WITH THREE DOTS POINTING UPWARDS BELOW,KEHEH WITH DOT ABOVE",
     "KEHEH WITH THREE DOTS ABOVE,KEHEH WITH THREE DOTS POINTING UPWARDS BELOW",
     "MEEM WITH DOT ABOVE,MEEM WITH DOT BELOW,NOON WITH TWO DOTS BELOW,NOON WITH SMALL TAH",
     "NOON WITH SMALL V,LAM WITH BAR,REH WITH TWO DOTS VERTICALLY ABOVE,REH WITH HAMZA ABOVE",
     "SEEN WITH TWO DOTS VERTICALLY ABOVE,HAH WITH SMALL ARABIC LETTER TAH BELOW",
     "HAH WITH SMALL ARABIC LETTER TAH AND TWO DOTS",
     "SEEN WITH SMALL ARABIC LETTER TAH AND TWO DOTS",
     "REH WITH SMALL ARABIC LETTER TAH AND TWO DOTS,HAH WITH SMALL ARABIC LETTER TAH ABOVE"]⟩,
   ⟨0x773, "ARABIC LETTER ALEF WITH EXTENDED ARABIC-INDIC DIGIT ", ["TWO ABOVE,THREE ABOVE"]⟩,
   ⟨0x775, "ARABIC LETTER FARSI YEH WITH EXTENDED ARABIC-INDIC DIGIT ", ["TWO ABOVE,THREE ABOVE",
     "FOUR BELOW"]⟩,
   ⟨0x778, "ARABIC LETTER WAW WITH EXTENDED ARABIC-INDIC DIGIT ", ["TWO ABOVE,THREE ABOVE"]⟩,
   ⟨0x77A, "ARABIC LETTER YEH BARREE WITH EXTENDED ARABIC-INDIC DIGIT ", ["TWO ABOVE,THREE ABOVE"]⟩,
   ⟨0x77C, "ARABIC LETTER ", ["HAH WITH EXTENDED ARABIC-INDIC DIGIT FOUR BELOW",
     "SEEN WITH EXTENDED ARABIC-INDIC DIGIT FOUR ABOVE,SEEN WITH INVERTED V",
     "KAF WITH TWO DOTS ABOVE"]⟩,
   ⟨0x780, "THAANA LETTER ", ["HAA,SHAVIYANI,NOONU,RAA,BAA,LHAVIYANI,KAAFU,ALIFU,VAAVU,MEEMU",
     "FAAFU,DHAALU,THAA,LAAMU,GAAFU,GNAVIYANI,SEENU,DAVIYANI,ZAVIYANI,TAVIYANI,YAA,PAVIYANI",
     "JAVIYANI,CHAVIYANI,TTAA,HHAA,KHAA,THAALU,ZAA,SHEENU,SAADHU,DAADHU,TO,ZO,AINU,GHAINU,QAAFU",
     "WAAVU"]⟩,
   ⟨0x7A6, "THAANA ", ["ABAFILI,AABAAFILI,IBIFILI,EEBEEFILI,UBUFILI,OOBOOFILI,EBEFILI,EYBEYFILI",
     "OBOFILI,OABOAFILI,SUKUN,LETTER NAA"]⟩,
   ⟨0x7C0, "NKO DIGIT ", ["ZERO,ONE,TWO,THREE,FOUR,FIVE,SIX,SEVEN,EIGHT,NINE"]⟩,
   ⟨0x7CA, "NKO LETTER ", ["A,EE,I,E,U,OO,O,DAGBASINNA,N,BA,PA,TA,JA,CHA,DA,RA,RRA,SA,GBA,FA,KA",
     "LA,NA WOLOSO,MA,NYA,NA,HA,WA,YA,NYA WOLOSO,JONA JA,JONA CHA,JONA RA"]⟩,
   ⟨0x7EB, "NKO COMBINING ", ["SHORT HIGH TONE,SHORT LOW TONE,SHORT RISING TONE",
     "LONG DESCENDING TONE,LONG HIGH TONE,LONG LOW TONE,LONG RISING TONE,NASALIZATION MARK",
     "DOUBLE DOT ABOVE"]⟩,
   ⟨0x7F4, "NKO ", ["HIGH TONE APOSTROPHE,LOW TONE APOSTROPHE,SYMBOL OO DENNEN,SYMBOL GBAKURUNEN",
     "COMMA,EXCLAMATION MARK,LAJANYALAN,,,DANTAYALAN,DOROME SIGN,TAMAN SIGN"]⟩,
   ⟨0x800, "SAMARITAN LETTER ", ["ALAF,BIT,GAMAN,DALAT,IY,BAA,ZEN,IT,TIT,YUT,KAAF,LABAT,MIM,NUN",
     "SINGAAT,IN,FI,TSAADIY,QUF,RISH,SHAN,TAAF"]⟩,
   ⟨0x816, "SAMARITAN ", ["MARK IN,MARK IN-ALAF,MARK OCCLUSION,MARK DAGESH",
     "MODIFIER LETTER EPENTHETIC YUT,MARK EPENTHETIC YUT"]⟩,
   ⟨0x81C, "SAMARITAN VOWEL SIGN ", ["LONG E,E,OVERLONG AA,LONG AA,AA,OVERLONG A,LONG A,A"]⟩,
   ⟨0x824, "SAMARITAN ", ["MODIFIER LETTER SHORT A,VOWEL SIGN SHORT A,VOWEL SIGN LONG U",
     "VOWEL SIGN U,MODIFIER LETTER I,VOWEL SIGN LONG I,VOWEL SIGN I,VOWEL SIGN O",
     "VOWEL SIGN SUKUN,MARK NEQUDAA"]⟩,
   ⟨0x830, "SAMARITAN PUNCTUATION ", ["NEQUDAA,AFSAAQ,ANGED,BAU,ATMAAU,SHIYYAALAA"]⟩,
   ⟨0x836, "SAMARITAN ABBREVIATION ", ["MARK"]⟩,
   ⟨0x837, "SAMARITAN PUNCTUATION ", ["MELODIC QITSA,ZIQAA,QITSA,ZAEF,TURU,ARKAANU,SOF MASHFAAT",
     "ANNAAU"]⟩,
   ⟨0x840, "MANDAIC LETTER ", ["HALQA,AB,AG,AD,AH,USHENNA,AZ,IT,ATT,AKSA,AK,AL,AM,AN,AS,IN,AP,ASZ",
     "AQ,AR,ASH,AT,DUSHENNA,KAD,AIN"]⟩,
   ⟨0x859, "MANDAIC ", ["AFFRICATION MARK,VOCALIZATION MARK,GEMINATION MARK,,,PUNCTUATION"]⟩,
   ⟨0x860, "SYRIAC LETTER MALAYALAM ", ["NGA,JA,NYA,TTA,NNA,NNNA,BHA,RA,LLA,LLLA,SSA"]⟩,
   ⟨0x870, "ARABIC LETTER ALEF WITH ", ["ATTACHED FATHA,ATTACHED TOP RIGHT FATHA",
     "RIGHT MIDDLE STROKE,LEFT MIDDLE STROKE,ATTACHED KASRA,ATTACHED BOTTOM RIGHT KASRA",
     "ATTACHED ROUND DOT ABOVE,ATTACHED RIGHT ROUND DOT,ATTACHED LEFT ROUND DOT",
     "ATTACHED ROUND DOT BELOW,DOT ABOVE,ATTACHED TOP RIGHT FATHA AND DOT ABOVE",
     "RIGHT MIDDLE STROKE AND DOT ABOVE,ATTACHED BOTTOM RIGHT KASRA AND DOT ABOVE",
     "ATTACHED TOP RIGHT FATHA AND LEFT RING,RIGHT MIDDLE STROKE AND LEFT RING",
     "ATTACHED BOTTOM RIGHT KASRA AND LEFT RING,ATTACHED RIGHT HAMZA,ATTACHED LEFT HAMZA"]⟩,
   ⟨0x883, "ARABIC TATWEEL WITH ", ["OVERSTRUCK HAMZA,OVERSTRUCK WAW,TWO DOTS BELOW"]⟩,
   ⟨0x886, "ARABIC ", ["LETTER THIN YEH,BASELINE ROUND DOT,RAISED ROUND DOT",
     "LETTER NOON WITH INVERTED SMALL V,LETTER HAH WITH INVERTED SMALL V BELOW",
     "LETTER TAH WITH DOT BELOW,LETTER TAH WITH THREE DOTS BELOW",
     "LETTER KEHEH WITH TWO DOTS VERTICALLY BELOW,VERTICAL TAIL,,POUND MARK ABOVE",
     "PIASTRE MARK ABOVE,,,,,,,SMALL HIGH WORD AL-JUZ,SMALL LOW WORD ISHMAAM",
     "SMALL LOW WORD IMAALA,SMALL LOW WORD TASHEEL,MADDA WAAJIB,SUPERSCRIPT ALEF MOKHASSAS",
     "DOUBLED MADDA,HALF MADDA OVER MADDA"]⟩,
   ⟨0x8A0, "ARABIC LETTER ", ["BEH WITH SMALL V BELOW,BEH WITH HAMZA ABOVE",
     "JEEM WITH TWO DOTS ABOVE,TAH WITH TWO DOTS ABOVE,FEH WITH DOT BELOW AND THREE DOTS ABOVE",
     "QAF WITH DOT BELOW,LAM WITH DOUBLE BAR,MEEM WITH THREE DOTS ABOVE",
     "YEH WITH TWO DOTS BELOW AND HAMZA ABOVE,YEH WITH TWO DOTS BELOW AND DOT ABOVE",
     "REH WITH LOOP,WAW WITH DOT WITHIN,ROHINGYA YEH,LOW ALEF,DAL WITH THREE DOTS BELOW",
     "SAD WITH THREE DOTS BELOW,GAF WITH INVERTED STROKE,STRAIGHT WAW,ZAIN WITH INVERTED V ABOVE",
     "AIN WITH THREE DOTS BELOW,KAF WITH DOT BELOW,QAF WITH DOT BELOW AND NO DOTS ABOVE",
     "BEH WITH SMALL MEEM ABOVE,PEH WITH SMALL MEEM ABOVE,TEH WITH SMALL TEH ABOVE",
     "REH WITH SMALL NOON ABOVE,YEH WITH TWO DOTS BELOW AND SMALL NOON ABOVE,AFRICAN FEH",
     "AFRICAN QAF,AFRICAN NOON,PEH WITH SMALL V,TEH WITH SMALL V,TTEH WITH SMALL V",
     "TCHEH WITH SMALL V,KEHEH WITH SMALL V,GHAIN WITH THREE DOTS ABOVE",
     "AFRICAN QAF WITH THREE DOTS ABOVE,JEEM WITH THREE DOTS ABOVE,JEEM WITH THREE DOTS BELOW",
     "LAM WITH SMALL ARABIC LETTER TAH ABOVE,GRAF"]⟩,
   ⟨0x8C9, "ARABIC SMALL ", ["FARSI YEH,HIGH FARSI YEH,HIGH YEH BARREE WITH TWO DOTS BELOW",
     "HIGH WORD SAH,HIGH ZAH"]⟩,
   ⟨0x8CE, "ARABIC ", ["LARGE ROUND DOT ABOVE,LARGE ROUND DOT BELOW,SUKUN BELOW",
     "LARGE CIRCLE BELOW,LARGE ROUND DOT INSIDE CIRCLE BELOW,SMALL LOW WAW"]⟩,
   ⟨0x8D4, "ARABIC SMALL ", ["HIGH WORD AR-RUB,HIGH SAD,HIGH AIN,HIGH QAF,HIGH NOON WITH KASRA",
     "LOW NOON WITH KASRA"]⟩,
   ⟨0x8DA, "ARABIC SMALL HIGH WORD ", ["ATH-THALATHA,AS-SAJDA,AN-NISF,SAKTA,QIF,WAQFA"]⟩,
   ⟨0x8E0, "ARABIC ", ["SMALL HIGH FOOTNOTE MARKER,SMALL HIGH SIGN SAFHA,DISPUTED END OF AYAH",
     "TURNED DAMMA BELOW"]⟩,
   ⟨0x8E4, "ARABIC CURLY ", ["FATHA,DAMMA,KASRA,FATHATAN,DAMMATAN,KASRATAN"]⟩,
   ⟨0x8EA, "ARABIC TONE ", ["ONE DOT ABOVE,TWO DOTS ABOVE,LOOP ABOVE,ONE DOT BELOW,TWO DOTS BELOW",
     "LOOP BELOW"]⟩,
   ⟨0x8F0, "ARABIC ", ["OPEN FATHATAN,OPEN DAMMATAN,OPEN KASRATAN,SMALL HIGH WAW,FATHA WITH RING",
     "FATHA WITH DOT ABOVE,KASRA WITH DOT BELOW,LEFT ARROWHEAD ABOVE,RIGHT ARROWHEAD ABOVE",
     "LEFT ARROWHEAD BELOW,RIGHT ARROWHEAD BELOW,DOUBLE RIGHT ARROWHEAD ABOVE",
     "DOUBLE RIGHT ARROWHEAD ABOVE WITH DOT,RIGHT ARROWHEAD ABOVE WITH DOT,DAMMA WITH DOT",
     "MARK SIDEWAYS NOON GHUNNA"]⟩]

end OAuthGrant.Text.CharacterName

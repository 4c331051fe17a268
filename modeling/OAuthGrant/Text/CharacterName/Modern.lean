import OAuthGrant.Text.NameRun

/-!
# Names of characters: Modern

The data of the Unicode standard, version 14, for the code points from U+A4D0 to U+DFFF.
-/

namespace OAuthGrant.Text.CharacterName

/-- The names of scripts from Lisu and Vai to Meetei Mayek. -/
def modernNames : List NameRun :=
  [⟨0xA4D0, "LISU LETTER ", ["BA,PA,PHA,DA,TA,THA,GA,KA,KHA,JA,CA,CHA,DZA,TSA,TSHA,MA,NA,LA,SA",
     "ZHA,ZA,NGA,HA,XA,HHA,FA,WA,SHA,YA,GHA,A,AE,E,EU,I,O,U,UE,UH,OE,TONE MYA TI,TONE NA PO"]⟩,
   ⟨0xA4FA, "LISU LETTER TONE MYA ", ["CYA,BO,NA,JEU"]⟩,
   ⟨0xA4FE, "LISU PUNCTUATION ", ["COMMA,FULL STOP"]⟩,
   ⟨0xA500, "VAI SYLLABLE ", ["EE,EEN,HEE,WEE,WEEN,PEE,BHEE,BEE,MBEE,KPEE,MGBEE,GBEE,FEE,VEE,TEE",
     "THEE,DHEE,DHHEE,LEE,REE,DEE,NDEE,SEE,SHEE,ZEE,ZHEE,CEE,JEE,NJEE,YEE,KEE,NGGEE,GEE,MEE,NEE",
     "NYEE,I,IN,HI,HIN,WI,WIN,PI,BHI,BI,MBI,KPI,MGBI,GBI,FI,VI,TI,THI,DHI,DHHI,LI,RI,DI,NDI,SI",
     "SHI,ZI,ZHI,CI,JI,NJI,YI,KI,NGGI,GI,MI,NI,NYI,A,AN,NGAN,HA,HAN,WA,WAN,PA,BHA,BA,MBA,KPA",
     "KPAN,MGBA,GBA,FA,VA,TA,THA,DHA,DHHA,LA,RA,DA,NDA,SA,SHA,ZA,ZHA,CA,JA,NJA,YA,KA,KAN,NGGA,GA",
     "MA,NA,NYA,OO,OON,HOO,WOO,WOON,POO,BHOO,BOO,MBOO,KPOO,MGBOO,GBOO,FOO,VOO,TOO,THOO,DHOO",
     "DHHOO,LOO,ROO,DOO,NDOO,SOO,SHOO,ZOO,ZHOO,COO,JOO,NJOO,YOO,KOO,NGGOO,GOO,MOO,NOO,NYOO,U,UN",
     "HU,HUN,WU,WUN,PU,BHU,BU,MBU,KPU,MGBU,GBU,FU,VU,TU,THU,DHU,DHHU,LU,RU,DU,NDU,SU,SHU,ZU,ZHU",
     "CU,JU,NJU,YU,KU,NGGU,GU,MU,NU,NYU,O,ON,NGON,HO,HON,WO,WON,PO,BHO,BO,MBO,KPO,MGBO,GBO,GBON",
     "FO,VO,TO,THO,DHO,DHHO,LO,RO,DO,NDO,SO,SHO,ZO,ZHO,CO,JO,NJO,YO,KO,NGGO,GO,MO,NO,NYO,E,EN",
     "NGEN,HE,HEN,WE,WEN,PE,BHE,BE,MBE,KPE,KPEN,MGBE,GBE,GBEN,FE,VE,TE,THE,DHE,DHHE,LE,RE,DE,NDE",
     "SE,SHE,ZE,ZHE,CE,JE,NJE,YE,KE,NGGE,NGGEN,GE,GEN,ME,NE,NYE,NG,LENGTHENER"]⟩,
   ⟨0xA60D, "VAI ", ["COMMA,FULL STOP,QUESTION MARK"]⟩,
   ⟨0xA610, "VAI SYLLABLE NDOLE ", ["FA,KA,SOO"]⟩,
   ⟨0xA613, "VAI SYMBOL ", ["FEENG,KEENG,TING,NII,BANG,FAA,TAA,DANG,DOONG,KUNG,TONG,DO-O,JONG"]⟩,
   ⟨0xA620, "VAI DIGIT ", ["ZERO,ONE,TWO,THREE,FOUR,FIVE,SIX,SEVEN,EIGHT,NINE"]⟩,
   ⟨0xA62A, "VAI SYLLABLE NDOLE ", ["MA,DO"]⟩,
   ⟨0xA640, "CYRILLIC ", ["CAPITAL LETTER ZEMLYA,SMALL LETTER ZEMLYA,CAPITAL LETTER DZELO",
     "SMALL LETTER DZELO,CAPITAL LETTER REVERSED DZE,SMALL LETTER REVERSED DZE",
     "CAPITAL LETTER IOTA,SMALL LETTER IOTA,CAPITAL LETTER DJERV,SMALL LETTER DJERV",
     "CAPITAL LETTER MONOGRAPH UK,SMALL LETTER MONOGRAPH UK,CAPITAL LETTER BROAD OMEGA",
     "SMALL LETTER BROAD OMEGA,CAPITAL LETTER NEUTRAL YER,SMALL LETTER NEUTRAL YER",
     "CAPITAL LETTER YERU WITH BACK YER,SMALL LETTER YERU WITH BACK YER",
     "CAPITAL LETTER IOTIFIED YAT,SMALL LETTER IOTIFIED YAT,CAPITAL LETTER REVERSED YU",
     "SMALL LETTER REVERSED YU,CAPITAL LETTER IOTIFIED A,SMALL LETTER IOTIFIED A",
     "CAPITAL LETTER CLOSED LITTLE YUS,SMALL LETTER CLOSED LITTLE YUS,CAPITAL LETTER BLENDED YUS",
     "SMALL LETTER BLENDED YUS,CAPITAL LETTER IOTIFIED CLOSED LITTLE YUS",
     "SMALL LETTER IOTIFIED CLOSED LITTLE YUS,CAPITAL LETTER YN,SMALL LETTER YN",
     "CAPITAL LETTER REVERSED TSE,SMALL LETTER REVERSED TSE,CAPITAL LETTER SOFT DE",
     "SMALL LETTER SOFT DE,CAPITAL LETTER SOFT EL,SMALL LETTER SOFT EL,CAPITAL LETTER SOFT EM",
     "SMALL LETTER SOFT EM,CAPITAL LETTER MONOCULAR O,SMALL LETTER MONOCULAR O",
     "CAPITAL LETTER BINOCULAR O,SMALL LETTER BINOCULAR O,CAPITAL LETTER DOUBLE MONOCULAR O",
     "SMALL LETTER DOUBLE MONOCULAR O,LETTER MULTIOCULAR O"]⟩,
   ⟨0xA66F, "COMBINING CYRILLIC ", ["VZMET,TEN MILLIONS SIGN,HUNDRED MILLIONS SIGN",
     "THOUSAND MILLIONS SIGN"]⟩,
   ⟨0xA673, "SLAVONIC ", ["ASTERISK"]⟩,
   ⟨0xA674, "COMBINING CYRILLIC LETTER ", ["UKRAINIAN IE,I,YI,U,HARD SIGN,YERU,SOFT SIGN,OMEGA"]⟩,
   ⟨0xA67C, "COMBINING CYRILLIC ", ["KAVYKA,PAYEROK"]⟩,
   ⟨0xA67E, "CYRILLIC ", ["KAVYKA,PAYEROK,CAPITAL LETTER DWE,SMALL LETTER DWE,CAPITAL LETTER DZWE",
     "SMALL LETTER DZWE,CAPITAL LETTER ZHWE,SMALL LETTER ZHWE,CAPITAL LETTER CCHE",
     "SMALL LETTER CCHE,CAPITAL LETTER DZZE,SMALL LETTER DZZE,CAPITAL LETTER TE WITH MIDDLE HOOK",
     "SMALL LETTER TE WITH MIDDLE HOOK,CAPITAL LETTER TWE,SMALL LETTER TWE,CAPITAL LETTER TSWE",
     "SMALL LETTER TSWE,CAPITAL LETTER TSSE,SMALL LETTER TSSE,CAPITAL LETTER TCHE",
     "SMALL LETTER TCHE,CAPITAL LETTER HWE,SMALL LETTER HWE,CAPITAL LETTER SHWE",
     "SMALL LETTER SHWE,CAPITAL LETTER DOUBLE O,SMALL LETTER DOUBLE O,CAPITAL LETTER CROSSED O",
     "SMALL LETTER CROSSED O"]⟩,
   ⟨0xA69C, "MODIFIER LETTER CYRILLIC ", ["HARD SIGN,SOFT SIGN"]⟩,
   ⟨0xA69E, "COMBINING CYRILLIC LETTER ", ["EF,IOTIFIED E"]⟩,
   ⟨0xA6A0, "BAMUM LETTER ", ["A,KA,U,KU,EE,REE,TAE,O,NYI,I,LA,PA,RII,RIEE,LEEEE,MEEEE,TAA,NDAA",
     "NJAEM,M,SUU,MU,SHII,SI,SHEUX,SEUX,KYEE,KET,NUAE,NU,NJUAE,YOQ,SHU,YUQ,YA,NSHA,KEUX,PEUX",
     "NJEE,NTEE,PUE,WUE,PEE,FEE,RU,LU,MI,NI,REUX,RAE,KEN,NGKWAEN,NGGA,NGA,SHO,PUAE,FU,FOM,WA,NA",
     "LI,PI,LOQ,KO,MBEN,REN,MEN,MA,TI,KI,MO,MBAA,TET,KPA,TEN,NTUU,SAMBA,FAAMAE,KOVUU,KOGHOM"]⟩,
   ⟨0xA6F0, "BAMUM ", ["COMBINING MARK KOQNDON,COMBINING MARK TUKWENTIS,NJAEMLI,FULL STOP,COLON",
     "COMMA,SEMICOLON,QUESTION MARK"]⟩,
   ⟨0xA700, "MODIFIER LETTER CHINESE TONE ", ["YIN PING,YANG PING,YIN SHANG,YANG SHANG,YIN QU",
     "YANG QU,YIN RU,YANG RU"]⟩,
   ⟨0xA708, "MODIFIER LETTER ", ["EXTRA-HIGH DOTTED TONE BAR,HIGH DOTTED TONE BAR",
     "MID DOTTED TONE BAR,LOW DOTTED TONE BAR,EXTRA-LOW DOTTED TONE BAR",
     "EXTRA-HIGH DOTTED LEFT-STEM TONE BAR,HIGH DOTTED LEFT-STEM TONE BAR",
     "MID DOTTED LEFT-STEM TONE BAR,LOW DOTTED LEFT-STEM TONE BAR",
     "EXTRA-LOW DOTTED LEFT-STEM TONE BAR,EXTRA-HIGH LEFT-STEM TONE BAR,HIGH LEFT-STEM TONE BAR",
     "MID LEFT-STEM TONE BAR,LOW LEFT-STEM TONE BAR,EXTRA-LOW LEFT-STEM TONE BAR",
     "DOT VERTICAL BAR,DOT SLASH,DOT HORIZONTAL BAR,LOWER RIGHT CORNER ANGLE,RAISED UP ARROW",
     "RAISED DOWN ARROW,RAISED EXCLAMATION MARK,RAISED INVERTED EXCLAMATION MARK",
     "LOW INVERTED EXCLAMATION MARK,STRESS AND HIGH TONE,STRESS AND LOW TONE"]⟩,
   ⟨0xA722, "LATIN ", ["CAPITAL LETTER EGYPTOLOGICAL ALEF,SMALL LETTER EGYPTOLOGICAL ALEF",
     "CAPITAL LETTER EGYPTOLOGICAL AIN,SMALL LETTER EGYPTOLOGICAL AIN,CAPITAL LETTER HENG",
     "SMALL LETTER HENG,CAPITAL LETTER TZ,SMALL LETTER TZ,CAPITAL LETTER TRESILLO",
     "SMALL LETTER TRESILLO,CAPITAL LETTER CUATRILLO,SMALL LETTER CUATRILLO",
     "CAPITAL LETTER CUATRILLO WITH COMMA,SMALL LETTER CUATRILLO WITH COMMA",
     "LETTER SMALL CAPITAL F,LETTER SMALL CAPITAL S,CAPITAL LETTER AA,SMALL LETTER AA",
     "CAPITAL LETTER AO,SMALL LETTER AO,CAPITAL LETTER AU,SMALL LETTER AU,CAPITAL LETTER AV",
     "SMALL LETTER AV,CAPITAL LETTER AV WITH HORIZONTAL BAR,SMALL LETTER AV WITH HORIZONTAL BAR",
     "CAPITAL LETTER AY,SMALL LETTER AY,CAPITAL LETTER REVERSED C WITH DOT",
     "SMALL LETTER REVERSED C WITH DOT,CAPITAL LETTER K WITH STROKE,SMALL LETTER K WITH STROKE",
     "CAPITAL LETTER K WITH DIAGONAL STROKE,SMALL LETTER K WITH DIAGONAL STROKE",
     "CAPITAL LETTER K WITH STROKE AND DIAGONAL STROKE",
     "SMALL LETTER K WITH STROKE AND DIAGONAL STROKE,CAPITAL LETTER BROKEN L",
     "SMALL LETTER BROKEN L,CAPITAL LETTER L WITH HIGH STROKE,SMALL LETTER L WITH HIGH STROKE",
     "CAPITAL LETTER O WITH LONG STROKE OVERLAY,SMALL LETTER O WITH LONG STROKE OVERLAY",
     "CAPITAL LETTER O WITH LOOP,SMALL LETTER O WITH LOOP,CAPITAL LETTER OO,SMALL LETTER OO",
     "CAPITAL LETTER P WITH STROKE THROUGH DESCENDER",
     "SMALL LETTER P WITH STROKE THROUGH DESCENDER,CAPITAL LETTER P WITH FLOURISH",
     "SMALL LETTER P WITH FLOURISH,CAPITAL LETTER P WITH SQUIRREL TAIL",
     "SMALL LETTER P WITH SQUIRREL TAIL,CAPITAL LETTER Q WITH STROKE THROUGH DESCENDER",
     "SMALL LETTER Q WITH STROKE THROUGH DESCENDER,CAPITAL LETTER Q WITH DIAGONAL STROKE",
     "SMALL LETTER Q WITH DIAGONAL STROKE,CAPITAL LETTER R ROTUNDA,SMALL LETTER R ROTUNDA",
     "CAPITAL LETTER RUM ROTUNDA,SMALL LETTER RUM ROTUNDA,CAPITAL LETTER V WITH DIAGONAL STROKE",
     "SMALL LETTER V WITH DIAGONAL STROKE,CAPITAL LETTER VY,SMALL LETTER VY",
     "CAPITAL LETTER VISIGOTHIC Z,SMALL LETTER VISIGOTHIC Z,CAPITAL LETTER THORN WITH STROKE",
     "SMALL LETTER THORN WITH STROKE,CAPITAL LETTER THORN WITH STROKE THROUGH DESCENDER",
     "SMALL LETTER THORN WITH STROKE THROUGH DESCENDER,CAPITAL LETTER VEND,SMALL LETTER VEND",
     "CAPITAL LETTER ET,SMALL LETTER ET,CAPITAL LETTER IS,SMALL LETTER IS,CAPITAL LETTER CON",
     "SMALL LETTER CON"]⟩,
   ⟨0xA770, "MODIFIER LETTER ", ["US"]⟩, ⟨0xA771, "LATIN SMALL LETTER ", ["DUM,LUM,MUM,NUM,RUM"]⟩,
   ⟨0xA776, "LATIN ", ["LETTER SMALL CAPITAL RUM,SMALL LETTER TUM,SMALL LETTER UM",
     "CAPITAL LETTER INSULAR D,SMALL LETTER INSULAR D,CAPITAL LETTER INSULAR F",
     "SMALL LETTER INSULAR F,CAPITAL LETTER INSULAR G,CAPITAL LETTER TURNED INSULAR G",
     "SMALL LETTER TURNED INSULAR G,CAPITAL LETTER TURNED L,SMALL LETTER TURNED L",
     "CAPITAL LETTER INSULAR R,SMALL LETTER INSULAR R,CAPITAL LETTER INSULAR S",
     "SMALL LETTER INSULAR S,CAPITAL LETTER INSULAR T,SMALL LETTER INSULAR T"]⟩,
   ⟨0xA788, "MODIFIER LETTER ", ["LOW CIRCUMFLEX ACCENT,COLON,SHORT EQUALS SIGN"]⟩,
   ⟨0xA78B, "LATIN ", ["CAPITAL LETTER SALTILLO,SMALL LETTER SALTILLO,CAPITAL LETTER TURNED H",
     "SMALL LETTER L WITH RETROFLEX HOOK AND BELT,LETTER SINOLOGICAL DOT",
     "CAPITAL LETTER N WITH DESCENDER,SMALL LETTER N WITH DESCENDER,CAPITAL LETTER C WITH BAR",
     "SMALL LETTER C WITH BAR,SMALL LETTER C WITH PALATAL HOOK,SMALL LETTER H WITH PALATAL HOOK",
     "CAPITAL LETTER B WITH FLOURISH,SMALL LETTER B WITH FLOURISH,CAPITAL LETTER F WITH STROKE",
     "SMALL LETTER F WITH STROKE,CAPITAL LETTER VOLAPUK AE,SMALL LETTER VOLAPUK AE",
     "CAPITAL LETTER VOLAPUK OE,SMALL LETTER VOLAPUK OE,CAPITAL LETTER VOLAPUK UE",
     "SMALL LETTER VOLAPUK UE,CAPITAL LETTER G WITH OBLIQUE STROKE",
     "SMALL LETTER G WITH OBLIQUE STROKE,CAPITAL LETTER K WITH OBLIQUE STROKE",
     "SMALL LETTER K WITH OBLIQUE STROKE,CAPITAL LETTER N WITH OBLIQUE STROKE",
     "SMALL LETTER N WITH OBLIQUE STROKE,CAPITAL LETTER R WITH OBLIQUE STROKE",
     "SMALL LETTER R WITH OBLIQUE STROKE,CAPITAL LETTER S WITH OBLIQUE STROKE",
     "SMALL LETTER S WITH OBLIQUE STROKE"]⟩,
   ⟨0xA7AA, "LATIN CAPITAL LETTER ", ["H WITH HOOK,REVERSED OPEN E,SCRIPT G,L WITH BELT",
     "SMALL CAPITAL I"]⟩,
   ⟨0xA7AF, "LATIN LETTER SMALL CAPITAL ", ["Q"]⟩,
   ⟨0xA7B0, "LATIN CAPITAL LETTER ", ["TURNED K,TURNED T,J WITH CROSSED-TAIL,CHI,BETA"]⟩,
   ⟨0xA7B5, "LATIN ", ["SMALL LETTER BETA,CAPITAL LETTER OMEGA,SMALL LETTER OMEGA",
     "CAPITAL LETTER U WITH STROKE,SMALL LETTER U WITH STROKE,CAPITAL LETTER GLOTTAL A",
     "SMALL LETTER GLOTTAL A,CAPITAL LETTER GLOTTAL I,SMALL LETTER GLOTTAL I",
     "CAPITAL LETTER GLOTTAL U,SMALL LETTER GLOTTAL U,CAPITAL LETTER OLD POLISH O",
     "SMALL LETTER OLD POLISH O,CAPITAL LETTER ANGLICANA W,SMALL LETTER ANGLICANA W"]⟩,
   ⟨0xA7C4, "LATIN CAPITAL LETTER ", ["C WITH PALATAL HOOK,S WITH HOOK,Z WITH PALATAL HOOK",
     "D WITH SHORT STROKE OVERLAY"]⟩,
   ⟨0xA7C8, "LATIN ", ["SMALL LETTER D WITH SHORT STROKE OVERLAY",
     "CAPITAL LETTER S WITH SHORT STROKE OVERLAY,SMALL LETTER S WITH SHORT STROKE OVERLAY,,,,,",
     "CAPITAL LETTER CLOSED INSULAR G,SMALL LETTER CLOSED INSULAR G,,SMALL LETTER DOUBLE THORN,",
     "SMALL LETTER DOUBLE WYNN,CAPITAL LETTER MIDDLE SCOTS S,SMALL LETTER MIDDLE SCOTS S",
     "CAPITAL LETTER SIGMOID S,SMALL LETTER SIGMOID S"]⟩,
   ⟨0xA7F2, "MODIFIER LETTER CAPITAL ", ["C,F,Q"]⟩,
   ⟨0xA7F5, "LATIN ", ["CAPITAL LETTER REVERSED HALF H,SMALL LETTER REVERSED HALF H",
     "EPIGRAPHIC LETTER SIDEWAYS I"]⟩,
   ⟨0xA7F8, "MODIFIER LETTER ", ["CAPITAL H WITH STROKE,SMALL LIGATURE OE"]⟩,
   ⟨0xA7FA, "LATIN LETTER SMALL CAPITAL TURNED ", ["M"]⟩,
   ⟨0xA7FB, "LATIN EPIGRAPHIC LETTER ", ["REVERSED F,REVERSED P,INVERTED M,I LONGA,ARCHAIC M"]⟩,
   ⟨0xA800, "SYLOTI NAGRI ", ["LETTER A,LETTER I,SIGN DVISVARA,LETTER U,LETTER E,LETTER O",
     "SIGN HASANTA,LETTER KO,LETTER KHO,LETTER GO,LETTER GHO,SIGN ANUSVARA"]⟩,
   ⟨0xA80C, "SYLOTI NAGRI LETTER ", ["CO,CHO,JO,JHO,TTO,TTHO,DDO,DDHO,TO,THO,DO,DHO,NO,PO,PHO,BO",
     "BHO,MO,RO,LO,RRO,SO,HO"]⟩,
   ⟨0xA823, "SYLOTI NAGRI VOWEL SIGN ", ["A,I,U,E,OO"]⟩,
   ⟨0xA828, "SYLOTI NAGRI POETRY MARK-", ["1,2,3,4"]⟩,
   ⟨0xA82C, "SYLOTI NAGRI SIGN ALTERNATE ", ["HASANTA"]⟩,
   ⟨0xA830, "NORTH INDIC FRACTION ", ["ONE QUARTER,ONE HALF,THREE QUARTERS,ONE SIXTEENTH",
     "ONE EIGHTH,THREE SIXTEENTHS"]⟩,
   ⟨0xA836, "NORTH INDIC ", ["QUARTER MARK,PLACEHOLDER MARK,RUPEE MARK,QUANTITY MARK"]⟩,
   ⟨0xA840, "PHAGS-PA LETTER ", ["KA,KHA,GA,NGA,CA,CHA,JA,NYA,TA,THA,DA,NA,PA,PHA,BA,MA,TSA,TSHA",
     "DZA,WA,ZHA,ZA,SMALL A,YA,RA,LA,SHA,SA,HA,A,I,U,E,O,QA,XA,FA,GGA,EE"]⟩,
   ⟨0xA867, "PHAGS-PA SUBJOINED LETTER ", ["WA,YA"]⟩,
   ⟨0xA869, "PHAGS-PA LETTER ", ["TTA,TTHA,DDA,NNA,ALTERNATE YA,VOICELESS SHA,VOICED HA",
     "ASPIRATED FA"]⟩,
   ⟨0xA871, "PHAGS-PA ", ["SUBJOINED LETTER RA,SUPERFIXED LETTER RA,LETTER CANDRABINDU",
     "SINGLE HEAD MARK,DOUBLE HEAD MARK,MARK SHAD,MARK DOUBLE SHAD"]⟩,
   ⟨0xA880, "SAURASHTRA SIGN ", ["ANUSVARA,VISARGA"]⟩,
   ⟨0xA882, "SAURASHTRA LETTER ", ["A,AA,I,II,U,UU,VOCALIC R,VOCALIC RR,VOCALIC L,VOCALIC LL,E,EE",
     "AI,O,OO,AU,KA,KHA,GA,GHA,NGA,CA,CHA,JA,JHA,NYA,TTA,TTHA,DDA,DDHA,NNA,TA,THA,DA,DHA,NA,PA",
     "PHA,BA,BHA,MA,YA,RA,LA,VA,SHA,SSA,SA,HA,LLA"]⟩,
   ⟨0xA8B4, "SAURASHTRA CONSONANT SIGN ", ["HAARU"]⟩,
   ⟨0xA8B5, "SAURASHTRA VOWEL SIGN ", ["AA,I,II,U,UU,VOCALIC R,VOCALIC RR,VOCALIC L,VOCALIC LL,E",
     "EE,AI,O,OO,AU"]⟩,
   ⟨0xA8C4, "SAURASHTRA ", ["SIGN VIRAMA,SIGN CANDRABINDU,,,,,,,,,DANDA,DOUBLE DANDA"]⟩,
   ⟨0xA8D0, "SAURASHTRA DIGIT ", ["ZERO,ONE,TWO,THREE,FOUR,FIVE,SIX,SEVEN,EIGHT,NINE"]⟩,
   ⟨0xA8E0, "COMBINING DEVANAGARI DIGIT ", ["ZERO,ONE,TWO,THREE,FOUR,FIVE,SIX,SEVEN,EIGHT,NINE"]⟩,
   ⟨0xA8EA, "COMBINING DEVANAGARI LETTER ", ["A,U,KA,NA,PA,RA,VI"]⟩,
   ⟨0xA8F1, "COMBINING DEVANAGARI SIGN ", ["AVAGRAHA"]⟩,
   ⟨0xA8F2, "DEVANAGARI SIGN ", ["SPACING CANDRABINDU,CANDRABINDU VIRAMA",
     "DOUBLE CANDRABINDU VIRAMA,CANDRABINDU TWO,CANDRABINDU THREE,CANDRABINDU AVAGRAHA,PUSHPIKA"]⟩,
   ⟨0xA8F9, "DEVANAGARI ", ["GAP FILLER,CARET,HEADSTROKE,SIGN SIDDHAM,JAIN OM,LETTER AY",
     "VOWEL SIGN AY"]⟩,
   ⟨0xA900, "KAYAH LI DIGIT ", ["ZERO,ONE,TWO,THREE,FOUR,FIVE,SIX,SEVEN,EIGHT,NINE"]⟩,
   ⟨0xA90A, "KAYAH LI LETTER ", ["KA,KHA,GA,NGA,SA,SHA,ZA,NYA,TA,HTA,NA,PA,PHA,MA,DA,BA,RA,YA,LA",
     "WA,THA,HA,VA,CA,A,OE,I,OO"]⟩,
   ⟨0xA926, "KAYAH LI VOWEL ", ["UE,E,U,EE,O"]⟩,
   ⟨0xA92B, "KAYAH LI ", ["TONE PLOPHU,TONE CALYA,TONE CALYA PLOPHU,SIGN CWI,SIGN SHYA"]⟩,
   ⟨0xA930, "REJANG LETTER ", ["KA,GA,NGA,TA,DA,NA,PA,BA,MA,CA,JA,NYA,SA,RA,LA,YA,WA,HA,MBA,NGGA",
     "NDA,NYJA,A"]⟩,
   ⟨0xA947, "REJANG VOWEL SIGN ", ["I,U,E,AI,O,AU,EU,EA"]⟩,
   ⟨0xA94F, "REJANG CONSONANT SIGN ", ["NG,N,R,H"]⟩,
   ⟨0xA953, "REJANG ", ["VIRAMA,,,,,,,,,,,,SECTION MARK"]⟩,
   ⟨0xA960, "HANGUL CHOSEONG TIKEUT-", ["MIEUM,PIEUP,SIOS,CIEUC"]⟩,
   ⟨0xA964, "HANGUL CHOSEONG RIEUL-", ["KIYEOK,SSANGKIYEOK,TIKEUT,SSANGTIKEUT,MIEUM,PIEUP",
     "SSANGPIEUP,KAPYEOUNPIEUP,SIOS,CIEUC"]⟩,
   ⟨0xA96E, "HANGUL CHOSEONG ", ["RIEUL-KHIEUKH,MIEUM-KIYEOK,MIEUM-TIKEUT,MIEUM-SIOS",
     "PIEUP-SIOS-THIEUTH,PIEUP-KHIEUKH,PIEUP-HIEUH,SSANGSIOS-PIEUP,IEUNG-RIEUL,IEUNG-HIEUH",
     "SSANGCIEUC-HIEUH,SSANGTHIEUTH,PHIEUPH-HIEUH,HIEUH-SIOS,SSANGYEORINHIEUH"]⟩,
   ⟨0xA980, "JAVANESE SIGN ", ["PANYANGGA,CECAK,LAYAR,WIGNYAN"]⟩,
   ⟨0xA984, "JAVANESE LETTER ", ["A,I KAWI,I,II,U,PA CEREK,NGA LELET,NGA LELET RASWADI,E,AI,O,KA",
     "KA SASAK,KA MURDA,GA,GA MURDA,NGA,CA,CA MURDA,JA,NYA MURDA,JA MAHAPRANA,NYA,TTA",
     "TTA MAHAPRANA,DDA,DDA MAHAPRANA,NA MURDA,TA,TA MURDA,DA,DA MAHAPRANA,NA,PA,PA MURDA,BA",
     "BA MURDA,MA,YA,RA,RA AGUNG,LA,WA,SA MURDA,SA MAHAPRANA,SA,HA"]⟩,
   ⟨0xA9B3, "JAVANESE SIGN CECAK ", ["TELU"]⟩,
   ⟨0xA9B4, "JAVANESE VOWEL SIGN ", ["TARUNG,TOLONG,WULU,WULU MELIK,SUKU,SUKU MENDUT,TALING",
     "DIRGA MURE,PEPET"]⟩,
   ⟨0xA9BD, "JAVANESE CONSONANT SIGN ", ["KERET,PENGKAL,CAKRA"]⟩,
   ⟨0xA9C0, "JAVANESE ", ["PANGKON,LEFT RERENGGAN,RIGHT RERENGGAN"]⟩,
   ⟨0xA9C3, "JAVANESE PADA ", ["ANDAP,MADYA,LUHUR,WINDU,PANGKAT,LINGSA,LUNGSI,ADEG,ADEG ADEG",
     "PISELEH"]⟩,
   ⟨0xA9CD, "JAVANESE ", ["TURNED PADA PISELEH,,PANGRANGKEP"]⟩,
   ⟨0xA9D0, "JAVANESE DIGIT ", ["ZERO,ONE,TWO,THREE,FOUR,FIVE,SIX,SEVEN,EIGHT,NINE"]⟩,
   ⟨0xA9DE, "JAVANESE PADA ", ["TIRTA TUMETES,ISEN-ISEN"]⟩,
   ⟨0xA9E0, "MYANMAR LETTER SHAN ", ["GHA,CHA,JHA,NNA,BHA"]⟩,
   ⟨0xA9E5, "MYANMAR ", ["SIGN SHAN SAW,MODIFIER LETTER SHAN REDUPLICATION"]⟩,
   ⟨0xA9E7, "MYANMAR LETTER TAI LAING ", ["NYA,FA,GA,GHA,JA,JHA,DDA,DDHA,NNA"]⟩,
   ⟨0xA9F0, "MYANMAR TAI LAING DIGIT ", ["ZERO,ONE,TWO,THREE,FOUR,FIVE,SIX,SEVEN,EIGHT,NINE"]⟩,
   ⟨0xA9FA, "MYANMAR LETTER TAI LAING ", ["LLA,DA,DHA,BA,BHA"]⟩,
   ⟨0xAA00, "CHAM LETTER ", ["A,I,U,E,AI,O,KA,KHA,GA,GHA,NGUE,NGA,CHA,CHHA,JA,JHA,NHUE,NHA,NHJA",
     "TA,THA,DA,DHA,NUE,NA,DDA,PA,PPA,PHA,BA,BHA,MUE,MA,BBA,YA,RA,LA,VA,SSA,SA,HA"]⟩,
   ⟨0xAA29, "CHAM VOWEL SIGN ", ["AA,I,II,EI,U,OE,O,AI,AU,UE"]⟩,
   ⟨0xAA33, "CHAM CONSONANT SIGN ", ["YA,RA,LA,WA"]⟩, ⟨0xAA40, "CHAM LETTER FINAL ", ["K,G,NG"]⟩,
   ⟨0xAA43, "CHAM CONSONANT SIGN FINAL ", ["NG"]⟩,
   ⟨0xAA44, "CHAM LETTER FINAL ", ["CH,T,N,P,Y,R,L,SS"]⟩,
   ⟨0xAA4C, "CHAM CONSONANT SIGN FINAL ", ["M,H"]⟩,
   ⟨0xAA50, "CHAM DIGIT ", ["ZERO,ONE,TWO,THREE,FOUR,FIVE,SIX,SEVEN,EIGHT,NINE"]⟩,
   ⟨0xAA5C, "CHAM PUNCTUATION ", ["SPIRAL,DANDA,DOUBLE DANDA,TRIPLE DANDA"]⟩,
   ⟨0xAA60, "MYANMAR LETTER KHAMTI ", ["GA,CA,CHA,JA,JHA,NYA,TTA,TTHA,DDA,DDHA,DHA,NA,SA,HA,HHA",
     "FA"]⟩,
   ⟨0xAA70, "MYANMAR ", ["MODIFIER LETTER KHAMTI REDUPLICATION,LETTER KHAMTI XA,LETTER KHAMTI ZA",
     "LETTER KHAMTI RA,LOGOGRAM KHAMTI OAY,LOGOGRAM KHAMTI QN,LOGOGRAM KHAMTI HM",
     "SYMBOL AITON EXCLAMATION,SYMBOL AITON ONE,SYMBOL AITON TWO,LETTER AITON RA",
     "SIGN PAO KAREN TONE,SIGN TAI LAING TONE-2,SIGN TAI LAING TONE-5,LETTER SHWE PALAUNG CHA",
     "LETTER SHWE PALAUNG SHA"]⟩,
   ⟨0xAA80, "TAI VIET LETTER ", ["LOW KO,HIGH KO,LOW KHO,HIGH KHO,LOW KHHO,HIGH KHHO,LOW GO",
     "HIGH GO,LOW NGO,HIGH NGO,LOW CO,HIGH CO,LOW CHO,HIGH CHO,LOW SO,HIGH SO,LOW NYO,HIGH NYO",
     "LOW DO,HIGH DO,LOW TO,HIGH TO,LOW THO,HIGH THO,LOW NO,HIGH NO,LOW BO,HIGH BO,LOW PO",
     "HIGH PO,LOW PHO,HIGH PHO,LOW FO,HIGH FO,LOW MO,HIGH MO,LOW YO,HIGH YO,LOW RO,HIGH RO",
     "LOW LO,HIGH LO,LOW VO,HIGH VO,LOW HO,HIGH HO,LOW O,HIGH O"]⟩,
   ⟨0xAAB0, "TAI VIET ", ["MAI KANG,VOWEL AA,VOWEL I,VOWEL UE,VOWEL U,VOWEL E,VOWEL O,MAI KHIT"]⟩,
   ⟨0xAAB8, "TAI VIET VOWEL ", ["IA,UEA,UA,AUE,AY,AN,AM"]⟩,
   ⟨0xAABF, "TAI VIET TONE MAI ", ["EK,NUENG,THO,SONG"]⟩,
   ⟨0xAADB, "TAI VIET SYMBOL ", ["KON,NUENG,SAM,HO HOI,KOI KOI"]⟩,
   ⟨0xAAE0, "MEETEI MAYEK LETTER ", ["E,O,CHA,NYA,TTA,TTHA,DDA,DDHA,NNA,SHA,SSA"]⟩,
   ⟨0xAAEB, "MEETEI MAYEK VOWEL SIGN ", ["II,UU,AAI,AU,AAU"]⟩,
   ⟨0xAAF0, "MEETEI MAYEK ", ["CHEIKHAN,AHANG KHUDAM,ANJI,SYLLABLE REPETITION MARK",
     "WORD REPETITION MARK,VOWEL SIGN VISARGA,VIRAMA"]⟩,
   ⟨0xAB01, "ETHIOPIC SYLLABLE ", ["TTHU,TTHI,TTHAA,TTHEE,TTHE,TTHO,,,DDHU,DDHI,DDHAA,DDHEE,DDHE",
     "DDHO,,,DZU,DZI,DZAA,DZEE,DZE,DZO,,,,,,,,,,CCHHA,CCHHU,CCHHI,CCHHAA,CCHHEE,CCHHE,CCHHO,,BBA",
     "BBU,BBI,BBAA,BBEE,BBE,BBO"]⟩,
   ⟨0xAB30, "LATIN SMALL LETTER ", ["BARRED ALPHA,A REVERSED-SCHWA,BLACKLETTER E,BARRED E",
     "E WITH FLOURISH,LENIS F,SCRIPT G WITH CROSSED-TAIL,L WITH INVERTED LAZY S",
     "L WITH DOUBLE MIDDLE TILDE,L WITH MIDDLE RING,M WITH CROSSED-TAIL,N WITH CROSSED-TAIL",
     "ENG WITH CROSSED-TAIL,BLACKLETTER O,BLACKLETTER O WITH STROKE,OPEN O WITH STROKE",
     "INVERTED OE,TURNED OE WITH STROKE,TURNED OE WITH HORIZONTAL STROKE,TURNED O OPEN-O",
     "TURNED O OPEN-O WITH STROKE,STIRRUP R"]⟩,
   ⟨0xAB46, "LATIN LETTER SMALL CAPITAL R WITH RIGHT ", ["LEG"]⟩,
   ⟨0xAB47, "LATIN SMALL LETTER ", ["R WITHOUT HANDLE,DOUBLE R,R WITH CROSSED-TAIL",
     "DOUBLE R WITH CROSSED-TAIL,SCRIPT R,SCRIPT R WITH RING,BASELINE ESH,U WITH SHORT RIGHT LEG",
     "U BAR WITH SHORT RIGHT LEG,UI,TURNED UI,U WITH LEFT HOOK,CHI,CHI WITH LOW RIGHT RING",
     "CHI WITH LOW LEFT SERIF,X WITH LOW RIGHT RING,X WITH LONG LEFT LEG",
     "X WITH LONG LEFT LEG AND LOW RIGHT RING,X WITH LONG LEFT LEG WITH SERIF",
     "Y WITH SHORT RIGHT LEG"]⟩,
   ⟨0xAB5B, "MODIFIER BREVE WITH INVERTED ", ["BREVE"]⟩,
   ⟨0xAB5C, "MODIFIER LETTER SMALL ", ["HENG,L WITH INVERTED LAZY S,L WITH MIDDLE TILDE",
     "U WITH LEFT HOOK"]⟩,
   ⟨0xAB60, "LATIN SMALL LETTER ", ["SAKHA YAT,IOTIFIED E,OPEN OE,UO,INVERTED ALPHA"]⟩,
   ⟨0xAB65, "GREEK LETTER SMALL CAPITAL ", ["OMEGA"]⟩,
   ⟨0xAB66, "LATIN SMALL LETTER ", ["DZ DIGRAPH WITH RETROFLEX HOOK",
     "TS DIGRAPH WITH RETROFLEX HOOK,TURNED R WITH MIDDLE TILDE"]⟩,
   ⟨0xAB69, "MODIFIER LETTER ", ["SMALL TURNED W,LEFT TACK,RIGHT TACK"]⟩,
   ⟨0xAB70, "CHEROKEE SMALL LETTER ", ["A,E,I,O,U,V,GA,KA,GE,GI,GO,GU,GV,HA,HE,HI,HO,HU,HV,LA,LE",
     "LI,LO,LU,LV,MA,ME,MI,MO,MU,NA,HNA,NAH,NE,NI,NO,NU,NV,QUA,QUE,QUI,QUO,QUU,QUV,SA,S,SE,SI,SO",
     "SU,SV,DA,TA,DE,TE,DI,TI,DO,DU,DV,DLA,TLA,TLE,TLI,TLO,TLU,TLV,TSA,TSE,TSI,TSO,TSU,TSV,WA,WE",
     "WI,WO,WU,WV,YA"]⟩,
   ⟨0xABC0, "MEETEI MAYEK LETTER ", ["KOK,SAM,LAI,MIT,PA,NA,CHIL,TIL,KHOU,NGOU,THOU,WAI,YANG,HUK",
     "UN,I,PHAM,ATIYA,GOK,JHAM,RAI,BA,JIL,DIL,GHOU,DHOU,BHAM,KOK LONSUM,LAI LONSUM,MIT LONSUM",
     "PA LONSUM,NA LONSUM,TIL LONSUM,NGOU LONSUM,I LONSUM"]⟩,
   ⟨0xABE3, "MEETEI MAYEK VOWEL SIGN ", ["ONAP,INAP,ANAP,YENAP,SOUNAP,UNAP,CHEINAP,NUNG"]⟩,
   ⟨0xABEB, "MEETEI MAYEK ", ["CHEIKHEI,LUM IYEK,APUN IYEK"]⟩,
   ⟨0xABF0, "MEETEI MAYEK DIGIT ", ["ZERO,ONE,TWO,THREE,FOUR,FIVE,SIX,SEVEN,EIGHT,NINE"]⟩,
   ⟨0xD7B0, "HANGUL JUNGSEONG ", ["O-YEO,O-O-I,YO-A,YO-AE,YO-EO,U-YEO,U-I-I,YU-AE,YU-O,EU-A,EU-EO",
     "EU-E,EU-O,I-YA-O,I-YAE,I-YEO,I-YE,I-O-I,I-YO,I-YU,I-I,ARAEA-A,ARAEA-E"]⟩,
   ⟨0xD7CB, "HANGUL JONGSEONG ", ["NIEUN-RIEUL,NIEUN-CHIEUCH,SSANGTIKEUT,SSANGTIKEUT-PIEUP",
     "TIKEUT-PIEUP,TIKEUT-SIOS,TIKEUT-SIOS-KIYEOK,TIKEUT-CIEUC,TIKEUT-CHIEUCH,TIKEUT-THIEUTH",
     "RIEUL-SSANGKIYEOK,RIEUL-KIYEOK-HIEUH,SSANGRIEUL-KHIEUKH,RIEUL-MIEUM-HIEUH",
     "RIEUL-PIEUP-TIKEUT,RIEUL-PIEUP-PHIEUPH,RIEUL-YESIEUNG,RIEUL-YEORINHIEUH-HIEUH",
     "KAPYEOUNRIEUL,MIEUM-NIEUN,MIEUM-SSANGNIEUN,SSANGMIEUM,MIEUM-PIEUP-SIOS,MIEUM-CIEUC",
     "PIEUP-TIKEUT,PIEUP-RIEUL-PHIEUPH,PIEUP-MIEUM,SSANGPIEUP,PIEUP-SIOS-TIKEUT,PIEUP-CIEUC",
     "PIEUP-CHIEUCH,SIOS-MIEUM,SIOS-KAPYEOUNPIEUP,SSANGSIOS-KIYEOK,SSANGSIOS-TIKEUT,SIOS-PANSIOS",
     "SIOS-CIEUC,SIOS-CHIEUCH,SIOS-THIEUTH,SIOS-HIEUH,PANSIOS-PIEUP,PANSIOS-KAPYEOUNPIEUP",
     "YESIEUNG-MIEUM,YESIEUNG-HIEUH,CIEUC-PIEUP,CIEUC-SSANGPIEUP,SSANGCIEUC,PHIEUPH-SIOS",
     "PHIEUPH-THIEUTH"]⟩]

end OAuthGrant.Text.CharacterName

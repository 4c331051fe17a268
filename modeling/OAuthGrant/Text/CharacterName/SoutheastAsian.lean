import OAuthGrant.Text.NameRun

/-!
# Names of characters: SoutheastAsian

The data of the Unicode standard, version 14, for the code points from U+0E00 to U+11FF.
-/

namespace OAuthGrant.Text.CharacterName

/-- The names of Thai, Lao, Tibetan, Burmese, Georgian and the letters of Hangul. -/
def southeastAsianNames : List NameRun :=
  [⟨0xE01, "THAI CHARACTER ", ["KO KAI,KHO KHAI,KHO KHUAT,KHO KHWAI,KHO KHON,KHO RAKHANG,NGO NGU",
     "CHO CHAN,CHO CHING,CHO CHANG,SO SO,CHO CHOE,YO YING,DO CHADA,TO PATAK,THO THAN",
     "THO NANGMONTHO,THO PHUTHAO,NO NEN,DO DEK,TO TAO,THO THUNG,THO THAHAN,THO THONG,NO NU",
     "BO BAIMAI,PO PLA,PHO PHUNG,FO FA,PHO PHAN,FO FAN,PHO SAMPHAO,MO MA,YO YAK,RO RUA,RU",
     "LO LING,LU,WO WAEN,SO SALA,SO RUSI,SO SUA,HO HIP,LO CHULA,O ANG,HO NOKHUK,PAIYANNOI,SARA A",
     "MAI HAN-AKAT,SARA AA,SARA AM,SARA I,SARA II,SARA UE,SARA UEE,SARA U,SARA UU,PHINTHU"]⟩,
   ⟨0xE3F, "THAI CURRENCY SYMBOL ", ["BAHT"]⟩,
   ⟨0xE40, "THAI CHARACTER ", ["SARA E,SARA AE,SARA O,SARA AI MAIMUAN,SARA AI MAIMALAI",
     "LAKKHANGYAO,MAIYAMOK,MAITAIKHU,MAI EK,MAI THO,MAI TRI,MAI CHATTAWA,THANTHAKHAT,NIKHAHIT",
     "YAMAKKAN,FONGMAN"]⟩,
   ⟨0xE50, "THAI DIGIT ", ["ZERO,ONE,TWO,THREE,FOUR,FIVE,SIX,SEVEN,EIGHT,NINE"]⟩,
   ⟨0xE5A, "THAI CHARACTER ", ["ANGKHANKHU,KHOMUT"]⟩,
   ⟨0xE81, "LAO LETTER ", ["KO,KHO SUNG,,KHO TAM,,PALI GHA,NGO,CO,PALI CHA,SO TAM,,PALI JHA,NYO",
     "PALI NYA,PALI TTA,PALI TTHA,PALI DDA,PALI DDHA,PALI NNA,DO,TO,THO SUNG,THO TAM,PALI DHA,NO",
     "BO,PO,PHO SUNG,FO TAM,PHO TAM,FO SUNG,PALI BHA,MO,YO,LO LING,,LO LOOT,,WO,SANSKRIT SHA",
     "SANSKRIT SSA,SO SUNG,HO SUNG,PALI LLA,O,HO TAM"]⟩,
   ⟨0xEAF, "LAO ", ["ELLIPSIS"]⟩, ⟨0xEB0, "LAO VOWEL SIGN ", ["A,MAI KAN,AA,AM,I,II,Y,YY,U,UU"]⟩,
   ⟨0xEBA, "LAO ", ["SIGN PALI VIRAMA,VOWEL SIGN MAI KON,SEMIVOWEL SIGN LO,SEMIVOWEL SIGN NYO"]⟩,
   ⟨0xEC0, "LAO VOWEL SIGN ", ["E,EI,O,AY,AI"]⟩,
   ⟨0xEC6, "LAO ", ["KO LA,,TONE MAI EK,TONE MAI THO,TONE MAI TI,TONE MAI CATAWA",
     "CANCELLATION MARK,NIGGAHITA"]⟩,
   ⟨0xED0, "LAO DIGIT ", ["ZERO,ONE,TWO,THREE,FOUR,FIVE,SIX,SEVEN,EIGHT,NINE"]⟩,
   ⟨0xEDC, "LAO ", ["HO NO,HO MO,LETTER KHMU GO,LETTER KHMU NYO"]⟩,
   ⟨0xF00, "TIBETAN SYLLABLE ", ["OM"]⟩,
   ⟨0xF01, "TIBETAN MARK GTER YIG MGO ", ["TRUNCATED A,-UM RNAM BCAD MA,-UM GTER TSHEG MA"]⟩,
   ⟨0xF04, "TIBETAN MARK ", ["INITIAL YIG MGO MDUN MA,CLOSING YIG MGO SGAB MA",
     "CARET YIG MGO PHUR SHAD MA,YIG MGO TSHEG SHAD MA,SBRUL SHAD,BSKUR YIG MGO",
     "BKA- SHOG YIG MGO,INTERSYLLABIC TSHEG,DELIMITER TSHEG BSTAR,SHAD,NYIS SHAD,TSHEG SHAD",
     "NYIS TSHEG SHAD,RIN CHEN SPUNGS SHAD,RGYA GRAM SHAD,CARET -DZUD RTAGS ME LONG CAN",
     "GTER TSHEG"]⟩,
   ⟨0xF15, "TIBETAN LOGOTYPE SIGN ", ["CHAD RTAGS,LHAG RTAGS"]⟩,
   ⟨0xF17, "TIBETAN ASTROLOGICAL SIGN ", ["SGRA GCAN -CHAR RTAGS,-KHYUD PA,SDONG TSHUGS"]⟩,
   ⟨0xF1A, "TIBETAN SIGN RDEL ", ["DKAR GCIG,DKAR GNYIS,DKAR GSUM,NAG GCIG,NAG GNYIS",
     "DKAR RDEL NAG"]⟩,
   ⟨0xF20, "TIBETAN DIGIT ", ["ZERO,ONE,TWO,THREE,FOUR,FIVE,SIX,SEVEN,EIGHT,NINE"]⟩,
   ⟨0xF2A, "TIBETAN DIGIT HALF ", ["ONE,TWO,THREE,FOUR,FIVE,SIX,SEVEN,EIGHT,NINE,ZERO"]⟩,
   ⟨0xF34, "TIBETAN MARK ", ["BSDUS RTAGS,NGAS BZUNG NYI ZLA,CARET -DZUD RTAGS BZHI MIG CAN",
     "NGAS BZUNG SGOR RTAGS,CHE MGO,TSA -PHRU,GUG RTAGS GYON,GUG RTAGS GYAS,ANG KHANG GYON",
     "ANG KHANG GYAS"]⟩,
   ⟨0xF3E, "TIBETAN SIGN ", ["YAR TSHES,MAR TSHES"]⟩,
   ⟨0xF40, "TIBETAN LETTER ", ["KA,KHA,GA,GHA,NGA,CA,CHA,JA,,NYA,TTA,TTHA,DDA,DDHA,NNA,TA,THA,DA",
     "DHA,NA,PA,PHA,BA,BHA,MA,TSA,TSHA,DZA,DZHA,WA,ZHA,ZA,-A,YA,RA,LA,SHA,SSA,SA,HA,A,KSSA",
     "FIXED-FORM RA,KKA,RRA"]⟩,
   ⟨0xF71, "TIBETAN VOWEL SIGN ", ["AA,I,II,U,UU,VOCALIC R,VOCALIC RR,VOCALIC L,VOCALIC LL,E,EE,O",
     "OO"]⟩,
   ⟨0xF7E, "TIBETAN ", ["SIGN RJES SU NGA RO,SIGN RNAM BCAD,VOWEL SIGN REVERSED I",
     "VOWEL SIGN REVERSED II,SIGN NYI ZLA NAA DA,SIGN SNA LDAN,MARK HALANTA,MARK PALUTA",
     "SIGN LCI RTAGS"]⟩,
   ⟨0xF87, "TIBETAN SIGN ", ["YANG RTAGS,LCE TSA CAN,MCHU CAN,GRU CAN RGYINGS,GRU MED RGYINGS",
     "INVERTED MCHU CAN"]⟩,
   ⟨0xF8D, "TIBETAN SUBJOINED SIGN ", ["LCE TSA CAN,MCHU CAN,INVERTED MCHU CAN"]⟩,
   ⟨0xF90, "TIBETAN SUBJOINED LETTER ", ["KA,KHA,GA,GHA,NGA,CA,CHA,JA,,NYA,TTA,TTHA,DDA,DDHA,NNA",
     "TA,THA,DA,DHA,NA,PA,PHA,BA,BHA,MA,TSA,TSHA,DZA,DZHA,WA,ZHA,ZA,-A,YA,RA,LA,SHA,SSA,SA,HA,A",
     "KSSA,FIXED-FORM WA,FIXED-FORM YA,FIXED-FORM RA"]⟩,
   ⟨0xFBE, "TIBETAN KU RU ", ["KHA,KHA BZHI MIG CAN"]⟩,
   ⟨0xFC0, "TIBETAN CANTILLATION SIGN ", ["HEAVY BEAT,LIGHT BEAT,CANG TE-U,SBUB -CHAL"]⟩,
   ⟨0xFC4, "TIBETAN SYMBOL ", ["DRIL BU,RDO RJE,PADMA GDAN,RDO RJE RGYA GRAM,PHUR PA,NOR BU",
     "NOR BU NYIS -KHYIL,NOR BU GSUM -KHYIL,NOR BU BZHI -KHYIL"]⟩,
   ⟨0xFCE, "TIBETAN SIGN RDEL NAG ", ["RDEL DKAR,GSUM"]⟩,
   ⟨0xFD0, "TIBETAN MARK ", ["BSKA- SHOG GI MGO RGYAN,MNYAM YIG GI MGO RGYAN,NYIS TSHEG",
     "INITIAL BRDA RNYING YIG MGO MDUN MA,CLOSING BRDA RNYING YIG MGO SGAB MA"]⟩,
   ⟨0xFD5, "", ["RIGHT-FACING SVASTI SIGN,LEFT-FACING SVASTI SIGN",
     "RIGHT-FACING SVASTI SIGN WITH DOTS,LEFT-FACING SVASTI SIGN WITH DOTS"]⟩,
   ⟨0xFD9, "TIBETAN MARK ", ["LEADING MCHAN RTAGS,TRAILING MCHAN RTAGS"]⟩,
   ⟨0x1000, "MYANMAR LETTER ", ["KA,KHA,GA,GHA,NGA,CA,CHA,JA,JHA,NYA,NNYA,TTA,TTHA,DDA,DDHA,NNA",
     "TA,THA,DA,DHA,NA,PA,PHA,BA,BHA,MA,YA,RA,LA,WA,SA,HA,LLA,A,SHAN A,I,II,U,UU,E,MON E,O,AU"]⟩,
   ⟨0x102B, "MYANMAR VOWEL SIGN ", ["TALL AA,AA,I,II,U,UU,E,AI,MON II,MON O,E ABOVE"]⟩,
   ⟨0x1036, "MYANMAR SIGN ", ["ANUSVARA,DOT BELOW,VISARGA,VIRAMA,ASAT"]⟩,
   ⟨0x103B, "MYANMAR CONSONANT SIGN MEDIAL ", ["YA,RA,WA,HA"]⟩,
   ⟨0x103F, "MYANMAR LETTER GREAT ", ["SA"]⟩,
   ⟨0x1040, "MYANMAR DIGIT ", ["ZERO,ONE,TWO,THREE,FOUR,FIVE,SIX,SEVEN,EIGHT,NINE"]⟩,
   ⟨0x104A, "MYANMAR ", ["SIGN LITTLE SECTION,SIGN SECTION,SYMBOL LOCATIVE,SYMBOL COMPLETED",
     "SYMBOL AFOREMENTIONED,SYMBOL GENITIVE,LETTER SHA,LETTER SSA"]⟩,
   ⟨0x1052, "MYANMAR LETTER VOCALIC ", ["R,RR,L,LL"]⟩,
   ⟨0x1056, "MYANMAR VOWEL SIGN VOCALIC ", ["R,RR,L,LL"]⟩,
   ⟨0x105A, "MYANMAR LETTER MON ", ["NGA,JHA,BBA,BBE"]⟩,
   ⟨0x105E, "MYANMAR CONSONANT SIGN MON MEDIAL ", ["NA,MA,LA"]⟩,
   ⟨0x1061, "MYANMAR ", ["LETTER SGAW KAREN SHA,VOWEL SIGN SGAW KAREN EU"]⟩,
   ⟨0x1063, "MYANMAR TONE MARK SGAW KAREN ", ["HATHI,KE PHO"]⟩,
   ⟨0x1065, "MYANMAR LETTER WESTERN PWO KAREN ", ["THA,PWA"]⟩,
   ⟨0x1067, "MYANMAR VOWEL SIGN WESTERN PWO KAREN ", ["EU,UE"]⟩,
   ⟨0x1069, "MYANMAR SIGN WESTERN PWO KAREN TONE-", ["1,2,3,4,5"]⟩,
   ⟨0x106E, "MYANMAR LETTER EASTERN PWO KAREN ", ["NNA,YWA,GHWA"]⟩,
   ⟨0x1071, "MYANMAR VOWEL SIGN ", ["GEBA KAREN I,KAYAH OE,KAYAH U,KAYAH EE"]⟩,
   ⟨0x1075, "MYANMAR LETTER SHAN ", ["KA,KHA,GA,CA,ZA,NYA,DA,NA,PHA,FA,BA,THA,HA"]⟩,
   ⟨0x1082, "MYANMAR CONSONANT SIGN SHAN MEDIAL ", ["WA"]⟩,
   ⟨0x1083, "MYANMAR VOWEL SIGN SHAN ", ["AA,E,E ABOVE,FINAL Y"]⟩,
   ⟨0x1087, "MYANMAR SIGN SHAN ", ["TONE-2,TONE-3,TONE-5,TONE-6,COUNCIL TONE-2,COUNCIL TONE-3",
     "COUNCIL EMPHATIC TONE"]⟩,
   ⟨0x108E, "MYANMAR ", ["LETTER RUMAI PALAUNG FA,SIGN RUMAI PALAUNG TONE-5"]⟩,
   ⟨0x1090, "MYANMAR SHAN DIGIT ", ["ZERO,ONE,TWO,THREE,FOUR,FIVE,SIX,SEVEN,EIGHT,NINE"]⟩,
   ⟨0x109A, "MYANMAR SIGN KHAMTI TONE-", ["1,3"]⟩, ⟨0x109C, "MYANMAR VOWEL SIGN AITON ", ["A,AI"]⟩,
   ⟨0x109E, "MYANMAR SYMBOL SHAN ", ["ONE,EXCLAMATION"]⟩,
   ⟨0x10A0, "GEORGIAN CAPITAL LETTER ", ["AN,BAN,GAN,DON,EN,VIN,ZEN,TAN,IN,KAN,LAS,MAN,NAR,ON,PAR",
     "ZHAR,RAE,SAN,TAR,UN,PHAR,KHAR,GHAN,QAR,SHIN,CHIN,CAN,JIL,CIL,CHAR,XAN,JHAN,HAE,HE,HIE,WE",
     "HAR,HOE,,YN,,,,,,AEN"]⟩,
   ⟨0x10D0, "GEORGIAN LETTER ", ["AN,BAN,GAN,DON,EN,VIN,ZEN,TAN,IN,KAN,LAS,MAN,NAR,ON,PAR,ZHAR",
     "RAE,SAN,TAR,UN,PHAR,KHAR,GHAN,QAR,SHIN,CHIN,CAN,JIL,CIL,CHAR,XAN,JHAN,HAE,HE,HIE,WE,HAR",
     "HOE,FI,YN,ELIFI,TURNED GAN,AIN"]⟩,
   ⟨0x10FB, "", ["GEORGIAN PARAGRAPH SEPARATOR,MODIFIER LETTER GEORGIAN NAR"]⟩,
   ⟨0x10FD, "GEORGIAN LETTER ", ["AEN,HARD SIGN,LABIAL SIGN"]⟩,
   ⟨0x1100, "HANGUL CHOSEONG ", ["KIYEOK,SSANGKIYEOK,NIEUN,TIKEUT,SSANGTIKEUT,RIEUL,MIEUM,PIEUP",
     "SSANGPIEUP,SIOS,SSANGSIOS,IEUNG,CIEUC,SSANGCIEUC,CHIEUCH,KHIEUKH,THIEUTH,PHIEUPH,HIEUH",
     "NIEUN-KIYEOK,SSANGNIEUN,NIEUN-TIKEUT,NIEUN-PIEUP,TIKEUT-KIYEOK,RIEUL-NIEUN,SSANGRIEUL",
     "RIEUL-HIEUH,KAPYEOUNRIEUL,MIEUM-PIEUP,KAPYEOUNMIEUM"]⟩,
   ⟨0x111E, "HANGUL CHOSEONG PIEUP-", ["KIYEOK,NIEUN,TIKEUT,SIOS,SIOS-KIYEOK,SIOS-TIKEUT",
     "SIOS-PIEUP,SSANGSIOS,SIOS-CIEUC,CIEUC,CHIEUCH,THIEUTH,PHIEUPH"]⟩,
   ⟨0x112B, "HANGUL CHOSEONG ", ["KAPYEOUNPIEUP,KAPYEOUNSSANGPIEUP"]⟩,
   ⟨0x112D, "HANGUL CHOSEONG SIOS-", ["KIYEOK,NIEUN,TIKEUT,RIEUL,MIEUM,PIEUP,PIEUP-KIYEOK",
     "SSANGSIOS,IEUNG,CIEUC,CHIEUCH,KHIEUKH,THIEUTH,PHIEUPH,HIEUH"]⟩,
   ⟨0x113C, "HANGUL CHOSEONG ", ["CHITUEUMSIOS,CHITUEUMSSANGSIOS,CEONGCHIEUMSIOS",
     "CEONGCHIEUMSSANGSIOS,PANSIOS,IEUNG-KIYEOK,IEUNG-TIKEUT,IEUNG-MIEUM,IEUNG-PIEUP,IEUNG-SIOS",
     "IEUNG-PANSIOS,SSANGIEUNG,IEUNG-CIEUC,IEUNG-CHIEUCH,IEUNG-THIEUTH,IEUNG-PHIEUPH,YESIEUNG",
     "CIEUC-IEUNG,CHITUEUMCIEUC,CHITUEUMSSANGCIEUC,CEONGCHIEUMCIEUC,CEONGCHIEUMSSANGCIEUC",
     "CHIEUCH-KHIEUKH,CHIEUCH-HIEUH,CHITUEUMCHIEUCH,CEONGCHIEUMCHIEUCH,PHIEUPH-PIEUP",
     "KAPYEOUNPHIEUPH,SSANGHIEUH,YEORINHIEUH,KIYEOK-TIKEUT,NIEUN-SIOS,NIEUN-CIEUC,NIEUN-HIEUH",
     "TIKEUT-RIEUL,FILLER"]⟩,
   ⟨0x1160, "HANGUL JUNGSEONG ", ["FILLER,A,AE,YA,YAE,EO,E,YEO,YE,O,WA,WAE,OE,YO,U,WEO,WE,WI,YU",
     "EU,YI,I,A-O,A-U,YA-O,YA-YO,EO-O,EO-U,EO-EU,YEO-O,YEO-U,O-EO,O-E,O-YE,O-O,O-U,YO-YA,YO-YAE",
     "YO-YEO,YO-O,YO-I,U-A,U-AE,U-EO-EU,U-YE,U-U,YU-A,YU-EO,YU-E,YU-YEO,YU-YE,YU-U,YU-I,EU-U",
     "EU-EU,YI-U,I-A,I-YA,I-O,I-U,I-EU,I-ARAEA,ARAEA,ARAEA-EO,ARAEA-U,ARAEA-I,SSANGARAEA,A-EU",
     "YA-U,YEO-YA,O-YA,O-YAE"]⟩,
   ⟨0x11A8, "HANGUL JONGSEONG ", ["KIYEOK,SSANGKIYEOK,KIYEOK-SIOS,NIEUN,NIEUN-CIEUC,NIEUN-HIEUH",
     "TIKEUT,RIEUL,RIEUL-KIYEOK,RIEUL-MIEUM,RIEUL-PIEUP,RIEUL-SIOS,RIEUL-THIEUTH,RIEUL-PHIEUPH",
     "RIEUL-HIEUH,MIEUM,PIEUP,PIEUP-SIOS,SIOS,SSANGSIOS,IEUNG,CIEUC,CHIEUCH,KHIEUKH,THIEUTH",
     "PHIEUPH,HIEUH,KIYEOK-RIEUL,KIYEOK-SIOS-KIYEOK,NIEUN-KIYEOK,NIEUN-TIKEUT,NIEUN-SIOS",
     "NIEUN-PANSIOS,NIEUN-THIEUTH,TIKEUT-KIYEOK,TIKEUT-RIEUL,RIEUL-KIYEOK-SIOS,RIEUL-NIEUN",
     "RIEUL-TIKEUT,RIEUL-TIKEUT-HIEUH,SSANGRIEUL"]⟩,
   ⟨0x11D1, "HANGUL JONGSEONG RIEUL-", ["MIEUM-KIYEOK,MIEUM-SIOS,PIEUP-SIOS,PIEUP-HIEUH",
     "KAPYEOUNPIEUP,SSANGSIOS,PANSIOS,KHIEUKH,YEORINHIEUH"]⟩,
   ⟨0x11DA, "HANGUL JONGSEONG MIEUM-", ["KIYEOK,RIEUL,PIEUP,SIOS,SSANGSIOS,PANSIOS,CHIEUCH,HIEUH"]⟩,
   ⟨0x11E2, "HANGUL JONGSEONG ", ["KAPYEOUNMIEUM,PIEUP-RIEUL,PIEUP-PHIEUPH,PIEUP-HIEUH",
     "KAPYEOUNPIEUP,SIOS-KIYEOK,SIOS-TIKEUT,SIOS-RIEUL,SIOS-PIEUP,PANSIOS,IEUNG-KIYEOK",
     "IEUNG-SSANGKIYEOK,SSANGIEUNG,IEUNG-KHIEUKH,YESIEUNG,YESIEUNG-SIOS,YESIEUNG-PANSIOS",
     "PHIEUPH-PIEUP,KAPYEOUNPHIEUPH,HIEUH-NIEUN,HIEUH-RIEUL,HIEUH-MIEUM,HIEUH-PIEUP,YEORINHIEUH",
     "KIYEOK-NIEUN,KIYEOK-PIEUP,KIYEOK-CHIEUCH,KIYEOK-KHIEUKH,KIYEOK-HIEUH,SSANGNIEUN"]⟩]

end OAuthGrant.Text.CharacterName

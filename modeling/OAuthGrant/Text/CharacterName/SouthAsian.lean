import OAuthGrant.Text.NameRun

/-!
# Names of characters: SouthAsian

The data of the Unicode standard, version 14, for the code points from U+0900 to U+0DFF.
-/

namespace OAuthGrant.Text.CharacterName

def southAsianNames : List NameRun :=
  [⟨0x900, "DEVANAGARI SIGN ", ["INVERTED CANDRABINDU,CANDRABINDU,ANUSVARA,VISARGA"]⟩,
   ⟨0x904, "DEVANAGARI LETTER ", ["SHORT A,A,AA,I,II,U,UU,VOCALIC R,VOCALIC L,CANDRA E,SHORT E,E",
     "AI,CANDRA O,SHORT O,O,AU,KA,KHA,GA,GHA,NGA,CA,CHA,JA,JHA,NYA,TTA,TTHA,DDA,DDHA,NNA,TA,THA",
     "DA,DHA,NA,NNNA,PA,PHA,BA,BHA,MA,YA,RA,RRA,LA,LLA,LLLA,VA,SHA,SSA,SA,HA"]⟩,
   ⟨0x93A, "DEVANAGARI ", ["VOWEL SIGN OE,VOWEL SIGN OOE,SIGN NUKTA,SIGN AVAGRAHA"]⟩,
   ⟨0x93E, "DEVANAGARI VOWEL SIGN ", ["AA,I,II,U,UU,VOCALIC R,VOCALIC RR,CANDRA E,SHORT E,E,AI",
     "CANDRA O,SHORT O,O,AU"]⟩,
   ⟨0x94D, "DEVANAGARI ", ["SIGN VIRAMA,VOWEL SIGN PRISHTHAMATRA E,VOWEL SIGN AW,OM",
     "STRESS SIGN UDATTA,STRESS SIGN ANUDATTA,GRAVE ACCENT,ACUTE ACCENT,VOWEL SIGN CANDRA LONG E",
     "VOWEL SIGN UE,VOWEL SIGN UUE"]⟩,
   ⟨0x958, "DEVANAGARI LETTER ", ["QA,KHHA,GHHA,ZA,DDDHA,RHA,FA,YYA,VOCALIC RR,VOCALIC LL"]⟩,
   ⟨0x962, "DEVANAGARI ", ["VOWEL SIGN VOCALIC L,VOWEL SIGN VOCALIC LL,DANDA,DOUBLE DANDA"]⟩,
   ⟨0x966, "DEVANAGARI DIGIT ", ["ZERO,ONE,TWO,THREE,FOUR,FIVE,SIX,SEVEN,EIGHT,NINE"]⟩,
   ⟨0x970, "DEVANAGARI ", ["ABBREVIATION SIGN,SIGN HIGH SPACING DOT"]⟩,
   ⟨0x972, "DEVANAGARI LETTER ", ["CANDRA A,OE,OOE,AW,UE,UUE,MARWARI DDA,ZHA,HEAVY YA,GGA,JJA",
     "GLOTTAL STOP,DDDA,BBA"]⟩,
   ⟨0x980, "BENGALI ", ["ANJI,SIGN CANDRABINDU,SIGN ANUSVARA,SIGN VISARGA"]⟩,
   ⟨0x985, "BENGALI LETTER ", ["A,AA,I,II,U,UU,VOCALIC R,VOCALIC L,,,E,AI,,,O,AU,KA,KHA,GA,GHA",
     "NGA,CA,CHA,JA,JHA,NYA,TTA,TTHA,DDA,DDHA,NNA,TA,THA,DA,DHA,NA,,PA,PHA,BA,BHA,MA,YA,RA,,LA,,",
     ",SHA,SSA,SA,HA"]⟩,
   ⟨0x9BC, "BENGALI SIGN ", ["NUKTA,AVAGRAHA"]⟩,
   ⟨0x9BE, "BENGALI VOWEL SIGN ", ["AA,I,II,U,UU,VOCALIC R,VOCALIC RR,,,E,AI,,,O,AU"]⟩,
   ⟨0x9CD, "BENGALI ", ["SIGN VIRAMA,LETTER KHANDA TA,,,,,,,,,AU LENGTH MARK"]⟩,
   ⟨0x9DC, "BENGALI LETTER ", ["RRA,RHA,,YYA,VOCALIC RR,VOCALIC LL"]⟩,
   ⟨0x9E2, "BENGALI VOWEL SIGN VOCALIC ", ["L,LL"]⟩,
   ⟨0x9E6, "BENGALI DIGIT ", ["ZERO,ONE,TWO,THREE,FOUR,FIVE,SIX,SEVEN,EIGHT,NINE"]⟩,
   ⟨0x9F0, "BENGALI ", ["LETTER RA WITH MIDDLE DIAGONAL,LETTER RA WITH LOWER DIAGONAL,RUPEE MARK",
     "RUPEE SIGN"]⟩,
   ⟨0x9F4, "BENGALI CURRENCY NUMERATOR ", ["ONE,TWO,THREE,FOUR,ONE LESS THAN THE DENOMINATOR"]⟩,
   ⟨0x9F9, "BENGALI ", ["CURRENCY DENOMINATOR SIXTEEN,ISSHAR,GANDA MARK,LETTER VEDIC ANUSVARA",
     "ABBREVIATION SIGN,SANDHI MARK"]⟩,
   ⟨0xA01, "GURMUKHI SIGN ", ["ADAK BINDI,BINDI,VISARGA"]⟩,
   ⟨0xA05, "GURMUKHI LETTER ", ["A,AA,I,II,U,UU,,,,,EE,AI,,,OO,AU,KA,KHA,GA,GHA,NGA,CA,CHA,JA,JHA",
     "NYA,TTA,TTHA,DDA,DDHA,NNA,TA,THA,DA,DHA,NA,,PA,PHA,BA,BHA,MA,YA,RA,,LA,LLA,,VA,SHA,,SA,HA"]⟩,
   ⟨0xA3C, "GURMUKHI SIGN ", ["NUKTA"]⟩,
   ⟨0xA3E, "GURMUKHI VOWEL SIGN ", ["AA,I,II,U,UU,,,,,EE,AI,,,OO,AU"]⟩,
   ⟨0xA4D, "GURMUKHI SIGN ", ["VIRAMA,,,,UDAAT"]⟩,
   ⟨0xA59, "GURMUKHI LETTER ", ["KHHA,GHHA,ZA,RRA,,FA"]⟩,
   ⟨0xA66, "GURMUKHI DIGIT ", ["ZERO,ONE,TWO,THREE,FOUR,FIVE,SIX,SEVEN,EIGHT,NINE"]⟩,
   ⟨0xA70, "GURMUKHI ", ["TIPPI,ADDAK,IRI,URA,EK ONKAR,SIGN YAKASH,ABBREVIATION SIGN"]⟩,
   ⟨0xA81, "GUJARATI SIGN ", ["CANDRABINDU,ANUSVARA,VISARGA"]⟩,
   ⟨0xA85, "GUJARATI LETTER ", ["A,AA,I,II,U,UU,VOCALIC R,VOCALIC L"]⟩,
   ⟨0xA8D, "GUJARATI ", ["VOWEL CANDRA E,,LETTER E,LETTER AI,VOWEL CANDRA O"]⟩,
   ⟨0xA93, "GUJARATI LETTER ", ["O,AU,KA,KHA,GA,GHA,NGA,CA,CHA,JA,JHA,NYA,TTA,TTHA,DDA,DDHA,NNA",
     "TA,THA,DA,DHA,NA,,PA,PHA,BA,BHA,MA,YA,RA,,LA,LLA,,VA,SHA,SSA,SA,HA"]⟩,
   ⟨0xABC, "GUJARATI SIGN ", ["NUKTA,AVAGRAHA"]⟩,
   ⟨0xABE, "GUJARATI VOWEL SIGN ", ["AA,I,II,U,UU,VOCALIC R,VOCALIC RR,CANDRA E,,E,AI,CANDRA O,,O",
     "AU"]⟩,
   ⟨0xACD, "GUJARATI ", ["SIGN VIRAMA,,,OM"]⟩, ⟨0xAE0, "GUJARATI LETTER VOCALIC ", ["RR,LL"]⟩,
   ⟨0xAE2, "GUJARATI VOWEL SIGN VOCALIC ", ["L,LL"]⟩,
   ⟨0xAE6, "GUJARATI DIGIT ", ["ZERO,ONE,TWO,THREE,FOUR,FIVE,SIX,SEVEN,EIGHT,NINE"]⟩,
   ⟨0xAF0, "GUJARATI ", ["ABBREVIATION SIGN,RUPEE SIGN,,,,,,,,LETTER ZHA"]⟩,
   ⟨0xAFA, "GUJARATI SIGN ", ["SUKUN,SHADDA,MADDAH,THREE-DOT NUKTA ABOVE,CIRCLE NUKTA ABOVE",
     "TWO-CIRCLE NUKTA ABOVE"]⟩,
   ⟨0xB01, "ORIYA SIGN ", ["CANDRABINDU,ANUSVARA,VISARGA"]⟩,
   ⟨0xB05, "ORIYA LETTER ", ["A,AA,I,II,U,UU,VOCALIC R,VOCALIC L,,,E,AI,,,O,AU,KA,KHA,GA,GHA,NGA",
     "CA,CHA,JA,JHA,NYA,TTA,TTHA,DDA,DDHA,NNA,TA,THA,DA,DHA,NA,,PA,PHA,BA,BHA,MA,YA,RA,,LA,LLA,",
     "VA,SHA,SSA,SA,HA"]⟩,
   ⟨0xB3C, "ORIYA SIGN ", ["NUKTA,AVAGRAHA"]⟩,
   ⟨0xB3E, "ORIYA VOWEL SIGN ", ["AA,I,II,U,UU,VOCALIC R,VOCALIC RR,,,E,AI,,,O,AU"]⟩,
   ⟨0xB4D, "ORIYA ", ["SIGN VIRAMA,,,,,,,,SIGN OVERLINE,AI LENGTH MARK,AU LENGTH MARK"]⟩,
   ⟨0xB5C, "ORIYA LETTER ", ["RRA,RHA,,YYA,VOCALIC RR,VOCALIC LL"]⟩,
   ⟨0xB62, "ORIYA VOWEL SIGN VOCALIC ", ["L,LL"]⟩,
   ⟨0xB66, "ORIYA DIGIT ", ["ZERO,ONE,TWO,THREE,FOUR,FIVE,SIX,SEVEN,EIGHT,NINE"]⟩,
   ⟨0xB70, "ORIYA ", ["ISSHAR,LETTER WA"]⟩,
   ⟨0xB72, "ORIYA FRACTION ", ["ONE QUARTER,ONE HALF,THREE QUARTERS,ONE SIXTEENTH,ONE EIGHTH",
     "THREE SIXTEENTHS"]⟩,
   ⟨0xB82, "TAMIL SIGN ", ["ANUSVARA,VISARGA"]⟩,
   ⟨0xB85, "TAMIL LETTER ", ["A,AA,I,II,U,UU,,,,E,EE,AI,,O,OO,AU,KA,,,,NGA,CA,,JA,,NYA,TTA,,,,NNA",
     "TA,,,,NA,NNNA,PA,,,,MA,YA,RA,RRA,LA,LLA,LLLA,VA,SHA,SSA,SA,HA"]⟩,
   ⟨0xBBE, "TAMIL VOWEL SIGN ", ["AA,I,II,U,UU,,,,E,EE,AI,,O,OO,AU"]⟩,
   ⟨0xBCD, "TAMIL ", ["SIGN VIRAMA,,,OM,,,,,,,AU LENGTH MARK"]⟩,
   ⟨0xBE6, "TAMIL DIGIT ", ["ZERO,ONE,TWO,THREE,FOUR,FIVE,SIX,SEVEN,EIGHT,NINE"]⟩,
   ⟨0xBF0, "TAMIL ", ["NUMBER TEN,NUMBER ONE HUNDRED,NUMBER ONE THOUSAND,DAY SIGN,MONTH SIGN",
     "YEAR SIGN,DEBIT SIGN,CREDIT SIGN,AS ABOVE SIGN,RUPEE SIGN,NUMBER SIGN"]⟩,
   ⟨0xC00, "TELUGU SIGN ", ["COMBINING CANDRABINDU ABOVE,CANDRABINDU,ANUSVARA,VISARGA",
     "COMBINING ANUSVARA ABOVE"]⟩,
   ⟨0xC05, "TELUGU LETTER ", ["A,AA,I,II,U,UU,VOCALIC R,VOCALIC L,,E,EE,AI,,O,OO,AU,KA,KHA,GA,GHA",
     "NGA,CA,CHA,JA,JHA,NYA,TTA,TTHA,DDA,DDHA,NNA,TA,THA,DA,DHA,NA,,PA,PHA,BA,BHA,MA,YA,RA,RRA",
     "LA,LLA,LLLA,VA,SHA,SSA,SA,HA"]⟩,
   ⟨0xC3C, "TELUGU SIGN ", ["NUKTA,AVAGRAHA"]⟩,
   ⟨0xC3E, "TELUGU VOWEL SIGN ", ["AA,I,II,U,UU,VOCALIC R,VOCALIC RR,,E,EE,AI,,O,OO,AU"]⟩,
   ⟨0xC4D, "TELUGU ", ["SIGN VIRAMA,,,,,,,,LENGTH MARK,AI LENGTH MARK"]⟩,
   ⟨0xC58, "TELUGU LETTER ", ["TSA,DZA,RRRA,,,NAKAARA POLLU,,,VOCALIC RR,VOCALIC LL"]⟩,
   ⟨0xC62, "TELUGU VOWEL SIGN VOCALIC ", ["L,LL"]⟩,
   ⟨0xC66, "TELUGU DIGIT ", ["ZERO,ONE,TWO,THREE,FOUR,FIVE,SIX,SEVEN,EIGHT,NINE"]⟩,
   ⟨0xC77, "TELUGU SIGN ", ["SIDDHAM"]⟩,
   ⟨0xC78, "TELUGU FRACTION DIGIT ", ["ZERO FOR ODD POWERS OF FOUR,ONE FOR ODD POWERS OF FOUR",
     "TWO FOR ODD POWERS OF FOUR,THREE FOR ODD POWERS OF FOUR,ONE FOR EVEN POWERS OF FOUR",
     "TWO FOR EVEN POWERS OF FOUR,THREE FOR EVEN POWERS OF FOUR"]⟩,
   ⟨0xC7F, "TELUGU SIGN ", ["TUUMU"]⟩,
   ⟨0xC80, "KANNADA SIGN ", ["SPACING CANDRABINDU,CANDRABINDU,ANUSVARA,VISARGA,SIDDHAM"]⟩,
   ⟨0xC85, "KANNADA LETTER ", ["A,AA,I,II,U,UU,VOCALIC R,VOCALIC L,,E,EE,AI,,O,OO,AU,KA,KHA,GA",
     "GHA,NGA,CA,CHA,JA,JHA,NYA,TTA,TTHA,DDA,DDHA,NNA,TA,THA,DA,DHA,NA,,PA,PHA,BA,BHA,MA,YA,RA",
     "RRA,LA,LLA,,VA,SHA,SSA,SA,HA"]⟩,
   ⟨0xCBC, "KANNADA SIGN ", ["NUKTA,AVAGRAHA"]⟩,
   ⟨0xCBE, "KANNADA VOWEL SIGN ", ["AA,I,II,U,UU,VOCALIC R,VOCALIC RR,,E,EE,AI,,O,OO,AU"]⟩,
   ⟨0xCCD, "KANNADA ", ["SIGN VIRAMA,,,,,,,,LENGTH MARK,AI LENGTH MARK"]⟩,
   ⟨0xCDD, "KANNADA LETTER ", ["NAKAARA POLLU,FA,,VOCALIC RR,VOCALIC LL"]⟩,
   ⟨0xCE2, "KANNADA VOWEL SIGN VOCALIC ", ["L,LL"]⟩,
   ⟨0xCE6, "KANNADA DIGIT ", ["ZERO,ONE,TWO,THREE,FOUR,FIVE,SIX,SEVEN,EIGHT,NINE"]⟩,
   ⟨0xCF1, "KANNADA SIGN ", ["JIHVAMULIYA,UPADHMANIYA"]⟩,
   ⟨0xD00, "MALAYALAM SIGN ", ["COMBINING ANUSVARA ABOVE,CANDRABINDU,ANUSVARA,VISARGA"]⟩,
   ⟨0xD04, "MALAYALAM LETTER ", ["VEDIC ANUSVARA,A,AA,I,II,U,UU,VOCALIC R,VOCALIC L,,E,EE,AI,,O",
     "OO,AU,KA,KHA,GA,GHA,NGA,CA,CHA,JA,JHA,NYA,TTA,TTHA,DDA,DDHA,NNA,TA,THA,DA,DHA,NA,NNNA,PA",
     "PHA,BA,BHA,MA,YA,RA,RRA,LA,LLA,LLLA,VA,SHA,SSA,SA,HA,TTTA"]⟩,
   ⟨0xD3B, "MALAYALAM SIGN ", ["VERTICAL BAR VIRAMA,CIRCULAR VIRAMA,AVAGRAHA"]⟩,
   ⟨0xD3E, "MALAYALAM VOWEL SIGN ", ["AA,I,II,U,UU,VOCALIC R,VOCALIC RR,,E,EE,AI,,O,OO,AU"]⟩,
   ⟨0xD4D, "MALAYALAM ", ["SIGN VIRAMA,LETTER DOT REPH,SIGN PARA,,,,,LETTER CHILLU M",
     "LETTER CHILLU Y,LETTER CHILLU LLL,AU LENGTH MARK"]⟩,
   ⟨0xD58, "MALAYALAM FRACTION ", ["ONE ONE-HUNDRED-AND-SIXTIETH,ONE FORTIETH,THREE EIGHTIETHS",
     "ONE TWENTIETH,ONE TENTH,THREE TWENTIETHS,ONE FIFTH"]⟩,
   ⟨0xD5F, "MALAYALAM LETTER ", ["ARCHAIC II,VOCALIC RR,VOCALIC LL"]⟩,
   ⟨0xD62, "MALAYALAM VOWEL SIGN VOCALIC ", ["L,LL"]⟩,
   ⟨0xD66, "MALAYALAM DIGIT ", ["ZERO,ONE,TWO,THREE,FOUR,FIVE,SIX,SEVEN,EIGHT,NINE"]⟩,
   ⟨0xD70, "MALAYALAM NUMBER ", ["TEN,ONE HUNDRED,ONE THOUSAND"]⟩,
   ⟨0xD73, "MALAYALAM FRACTION ", ["ONE QUARTER,ONE HALF,THREE QUARTERS,ONE SIXTEENTH,ONE EIGHTH",
     "THREE SIXTEENTHS"]⟩,
   ⟨0xD79, "MALAYALAM DATE ", ["MARK"]⟩, ⟨0xD7A, "MALAYALAM LETTER CHILLU ", ["NN,N,RR,L,LL,K"]⟩,
   ⟨0xD81, "SINHALA SIGN ", ["CANDRABINDU,ANUSVARAYA,VISARGAYA"]⟩,
   ⟨0xD85, "SINHALA LETTER ", ["AYANNA,AAYANNA,AEYANNA,AEEYANNA,IYANNA,IIYANNA,UYANNA,UUYANNA",
     "IRUYANNA,IRUUYANNA,ILUYANNA,ILUUYANNA,EYANNA,EEYANNA,AIYANNA,OYANNA,OOYANNA,AUYANNA,,,",
     "ALPAPRAANA KAYANNA,MAHAAPRAANA KAYANNA,ALPAPRAANA GAYANNA,MAHAAPRAANA GAYANNA",
     "KANTAJA NAASIKYAYA,SANYAKA GAYANNA,ALPAPRAANA CAYANNA,MAHAAPRAANA CAYANNA",
     "ALPAPRAANA JAYANNA,MAHAAPRAANA JAYANNA,TAALUJA NAASIKYAYA,TAALUJA SANYOOGA NAAKSIKYAYA",
     "SANYAKA JAYANNA,ALPAPRAANA TTAYANNA,MAHAAPRAANA TTAYANNA,ALPAPRAANA DDAYANNA",
     "MAHAAPRAANA DDAYANNA,MUURDHAJA NAYANNA,SANYAKA DDAYANNA,ALPAPRAANA TAYANNA",
     "MAHAAPRAANA TAYANNA,ALPAPRAANA DAYANNA,MAHAAPRAANA DAYANNA,DANTAJA NAYANNA,",
     "SANYAKA DAYANNA,ALPAPRAANA PAYANNA,MAHAAPRAANA PAYANNA,ALPAPRAANA BAYANNA",
     "MAHAAPRAANA BAYANNA,MAYANNA,AMBA BAYANNA,YAYANNA,RAYANNA,,DANTAJA LAYANNA,,,VAYANNA",
     "TAALUJA SAYANNA,MUURDHAJA SAYANNA,DANTAJA SAYANNA,HAYANNA,MUURDHAJA LAYANNA,FAYANNA"]⟩,
   ⟨0xDCA, "SINHALA SIGN AL-", ["LAKUNA"]⟩,
   ⟨0xDCF, "SINHALA VOWEL SIGN ", ["AELA-PILLA,KETTI AEDA-PILLA,DIGA AEDA-PILLA,KETTI IS-PILLA",
     "DIGA IS-PILLA,KETTI PAA-PILLA,,DIGA PAA-PILLA,,GAETTA-PILLA,KOMBUVA,DIGA KOMBUVA",
     "KOMBU DEKA,KOMBUVA HAA AELA-PILLA,KOMBUVA HAA DIGA AELA-PILLA,KOMBUVA HAA GAYANUKITTA",
     "GAYANUKITTA"]⟩,
   ⟨0xDE6, "SINHALA LITH DIGIT ", ["ZERO,ONE,TWO,THREE,FOUR,FIVE,SIX,SEVEN,EIGHT,NINE"]⟩,
   ⟨0xDF2, "SINHALA ", ["VOWEL SIGN DIGA GAETTA-PILLA,VOWEL SIGN DIGA GAYANUKITTA",
     "PUNCTUATION KUNDDALIYA"]⟩]

end OAuthGrant.Text.CharacterName

import OAuthGrant.Text.TextTable

/-!
# Compatibility decompositions

The data of the Unicode standard, version 3.2, behind `Text.decomposed`, without the syllables of
Hangul. A decomposition is listed with all of its own parts decomposed.
-/

namespace OAuthGrant.Text

/-- The decompositions of characters, each but the last of a row with a pilcrow at its end. -/
def decompositions : TextTable :=
  [(0xA0, " "), (0xA8, " ̈¶¶a"),
   (0xAF, " ̄¶¶¶2¶3¶ ́¶μ¶¶¶ ̧¶1¶o¶¶1⁄4¶1⁄2¶3⁄4¶¶À¶Á¶Â¶Ã¶Ä¶Å¶¶Ç¶È¶É¶Ê¶Ë¶Ì¶Í¶Î¶Ï"),
   (0xD1, "Ñ¶Ò¶Ó¶Ô¶Õ¶Ö¶¶¶Ù¶Ú¶Û¶Ü¶Ý¶¶¶à¶á¶â¶ã¶ä¶å¶¶ç¶è¶é¶ê¶ë¶ì¶í¶î¶ï"),
   (0xF1, "ñ¶ò¶ó¶ô¶õ¶ö¶¶¶ù¶ú¶û¶ü¶ý¶¶ÿ¶Ā¶ā¶Ă¶ă¶Ą¶ą¶Ć¶ć¶Ĉ¶ĉ¶Ċ¶ċ¶Č¶č"),
   (0x10E, "Ď¶ď¶¶¶Ē¶ē¶Ĕ¶ĕ¶Ė¶ė¶Ę¶ę¶Ě¶ě¶Ĝ¶ĝ¶Ğ¶ğ¶Ġ¶ġ¶Ģ¶ģ¶Ĥ¶ĥ¶¶¶Ĩ¶ĩ¶Ī¶ī"),
   (0x12C, "Ĭ¶ĭ¶Į¶į¶İ¶¶IJ¶ij¶Ĵ¶ĵ¶Ķ¶ķ¶¶Ĺ¶ĺ¶Ļ¶ļ¶Ľ¶ľ¶L·¶l·¶¶¶Ń¶ń¶Ņ¶ņ¶Ň¶ň¶ʼn"),
   (0x14C, "Ō¶ō¶Ŏ¶ŏ¶Ő¶ő¶¶¶Ŕ¶ŕ¶Ŗ¶ŗ¶Ř¶ř¶Ś¶ś¶Ŝ¶ŝ¶Ş¶ş¶Š¶š¶Ţ¶ţ¶Ť¶ť¶¶¶Ũ¶ũ"),
   (0x16A, "Ū¶ū¶Ŭ¶ŭ¶Ů¶ů¶Ű¶ű¶Ų¶ų¶Ŵ¶ŵ¶Ŷ¶ŷ¶Ÿ¶Ź¶ź¶Ż¶ż¶Ž¶ž¶s"), (0x1A0, "Ơ¶ơ"),
   (0x1AF, "Ư¶ư"),
   (0x1C4, "DŽ¶Dž¶dž¶LJ¶Lj¶lj¶NJ¶Nj¶nj¶Ǎ¶ǎ¶Ǐ¶ǐ¶Ǒ¶ǒ¶Ǔ¶ǔ¶Ǖ¶ǖ¶Ǘ¶ǘ¶Ǚ¶ǚ¶Ǜ"),
   (0x1DC, "ǜ¶¶Ǟ¶ǟ¶Ǡ¶ǡ¶Ǣ¶ǣ¶¶¶Ǧ¶ǧ¶Ǩ¶ǩ¶Ǫ¶ǫ¶Ǭ¶ǭ¶Ǯ¶ǯ¶ǰ¶DZ¶Dz¶dz¶Ǵ¶ǵ"),
   (0x1F8, "Ǹ¶ǹ¶Ǻ¶ǻ¶Ǽ¶ǽ¶Ǿ¶ǿ¶Ȁ¶ȁ¶Ȃ¶ȃ¶Ȅ¶ȅ¶Ȇ¶ȇ¶Ȉ¶ȉ¶Ȋ¶ȋ¶Ȍ¶ȍ¶Ȏ¶ȏ¶Ȑ¶ȑ¶Ȓ"),
   (0x213, "ȓ¶Ȕ¶ȕ¶Ȗ¶ȗ¶Ș¶ș¶Ț¶ț¶¶¶Ȟ¶ȟ"),
   (0x226, "Ȧ¶ȧ¶Ȩ¶ȩ¶Ȫ¶ȫ¶Ȭ¶ȭ¶Ȯ¶ȯ¶Ȱ¶ȱ¶Ȳ¶ȳ"), (0x2B0, "h¶ɦ¶j¶r¶ɹ¶ɻ¶ʁ¶w¶y"),
   (0x2D8, " ̆¶ ̇¶ ̊¶ ̨¶ ̃¶ ̋¶¶¶ɣ¶l¶s¶x¶ʕ"), (0x340, "̀¶́¶¶̓¶̈́"), (0x374, "ʹ"), (0x37A, " ͅ"),
   (0x37E, ";"), (0x384, " ́¶ ̈́¶Ά¶·¶Έ¶Ή¶Ί¶¶Ό¶¶Ύ¶Ώ¶ΐ"), (0x3AA, "Ϊ¶Ϋ¶ά¶έ¶ή¶ί¶ΰ"),
   (0x3CA, "ϊ¶ϋ¶ό¶ύ¶ώ¶¶β¶θ¶Υ¶Ύ¶Ϋ¶φ¶π"), (0x3F0, "κ¶ρ¶ς¶¶Θ¶ε"), (0x400, "Ѐ¶Ё¶¶Ѓ"),
   (0x407, "Ї"), (0x40C, "Ќ¶Ѝ¶Ў"), (0x419, "Й"), (0x439, "й"), (0x450, "ѐ¶ё¶¶ѓ"),
   (0x457, "ї"), (0x45C, "ќ¶ѝ¶ў"), (0x476, "Ѷ¶ѷ"), (0x4C1, "Ӂ¶ӂ"),
   (0x4D0, "Ӑ¶ӑ¶Ӓ¶ӓ¶¶¶Ӗ¶ӗ¶¶¶Ӛ¶ӛ¶Ӝ¶ӝ¶Ӟ¶ӟ¶¶¶Ӣ¶ӣ¶Ӥ¶ӥ¶Ӧ¶ӧ¶¶¶Ӫ¶ӫ¶Ӭ¶ӭ¶Ӯ¶ӯ¶Ӱ"),
   (0x4F1, "ӱ¶Ӳ¶ӳ¶Ӵ¶ӵ¶¶¶Ӹ¶ӹ"), (0x587, "եւ"), (0x622, "آ¶أ¶ؤ¶إ¶ئ"),
   (0x675, "اٴ¶وٴ¶ۇٴ¶يٴ"), (0x6C0, "ۀ¶¶ۂ"), (0x6D3, "ۓ"), (0x929, "ऩ"), (0x931, "ऱ¶¶¶ऴ"),
   (0x958, "क़¶ख़¶ग़¶ज़¶ड़¶ढ़¶फ़¶य़"), (0x9CB, "ো¶ৌ"), (0x9DC, "ড়¶ঢ়¶¶য়"), (0xA33, "ਲ਼¶¶¶ਸ਼"),
   (0xA59, "ਖ਼¶ਗ਼¶ਜ਼¶¶¶ਫ਼"), (0xB48, "ୈ¶¶¶ୋ¶ୌ"), (0xB5C, "ଡ଼¶ଢ଼"), (0xB94, "ஔ"),
   (0xBCA, "ொ¶ோ¶ௌ"), (0xC48, "ై"), (0xCC0, "ೀ"), (0xCC7, "ೇ¶ೈ¶¶ೊ¶ೋ"), (0xD4A, "ൊ¶ോ¶ൌ"),
   (0xDDA, "ේ¶¶ො¶ෝ¶ෞ"), (0xE33, "ํา"), (0xEB3, "ໍາ"), (0xEDC, "ຫນ¶ຫມ"), (0xF0C, "་"),
   (0xF43, "གྷ"), (0xF4D, "ཌྷ"), (0xF52, "དྷ"), (0xF57, "བྷ"), (0xF5C, "ཛྷ"), (0xF69, "ཀྵ"),
   (0xF73, "ཱི¶¶ཱུ¶ྲྀ¶ྲཱྀ¶ླྀ¶ླཱྀ"), (0xF81, "ཱྀ"), (0xF93, "ྒྷ"), (0xF9D, "ྜྷ"), (0xFA2, "ྡྷ"),
   (0xFA7, "ྦྷ"), (0xFAC, "ྫྷ"), (0xFB9, "ྐྵ"), (0x1026, "ဦ"),
   (0x1E00, "Ḁ¶ḁ¶Ḃ¶ḃ¶Ḅ¶ḅ¶Ḇ¶ḇ¶Ḉ¶ḉ¶Ḋ¶ḋ¶Ḍ¶ḍ¶Ḏ¶ḏ¶Ḑ¶ḑ¶Ḓ¶ḓ¶Ḕ¶ḕ¶Ḗ¶ḗ¶Ḙ"),
   (0x1E19, "ḙ¶Ḛ¶ḛ¶Ḝ¶ḝ¶Ḟ¶ḟ¶Ḡ¶ḡ¶Ḣ¶ḣ¶Ḥ¶ḥ¶Ḧ¶ḧ¶Ḩ¶ḩ¶Ḫ¶ḫ¶Ḭ¶ḭ¶Ḯ¶ḯ¶Ḱ¶ḱ¶Ḳ"),
   (0x1E33, "ḳ¶Ḵ¶ḵ¶Ḷ¶ḷ¶Ḹ¶ḹ¶Ḻ¶ḻ¶Ḽ¶ḽ¶Ḿ¶ḿ¶Ṁ¶ṁ¶Ṃ¶ṃ¶Ṅ¶ṅ¶Ṇ¶ṇ¶Ṉ¶ṉ¶Ṋ¶ṋ¶Ṍ"),
   (0x1E4D, "ṍ¶Ṏ¶ṏ¶Ṑ¶ṑ¶Ṓ¶ṓ¶Ṕ¶ṕ¶Ṗ¶ṗ¶Ṙ¶ṙ¶Ṛ¶ṛ¶Ṝ¶ṝ¶Ṟ¶ṟ¶Ṡ¶ṡ¶Ṣ¶ṣ¶Ṥ"),
   (0x1E65, "ṥ¶Ṧ¶ṧ¶Ṩ¶ṩ¶Ṫ¶ṫ¶Ṭ¶ṭ¶Ṯ¶ṯ¶Ṱ¶ṱ¶Ṳ¶ṳ¶Ṵ¶ṵ¶Ṷ¶ṷ¶Ṹ¶ṹ¶Ṻ¶ṻ¶Ṽ"),
   (0x1E7D, "ṽ¶Ṿ¶ṿ¶Ẁ¶ẁ¶Ẃ¶ẃ¶Ẅ¶ẅ¶Ẇ¶ẇ¶Ẉ¶ẉ¶Ẋ¶ẋ¶Ẍ¶ẍ¶Ẏ¶ẏ¶Ẑ¶ẑ¶Ẓ¶ẓ¶Ẕ¶ẕ¶ẖ¶ẗ"),
   (0x1E98, "ẘ¶ẙ¶aʾ¶ṡ"),
   (0x1EA0, "Ạ¶ạ¶Ả¶ả¶Ấ¶ấ¶Ầ¶ầ¶Ẩ¶ẩ¶Ẫ¶ẫ¶Ậ¶ậ¶Ắ¶ắ¶Ằ¶ằ¶Ẳ¶ẳ¶Ẵ"),
   (0x1EB5, "ẵ¶Ặ¶ặ¶Ẹ¶ẹ¶Ẻ¶ẻ¶Ẽ¶ẽ¶Ế¶ế¶Ề¶ề¶Ể¶ể¶Ễ¶ễ¶Ệ¶ệ¶Ỉ¶ỉ¶Ị¶ị"),
   (0x1ECC, "Ọ¶ọ¶Ỏ¶ỏ¶Ố¶ố¶Ồ¶ồ¶Ổ¶ổ¶Ỗ¶ỗ¶Ộ¶ộ¶Ớ¶ớ¶Ờ¶ờ¶Ở¶ở¶Ỡ"),
   (0x1EE1, "ỡ¶Ợ¶ợ¶Ụ¶ụ¶Ủ¶ủ¶Ứ¶ứ¶Ừ¶ừ¶Ử¶ử¶Ữ¶ữ¶Ự¶ự¶Ỳ¶ỳ¶Ỵ¶ỵ¶Ỷ¶ỷ"),
   (0x1EF8, "Ỹ¶ỹ"),
   (0x1F00, "ἀ¶ἁ¶ἂ¶ἃ¶ἄ¶ἅ¶ἆ¶ἇ¶Ἀ¶Ἁ¶Ἂ¶Ἃ¶Ἄ¶Ἅ¶Ἆ¶Ἇ¶ἐ¶ἑ¶ἒ¶ἓ¶ἔ¶ἕ"),
   (0x1F18, "Ἐ¶Ἑ¶Ἒ¶Ἓ¶Ἔ¶Ἕ¶¶¶ἠ¶ἡ¶ἢ¶ἣ¶ἤ¶ἥ¶ἦ¶ἧ¶Ἠ¶Ἡ¶Ἢ¶Ἣ¶Ἤ¶Ἥ¶Ἦ"),
   (0x1F2F, "Ἧ¶ἰ¶ἱ¶ἲ¶ἳ¶ἴ¶ἵ¶ἶ¶ἷ¶Ἰ¶Ἱ¶Ἲ¶Ἳ¶Ἴ¶Ἵ¶Ἶ¶Ἷ¶ὀ¶ὁ¶ὂ¶ὃ¶ὄ"),
   (0x1F45, "ὅ¶¶¶Ὀ¶Ὁ¶Ὂ¶Ὃ¶Ὄ¶Ὅ¶¶¶ὐ¶ὑ¶ὒ¶ὓ¶ὔ¶ὕ¶ὖ¶ὗ¶¶Ὑ¶¶Ὓ¶¶Ὕ¶¶Ὗ¶ὠ"),
   (0x1F61, "ὡ¶ὢ¶ὣ¶ὤ¶ὥ¶ὦ¶ὧ¶Ὠ¶Ὡ¶Ὢ¶Ὣ¶Ὤ¶Ὥ¶Ὦ¶Ὧ¶ὰ¶ά¶ὲ¶έ¶ὴ¶ή¶ὶ¶ί"),
   (0x1F78, "ὸ¶ό¶ὺ¶ύ¶ὼ¶ώ¶¶¶ᾀ¶ᾁ¶ᾂ¶ᾃ¶ᾄ¶ᾅ¶ᾆ¶ᾇ¶ᾈ¶ᾉ¶ᾊ¶ᾋ¶ᾌ"),
   (0x1F8D, "ᾍ¶ᾎ¶ᾏ¶ᾐ¶ᾑ¶ᾒ¶ᾓ¶ᾔ¶ᾕ¶ᾖ¶ᾗ¶ᾘ¶ᾙ¶ᾚ¶ᾛ¶ᾜ¶ᾝ"),
   (0x1F9E, "ᾞ¶ᾟ¶ᾠ¶ᾡ¶ᾢ¶ᾣ¶ᾤ¶ᾥ¶ᾦ¶ᾧ¶ᾨ¶ᾩ¶ᾪ¶ᾫ¶ᾬ¶ᾭ¶ᾮ"),
   (0x1FAF, "ᾯ¶ᾰ¶ᾱ¶ᾲ¶ᾳ¶ᾴ¶¶ᾶ¶ᾷ¶Ᾰ¶Ᾱ¶Ὰ¶Ά¶ᾼ¶ ̓¶ι¶ ̓¶ ͂¶ ̈͂¶ῂ¶ῃ¶ῄ¶¶ῆ¶ῇ¶Ὲ"),
   (0x1FC9, "Έ¶Ὴ¶Ή¶ῌ¶ ̓̀¶ ̓́¶ ̓͂¶ῐ¶ῑ¶ῒ¶ΐ¶¶¶ῖ¶ῗ¶Ῐ¶Ῑ¶Ὶ¶Ί¶¶ ̔̀¶ ̔́¶ ̔͂¶ῠ¶ῡ¶ῢ"),
   (0x1FE3, "ΰ¶ῤ¶ῥ¶ῦ¶ῧ¶Ῠ¶Ῡ¶Ὺ¶Ύ¶Ῥ¶ ̈̀¶ ̈́¶`¶¶¶ῲ¶ῳ¶ῴ¶¶ῶ¶ῷ¶Ὸ¶Ό¶Ὼ¶Ώ¶ῼ¶ ́"),
   (0x1FFE, " ̔¶¶ ¶ ¶ ¶ ¶ ¶ ¶ ¶ ¶ ¶ ¶ "), (0x2011, "‐"), (0x2017, " ̳"), (0x2024, ".¶..¶..."),
   (0x202F, " "), (0x2033, "′′¶′′′¶¶‵‵¶‵‵‵"), (0x203C, "!!¶¶ ̅"), (0x2047, "??¶?!¶!?"),
   (0x2057, "′′′′"), (0x205F, " "),
   (0x2070, "0¶i¶¶¶4¶5¶6¶7¶8¶9¶+¶−¶=¶(¶)¶n¶0¶1¶2¶3¶4¶5¶6¶7¶8¶9¶+¶−¶=¶(¶)"), (0x20A8, "Rs"),
   (0x2100, "a/c¶a/s¶C¶°C¶¶c/o¶c/u¶Ɛ¶¶°F¶g¶H¶H¶H¶h¶ħ¶I¶I¶L¶l¶¶N¶No¶¶¶P¶Q¶R¶R¶R¶¶¶SM¶TEL¶TM¶¶Z"),
   (0x2126, "Ω¶¶Z¶¶K¶Å¶B¶C¶¶e¶E¶F¶¶M¶o¶א¶ב¶ג¶ד¶i"), (0x213D, "γ¶Γ¶Π¶∑"), (0x2145, "D¶d¶e¶i¶j"),
   (0x2153, "1⁄3¶2⁄3¶1⁄5¶2⁄5¶3⁄5¶4⁄5¶1⁄6¶5⁄6¶1⁄8¶3⁄8¶5⁄8¶7⁄8¶1⁄¶I¶II¶III¶IV¶V¶VI¶VII¶VIII¶IX¶X"),
   (0x216A, "XI¶XII¶L¶C¶D¶M¶i¶ii¶iii¶iv¶v¶vi¶vii¶viii¶ix¶x¶xi¶xii¶l¶c¶d¶m"), (0x219A, "↚¶↛"),
   (0x21AE, "↮"), (0x21CD, "⇍¶⇎¶⇏"), (0x2204, "∄"), (0x2209, "∉¶¶¶∌"), (0x2224, "∤¶¶∦"),
   (0x222C, "∫∫¶∫∫∫¶¶∮∮¶∮∮∮"), (0x2241, "≁¶¶¶≄¶¶¶≇¶¶≉"), (0x2260, "≠¶¶≢"),
   (0x226D, "≭¶≮¶≯¶≰¶≱¶¶¶≴¶≵¶¶¶≸¶≹"), (0x2280, "⊀¶⊁¶¶¶⊄¶⊅¶¶¶⊈¶⊉"),
   (0x22AC, "⊬¶⊭¶⊮¶⊯"), (0x22E0, "⋠¶⋡¶⋢¶⋣"), (0x22EA, "⋪¶⋫¶⋬¶⋭"), (0x2329, "〈¶〉"),
   (0x2460, "1¶2¶3¶4¶5¶6¶7¶8¶9¶10¶11¶12¶13¶14¶15¶16¶17¶18¶19¶20¶(1)¶(2)¶(3)¶(4)¶(5)¶(6)¶(7)¶(8)"),
   (0x247C, "(9)¶(10)¶(11)¶(12)¶(13)¶(14)¶(15)¶(16)¶(17)¶(18)¶(19)¶(20)¶1.¶2.¶3.¶4.¶5.¶6.¶7.¶8."),
   (0x2490, "9.¶10.¶11.¶12.¶13.¶14.¶15.¶16.¶17.¶18.¶19.¶20.¶(a)¶(b)¶(c)¶(d)¶(e)¶(f)¶(g)¶(h)¶(i)"),
   (0x24A5, "(j)¶(k)¶(l)¶(m)¶(n)¶(o)¶(p)¶(q)¶(r)¶(s)¶(t)¶(u)¶(v)¶(w)¶(x)¶(y)¶(z)¶A¶B¶C¶D¶E¶F¶G"),
   (0x24BD, "H¶I¶J¶K¶L¶M¶N¶O¶P¶Q¶R¶S¶T¶U¶V¶W¶X¶Y¶Z¶a¶b¶c¶d¶e¶f¶g¶h¶i¶j¶k¶l¶m¶n¶o¶p¶q¶r¶s¶t¶u¶v"),
   (0x24E6, "w¶x¶y¶z¶0"), (0x2A0C, "∫∫∫∫"), (0x2A74, "::=¶==¶==="), (0x2ADC, "⫝̸"), (0x2E9F, "母"),
   (0x2EF3, "龟"),
   (0x2F00, "一¶丨¶丶¶丿¶乙¶亅¶二¶亠¶人¶儿¶入¶八¶冂¶冖¶冫¶几¶凵¶刀¶力¶勹¶匕¶匚¶匸¶十¶卜¶卩¶厂¶厶¶又¶口¶囗¶土¶士¶夂¶夊¶夕¶大¶女¶子¶宀¶寸"),
   (0x2F29, "小¶尢¶尸¶屮¶山¶巛¶工¶己¶巾¶干¶幺¶广¶廴¶廾¶弋¶弓¶彐¶彡¶彳¶心¶戈¶戶¶手¶支¶攴¶文¶斗¶斤¶方¶无¶日¶曰¶月¶木¶欠¶止¶歹¶殳¶毋¶比¶毛"),
   (0x2F52, "氏¶气¶水¶火¶爪¶父¶爻¶爿¶片¶牙¶牛¶犬¶玄¶玉¶瓜¶瓦¶甘¶生¶用¶田¶疋¶疒¶癶¶白¶皮¶皿¶目¶矛¶矢¶石¶示¶禸¶禾¶穴¶立¶竹¶米¶糸¶缶¶网¶羊"),
   (0x2F7B, "羽¶老¶而¶耒¶耳¶聿¶肉¶臣¶自¶至¶臼¶舌¶舛¶舟¶艮¶色¶艸¶虍¶虫¶血¶行¶衣¶襾¶見¶角¶言¶谷¶豆¶豕¶豸¶貝¶赤¶走¶足¶身¶車¶辛¶辰¶辵¶邑¶酉"),
   (0x2FA4, "釆¶里¶金¶長¶門¶阜¶隶¶隹¶雨¶靑¶非¶面¶革¶韋¶韭¶音¶頁¶風¶飛¶食¶首¶香¶馬¶骨¶高¶髟¶鬥¶鬯¶鬲¶鬼¶魚¶鳥¶鹵¶鹿¶麥¶麻¶黃¶黍¶黑¶黹¶黽"),
   (0x2FCD, "鼎¶鼓¶鼠¶鼻¶齊¶齒¶龍¶龜¶龠"), (0x3000, " "), (0x3036, "〒¶¶十¶卄¶卅"),
   (0x304C, "が¶¶ぎ¶¶ぐ¶¶げ¶¶ご¶¶ざ¶¶じ¶¶ず¶¶ぜ¶¶ぞ¶¶だ¶¶ぢ¶¶¶づ¶¶で¶¶ど"),
   (0x3070, "ば¶ぱ¶¶び¶ぴ¶¶ぶ¶ぷ¶¶べ¶ぺ¶¶ぼ¶ぽ"), (0x3094, "ゔ"), (0x309B, " ゙¶ ゚¶¶ゞ¶より"),
   (0x30AC, "ガ¶¶ギ¶¶グ¶¶ゲ¶¶ゴ¶¶ザ¶¶ジ¶¶ズ¶¶ゼ¶¶ゾ¶¶ダ¶¶ヂ¶¶¶ヅ¶¶デ¶¶ド"),
   (0x30D0, "バ¶パ¶¶ビ¶ピ¶¶ブ¶プ¶¶ベ¶ペ¶¶ボ¶ポ"), (0x30F4, "ヴ¶¶¶ヷ¶ヸ¶ヹ¶ヺ"), (0x30FE, "ヾ¶コト"),
   (0x3131, "ᄀ¶ᄁ¶ᆪ¶ᄂ¶ᆬ¶ᆭ¶ᄃ¶ᄄ¶ᄅ¶ᆰ¶ᆱ¶ᆲ¶ᆳ¶ᆴ¶ᆵ¶ᄚ¶ᄆ¶ᄇ¶ᄈ¶ᄡ¶ᄉ¶ᄊ¶ᄋ¶ᄌ¶ᄍ¶ᄎ¶ᄏ¶ᄐ¶ᄑ¶ᄒ¶ᅡ¶ᅢ¶ᅣ¶ᅤ¶ᅥ¶ᅦ¶ᅧ¶ᅨ¶ᅩ¶ᅪ¶ᅫ"),
   (0x315A, "ᅬ¶ᅭ¶ᅮ¶ᅯ¶ᅰ¶ᅱ¶ᅲ¶ᅳ¶ᅴ¶ᅵ¶ᅠ¶ᄔ¶ᄕ¶ᇇ¶ᇈ¶ᇌ¶ᇎ¶ᇓ¶ᇗ¶ᇙ¶ᄜ¶ᇝ¶ᇟ¶ᄝ¶ᄞ¶ᄠ¶ᄢ¶ᄣ¶ᄧ¶ᄩ¶ᄫ¶ᄬ¶ᄭ¶ᄮ¶ᄯ¶ᄲ¶ᄶ¶ᅀ¶ᅇ¶ᅌ¶ᇱ"),
   (0x3183, "ᇲ¶ᅗ¶ᅘ¶ᅙ¶ᆄ¶ᆅ¶ᆈ¶ᆑ¶ᆒ¶ᆔ¶ᆞ¶ᆡ"), (0x3192, "一¶二¶三¶四¶上¶中¶下¶甲¶乙¶丙¶丁¶天¶地¶人"),
   (0x3200, "(ᄀ)¶(ᄂ)¶(ᄃ)¶(ᄅ)¶(ᄆ)¶(ᄇ)¶(ᄉ)¶(ᄋ)¶(ᄌ)¶(ᄎ)¶(ᄏ)¶(ᄐ)¶(ᄑ)¶(ᄒ)¶(가)¶(나)¶(다)¶(라)¶(마)"),
   (0x3213, "(바)¶(사)¶(아)¶(자)¶(차)¶(카)¶(타)¶(파)¶(하)¶(주)"),
   (0x3220, "(一)¶(二)¶(三)¶(四)¶(五)¶(六)¶(七)¶(八)¶(九)¶(十)¶(月)¶(火)¶(水)¶(木)¶(金)¶(土)¶(日)¶(株)¶(有)¶(社)"),
   (0x3234, "(名)¶(特)¶(財)¶(祝)¶(労)¶(代)¶(呼)¶(学)¶(監)¶(企)¶(資)¶(協)¶(祭)¶(休)¶(自)¶(至)"),
   (0x3251, "21¶22¶23¶24¶25¶26¶27¶28¶29¶30¶31¶32¶33¶34¶35¶ᄀ¶ᄂ¶ᄃ¶ᄅ¶ᄆ¶ᄇ¶ᄉ¶ᄋ¶ᄌ¶ᄎ¶ᄏ¶ᄐ¶ᄑ¶ᄒ¶가¶나¶다"),
   (0x3271, "라¶마¶바¶사¶아¶자¶차¶카¶타¶파¶하"),
   (0x3280, "一¶二¶三¶四¶五¶六¶七¶八¶九¶十¶月¶火¶水¶木¶金¶土¶日¶株¶有¶社¶名¶特¶財¶祝¶労¶秘¶男¶女¶適¶優¶印¶注¶項¶休¶写¶正¶上¶中¶下¶左¶右"),
   (0x32A9, "医¶宗¶学¶監¶企¶資¶協¶夜¶36¶37¶38¶39¶40¶41¶42¶43¶44¶45¶46¶47¶48¶49¶50¶1月¶2月¶3月¶4月¶5月¶6月¶7月"),
   (0x32C7, "8月¶9月¶10月¶11月¶12月"),
   (0x32D0, "ア¶イ¶ウ¶エ¶オ¶カ¶キ¶ク¶ケ¶コ¶サ¶シ¶ス¶セ¶ソ¶タ¶チ¶ツ¶テ¶ト¶ナ¶ニ¶ヌ¶ネ¶ノ¶ハ¶ヒ¶フ¶ヘ¶ホ¶マ¶ミ¶ム¶メ¶モ¶ヤ¶ユ¶ヨ¶ラ¶リ¶ル"),
   (0x32F9, "レ¶ロ¶ワ¶ヰ¶ヱ¶ヲ¶¶アパート¶アルファ¶アンペア¶アール¶イニング¶インチ¶ウォン¶エスクード¶エーカー¶オンス¶オーム¶カイリ¶カラット¶カロリー"),
   (0x330E, "ガロン¶ガンマ¶ギガ¶ギニー¶キュリー¶ギルダー¶キロ¶キログラム¶キロメートル¶キロワット¶グラム¶グラムトン¶クルゼイロ¶クローネ¶ケース"),
   (0x331D, "コルナ¶コーポ¶サイクル¶サンチーム¶シリング¶センチ¶セント¶ダース¶デシ¶ドル¶トン¶ナノ¶ノット¶ハイツ¶パーセント¶パーツ¶バーレル"),
   (0x332E, "ピアストル¶ピクル¶ピコ¶ビル¶ファラッド¶フィート¶ブッシェル¶フラン¶ヘクタール¶ペソ¶ペニヒ¶ヘルツ¶ペンス¶ページ¶ベータ"),
   (0x333D, "ポイント¶ボルト¶ホン¶ポンド¶ホール¶ホーン¶マイクロ¶マイル¶マッハ¶マルク¶マンション¶ミクロン¶ミリ¶ミリバール¶メガ¶メガトン¶メートル"),
   (0x334E, "ヤード¶ヤール¶ユアン¶リットル¶リラ¶ルピー¶ルーブル¶レム¶レントゲン¶ワット¶0点¶1点¶2点¶3点¶4点¶5点¶6点¶7点¶8点¶9点¶10点"),
   (0x3363, "11点¶12点¶13点¶14点¶15点¶16点¶17点¶18点¶19点¶20点¶21点¶22点¶23点¶24点¶hPa¶da¶AU¶bar¶oV¶pc"),
   (0x337B, "平成¶昭和¶大正¶明治¶株式会社¶pA¶nA¶μA¶mA¶kA¶KB¶MB¶GB¶cal¶kcal¶pF¶nF¶μF¶μg¶mg¶kg¶Hz¶kHz¶MHz¶GHz"),
   (0x3394, "THz¶μl¶ml¶dl¶kl¶fm¶nm¶μm¶mm¶cm¶km¶mm2¶cm2¶m2¶km2¶mm3¶cm3¶m3¶km3¶m∕s¶m∕s2¶Pa¶kPa"),
   (0x33AB, "MPa¶GPa¶rad¶rad∕s¶rad∕s2¶ps¶ns¶μs¶ms¶pV¶nV¶μV¶mV¶kV¶MV¶pW¶nW¶μW¶mW¶kW¶MW¶kΩ¶MΩ"),
   (0x33C2, "a.m.¶Bq¶cc¶cd¶C∕kg¶Co.¶dB¶Gy¶ha¶HP¶in¶KK¶KM¶kt¶lm¶ln¶log¶lx¶mb¶mil¶mol¶PH¶p.m.¶PPM"),
   (0x33DA, "PR¶sr¶Sv¶Wb¶¶¶1日¶2日¶3日¶4日¶5日¶6日¶7日¶8日¶9日¶10日¶11日¶12日¶13日¶14日¶15日¶16日¶17日¶18日¶19日"),
   (0x33F3, "20日¶21日¶22日¶23日¶24日¶25日¶26日¶27日¶28日¶29日¶30日¶31日"),
   (0xF900, "豈¶更¶車¶賈¶滑¶串¶句¶龜¶龜¶契¶金¶喇¶奈¶懶¶癩¶羅¶蘿¶螺¶裸¶邏¶樂¶洛¶烙¶珞¶落¶酪¶駱¶亂¶卵¶欄¶爛¶蘭¶鸞¶嵐¶濫¶藍¶襤¶拉¶臘¶蠟¶廊"),
   (0xF929, "朗¶浪¶狼¶郎¶來¶冷¶勞¶擄¶櫓¶爐¶盧¶老¶蘆¶虜¶路¶露¶魯¶鷺¶碌¶祿¶綠¶菉¶錄¶鹿¶論¶壟¶弄¶籠¶聾¶牢¶磊¶賂¶雷¶壘¶屢¶樓¶淚¶漏¶累¶縷¶陋"),
   (0xF952, "勒¶肋¶凜¶凌¶稜¶綾¶菱¶陵¶讀¶拏¶樂¶諾¶丹¶寧¶怒¶率¶異¶北¶磻¶便¶復¶不¶泌¶數¶索¶參¶塞¶省¶葉¶說¶殺¶辰¶沈¶拾¶若¶掠¶略¶亮¶兩¶凉¶梁"),
   (0xF97B, "糧¶良¶諒¶量¶勵¶呂¶女¶廬¶旅¶濾¶礪¶閭¶驪¶麗¶黎¶力¶曆¶歷¶轢¶年¶憐¶戀¶撚¶漣¶煉¶璉¶秊¶練¶聯¶輦¶蓮¶連¶鍊¶列¶劣¶咽¶烈¶裂¶說¶廉¶念"),
   (0xF9A4, "捻¶殮¶簾¶獵¶令¶囹¶寧¶嶺¶怜¶玲¶瑩¶羚¶聆¶鈴¶零¶靈¶領¶例¶禮¶醴¶隸¶惡¶了¶僚¶寮¶尿¶料¶樂¶燎¶療¶蓼¶遼¶龍¶暈¶阮¶劉¶杻¶柳¶流¶溜¶琉"),
   (0xF9CD, "留¶硫¶紐¶類¶六¶戮¶陸¶倫¶崙¶淪¶輪¶律¶慄¶栗¶率¶隆¶利¶吏¶履¶易¶李¶梨¶泥¶理¶痢¶罹¶裏¶裡¶里¶離¶匿¶溺¶吝¶燐¶璘¶藺¶隣¶鱗¶麟¶林¶淋"),
   (0xF9F6, "臨¶立¶笠¶粒¶狀¶炙¶識¶什¶茶¶刺¶切¶度¶拓¶糖¶宅¶洞¶暴¶輻¶行¶降¶見¶廓¶兀¶嗀¶¶¶塚¶¶晴¶¶¶凞¶猪¶益¶礼¶神¶祥¶福¶靖¶精¶羽¶¶蘒¶¶諸"),
   (0xFA25, "逸¶都"),
   (0xFA2A, "飯¶飼¶館¶鶴¶¶¶侮¶僧¶免¶勉¶勤¶卑¶喝¶嘆¶器¶塀¶墨¶層¶屮¶悔¶慨¶憎¶懲¶敏¶既¶暑¶梅¶海¶渚¶漢¶煮¶爫¶琢¶碑¶社¶祉¶祈¶祐¶祖¶祝¶禍¶禎"),
   (0xFA54, "穀¶突¶節¶練¶縉¶繁¶署¶者¶臭¶艹¶艹¶著¶褐¶視¶謁¶謹¶賓¶贈¶辶¶逸¶難¶響¶頻"), (0xFB00, "ff¶fi¶fl¶ffi¶ffl¶st¶st"),
   (0xFB13, "մն¶մե¶մի¶վն¶մխ"),
   (0xFB1D, "יִ¶¶ײַ¶ע¶א¶ד¶ה¶כ¶ל¶ם¶ר¶ת¶+¶שׁ¶שׂ¶שּׁ¶שּׂ¶אַ¶אָ¶אּ¶בּ¶גּ¶דּ¶הּ¶וּ¶זּ¶¶טּ¶יּ¶ךּ¶כּ"),
   (0xFB3C, "לּ¶¶מּ¶¶נּ¶סּ¶¶ףּ¶פּ¶¶צּ¶קּ¶רּ¶שּ¶תּ¶וֹ¶בֿ¶כֿ¶פֿ¶אל¶ٱ¶ٱ¶ٻ¶ٻ¶ٻ¶ٻ¶پ¶پ¶پ¶پ¶ڀ¶ڀ¶ڀ¶ڀ¶ٺ"),
   (0xFB5F, "ٺ¶ٺ¶ٺ¶ٿ¶ٿ¶ٿ¶ٿ¶ٹ¶ٹ¶ٹ¶ٹ¶ڤ¶ڤ¶ڤ¶ڤ¶ڦ¶ڦ¶ڦ¶ڦ¶ڄ¶ڄ¶ڄ¶ڄ¶ڃ¶ڃ¶ڃ¶ڃ¶چ¶چ¶چ¶چ¶ڇ¶ڇ¶ڇ¶ڇ¶ڍ¶ڍ¶ڌ¶ڌ¶ڎ¶ڎ"),
   (0xFB88, "ڈ¶ڈ¶ژ¶ژ¶ڑ¶ڑ¶ک¶ک¶ک¶ک¶گ¶گ¶گ¶گ¶ڳ¶ڳ¶ڳ¶ڳ¶ڱ¶ڱ¶ڱ¶ڱ¶ں¶ں¶ڻ¶ڻ¶ڻ¶ڻ¶ۀ¶ۀ¶ہ¶ہ¶ہ¶ہ¶ھ¶ھ¶ھ¶ھ¶ے¶ے"),
   (0xFBB0, "ۓ¶ۓ"),
   (0xFBD3, "ڭ¶ڭ¶ڭ¶ڭ¶ۇ¶ۇ¶ۆ¶ۆ¶ۈ¶ۈ¶ۇٴ¶ۋ¶ۋ¶ۅ¶ۅ¶ۉ¶ۉ¶ې¶ې¶ې¶ې¶ى¶ى¶ئا¶ئا¶ئە¶ئە¶ئو¶ئو¶ئۇ¶ئۇ¶ئۆ"),
   (0xFBF3, "ئۆ¶ئۈ¶ئۈ¶ئې¶ئې¶ئې¶ئى¶ئى¶ئى¶ی¶ی¶ی¶ی¶ئج¶ئح¶ئم¶ئى¶ئي¶بج¶بح¶بخ¶بم¶بى¶بي"),
   (0xFC0B, "تج¶تح¶تخ¶تم¶تى¶تي¶ثج¶ثم¶ثى¶ثي¶جح¶جم¶حج¶حم¶خج¶خح¶خم¶سج¶سح¶سخ¶سم¶صح¶صم¶ضج¶ضح¶ضخ¶ضم"),
   (0xFC26, "طح¶طم¶ظم¶عج¶عم¶غج¶غم¶فج¶فح¶فخ¶فم¶فى¶في¶قح¶قم¶قى¶قي¶كا¶كج¶كح¶كخ¶كل¶كم¶كى¶كي¶لج¶لح"),
   (0xFC41, "لخ¶لم¶لى¶لي¶مج¶مح¶مخ¶مم¶مى¶مي¶نج¶نح¶نخ¶نم¶نى¶ني¶هج¶هم¶هى¶هي¶يج¶يح¶يخ¶يم¶يى¶يي¶ذٰ"),
   (0xFC5C, "رٰ¶ىٰ¶ ٌّ¶ ٍّ¶ َّ¶ ُّ¶ ِّ¶ ّٰ¶ئر¶ئز¶ئم¶ئن¶ئى¶ئي¶بر¶بز¶بم¶بن¶بى¶بي¶تر¶تز¶تم"),
   (0xFC73, "تن¶تى¶تي¶ثر¶ثز¶ثم¶ثن¶ثى¶ثي¶فى¶في¶قى¶قي¶كا¶كل¶كم¶كى¶كي¶لم¶لى¶لي¶ما¶مم¶نر¶نز¶نم¶نن"),
   (0xFC8E, "نى¶ني¶ىٰ¶ير¶يز¶يم¶ين¶يى¶يي¶ئج¶ئح¶ئخ¶ئم¶ئه¶بج¶بح¶بخ¶بم¶به¶تج¶تح¶تخ¶تم¶ته¶ثم¶جح"),
   (0xFCA8, "جم¶حج¶حم¶خج¶خم¶سج¶سح¶سخ¶سم¶صح¶صخ¶صم¶ضج¶ضح¶ضخ¶ضم¶طح¶ظم¶عج¶عم¶غج¶غم¶فج¶فح¶فخ¶فم¶قح"),
   (0xFCC3, "قم¶كج¶كح¶كخ¶كل¶كم¶لج¶لح¶لخ¶لم¶له¶مج¶مح¶مخ¶مم¶نج¶نح¶نخ¶نم¶نه¶هج¶هم¶هٰ¶يج¶يح¶يخ¶يم"),
   (0xFCDE, "يه¶ئم¶ئه¶بم¶به¶تم¶ته¶ثم¶ثه¶سم¶سه¶شم¶شه¶كل¶كم¶لم¶نم¶نه¶يم¶يه¶ـَّ¶ـُّ¶ـِّ¶طى¶طي¶عى"),
   (0xFCF8, "عي¶غى¶غي¶سى¶سي¶شى¶شي¶حى¶حي¶جى¶جي¶خى¶خي¶صى¶صي¶ضى¶ضي¶شج¶شح¶شخ¶شم¶شر¶سر¶صر¶ضر¶طى¶طي"),
   (0xFD13, "عى¶عي¶غى¶غي¶سى¶سي¶شى¶شي¶حى¶حي¶جى¶جي¶خى¶خي¶صى¶صي¶ضى¶ضي¶شج¶شح¶شخ¶شم¶شر¶سر¶صر¶ضر¶شج"),
   (0xFD2E, "شح¶شخ¶شم¶سه¶شه¶طم¶سج¶سح¶سخ¶شج¶شح¶شخ¶طم¶ظم¶اً¶اً"),
   (0xFD50, "تجم¶تحج¶تحج¶تحم¶تخم¶تمج¶تمح¶تمخ¶جمح¶جمح¶حمي¶حمى¶سحج¶سجح¶سجى¶سمح¶سمح¶سمج¶سمم¶سمم"),
   (0xFD64, "صحح¶صحح¶صمم¶شحم¶شحم¶شجي¶شمخ¶شمخ¶شمم¶شمم¶ضحى¶ضخم¶ضخم¶طمح¶طمح¶طمم¶طمي¶عجم¶عمم¶عمم"),
   (0xFD78, "عمى¶غمم¶غمي¶غمى¶فخم¶فخم¶قمح¶قمم¶لحم¶لحي¶لحى¶لجج¶لجج¶لخم¶لخم¶لمح¶لمح¶محج¶محم¶محي"),
   (0xFD8C, "مجح¶مجم¶مخج¶مخم¶¶¶مجخ¶همج¶همم¶نحم¶نحى¶نجم¶نجم¶نجى¶نمي¶نمى¶يمم¶يمم¶بخي¶تجي¶تجى¶تخي"),
   (0xFDA2, "تخى¶تمي¶تمى¶جمي¶جحى¶جمى¶سخى¶صحي¶شحي¶ضحي¶لجي¶لمي¶يحي¶يجي¶يمي¶ممي¶قمي¶نحي¶قمح¶لحم"),
   (0xFDB6, "عمي¶كمي¶نجح¶مخي¶لجم¶كمم¶لجم¶نجح¶جحي¶حجي¶مجي¶فمي¶بحي¶كمم¶عجم¶صمم¶سخي¶نجي"),
   (0xFDF0, "صلے¶قلے¶الله¶اكبر¶محمد¶صلعم¶رسول¶عليه¶وسلم¶صلى¶صلى الله عليه وسلم¶جل جلاله¶ریال"),
   (0xFE30, "..¶—¶–¶_¶_¶(¶)¶\x7b¶\x7d¶〔¶〕¶【¶】¶《¶》¶〈¶〉¶「¶」¶『¶』"),
   (0xFE49, " ̅¶ ̅¶ ̅¶ ̅¶_¶_¶_¶,¶、¶.¶¶;¶:¶?¶!¶—¶(¶)¶\x7b¶\x7d¶〔¶〕¶#¶&¶*¶+¶-¶<¶>¶=¶¶\\¶$¶%¶@"),
   (0xFE70, " ً¶ـً¶ ٌ¶¶ ٍ¶¶ َ¶ـَ¶ ُ¶ـُ¶ ِ¶ـِ¶ ّ¶ـّ¶ ْ¶ـْ¶ء¶آ¶آ¶أ¶أ¶ؤ¶ؤ¶إ¶إ¶ئ¶ئ¶ئ¶ئ"),
   (0xFE8D, "ا¶ا¶ب¶ب¶ب¶ب¶ة¶ة¶ت¶ت¶ت¶ت¶ث¶ث¶ث¶ث¶ج¶ج¶ج¶ج¶ح¶ح¶ح¶ح¶خ¶خ¶خ¶خ¶د¶د¶ذ¶ذ¶ر¶ر¶ز¶ز¶س¶س¶س¶س¶ش"),
   (0xFEB6, "ش¶ش¶ش¶ص¶ص¶ص¶ص¶ض¶ض¶ض¶ض¶ط¶ط¶ط¶ط¶ظ¶ظ¶ظ¶ظ¶ع¶ع¶ع¶ع¶غ¶غ¶غ¶غ¶ف¶ف¶ف¶ف¶ق¶ق¶ق¶ق¶ك¶ك¶ك¶ك¶ل¶ل"),
   (0xFEDF, "ل¶ل¶م¶م¶م¶م¶ن¶ن¶ن¶ن¶ه¶ه¶ه¶ه¶و¶و¶ى¶ى¶ي¶ي¶ي¶ي¶لآ¶لآ¶لأ¶لأ¶لإ¶لإ¶لا¶لا"),
   (0xFF01, "!¶\"¶#¶$¶%¶&¶'¶(¶)¶*¶+¶,¶-¶.¶/¶0¶1¶2¶3¶4¶5¶6¶7¶8¶9¶:¶;¶<¶=¶>¶?¶@¶A¶B¶C¶D¶E¶F¶G¶H¶I"),
   (0xFF2A, "J¶K¶L¶M¶N¶O¶P¶Q¶R¶S¶T¶U¶V¶W¶X¶Y¶Z¶[¶\\¶]¶^¶_¶`¶a¶b¶c¶d¶e¶f¶g¶h¶i¶j¶k¶l¶m¶n¶o¶p¶q¶r"),
   (0xFF53, "s¶t¶u¶v¶w¶x¶y¶z¶\x7b¶|¶\x7d¶~¶⦅¶⦆¶。¶「¶」¶、¶・¶ヲ¶ァ¶ィ¶ゥ¶ェ¶ォ¶ャ¶ュ¶ョ¶ッ¶ー¶ア¶イ¶ウ¶エ¶オ¶カ¶キ¶ク"),
   (0xFF79, "ケ¶コ¶サ¶シ¶ス¶セ¶ソ¶タ¶チ¶ツ¶テ¶ト¶ナ¶ニ¶ヌ¶ネ¶ノ¶ハ¶ヒ¶フ¶ヘ¶ホ¶マ¶ミ¶ム¶メ¶モ¶ヤ¶ユ¶ヨ¶ラ¶リ¶ル¶レ¶ロ¶ワ¶ン¶゙¶゚¶ᅠ¶ᄀ"),
   (0xFFA2, "ᄁ¶ᆪ¶ᄂ¶ᆬ¶ᆭ¶ᄃ¶ᄄ¶ᄅ¶ᆰ¶ᆱ¶ᆲ¶ᆳ¶ᆴ¶ᆵ¶ᄚ¶ᄆ¶ᄇ¶ᄈ¶ᄡ¶ᄉ¶ᄊ¶ᄋ¶ᄌ¶ᄍ¶ᄎ¶ᄏ¶ᄐ¶ᄑ¶ᄒ"),
   (0xFFC2, "ᅡ¶ᅢ¶ᅣ¶ᅤ¶ᅥ¶ᅦ¶¶¶ᅧ¶ᅨ¶ᅩ¶ᅪ¶ᅫ¶ᅬ¶¶¶ᅭ¶ᅮ¶ᅯ¶ᅰ¶ᅱ¶ᅲ¶¶¶ᅳ¶ᅴ¶ᅵ"),
   (0xFFE0, "¢¶£¶¬¶ ̄¶¦¶¥¶₩¶¶│¶←¶↑¶→¶↓¶■¶○"), (0x1D15E, "𝅗𝅥¶𝅘𝅥¶𝅘𝅥𝅮¶𝅘𝅥𝅯¶𝅘𝅥𝅰¶𝅘𝅥𝅱¶𝅘𝅥𝅲"),
   (0x1D1BB, "𝆹𝅥¶𝆺𝅥¶𝆹𝅥𝅮¶𝆺𝅥𝅮¶𝆹𝅥𝅯¶𝆺𝅥𝅯"),
   (0x1D400, "A¶B¶C¶D¶E¶F¶G¶H¶I¶J¶K¶L¶M¶N¶O¶P¶Q¶R¶S¶T¶U¶V¶W¶X¶Y¶Z¶a¶b¶c¶d¶e¶f¶g¶h¶i¶j¶k¶l¶m¶n¶o"),
   (0x1D429, "p¶q¶r¶s¶t¶u¶v¶w¶x¶y¶z¶A¶B¶C¶D¶E¶F¶G¶H¶I¶J¶K¶L¶M¶N¶O¶P¶Q¶R¶S¶T¶U¶V¶W¶X¶Y¶Z¶a¶b¶c¶d"),
   (0x1D452, "e¶f¶g¶¶i¶j¶k¶l¶m¶n¶o¶p¶q¶r¶s¶t¶u¶v¶w¶x¶y¶z¶A¶B¶C¶D¶E¶F¶G¶H¶I¶J¶K¶L¶M¶N¶O¶P¶Q¶R¶S¶T"),
   (0x1D47C, "U¶V¶W¶X¶Y¶Z¶a¶b¶c¶d¶e¶f¶g¶h¶i¶j¶k¶l¶m¶n¶o¶p¶q¶r¶s¶t¶u¶v¶w¶x¶y¶z¶A¶¶C¶D¶¶¶G¶¶¶J¶K"),
   (0x1D4A9, "N¶O¶P¶Q¶¶S¶T¶U¶V¶W¶X¶Y¶Z¶a¶b¶c¶d¶¶f¶¶h¶i¶j¶k¶¶m¶n¶¶p¶q¶r¶s¶t¶u¶v¶w¶x¶y¶z¶A¶B¶C¶D¶E"),
   (0x1D4D5, "F¶G¶H¶I¶J¶K¶L¶M¶N¶O¶P¶Q¶R¶S¶T¶U¶V¶W¶X¶Y¶Z¶a¶b¶c¶d¶e¶f¶g¶h¶i¶j¶k¶l¶m¶n¶o¶p¶q¶r¶s¶t"),
   (0x1D4FE, "u¶v¶w¶x¶y¶z¶A¶B¶¶D¶E¶F¶G¶¶¶J¶K¶L¶M¶N¶O¶P¶Q¶¶S¶T¶U¶V¶W¶X¶Y¶¶a¶b¶c¶d¶e¶f¶g¶h¶i¶j¶k¶l"),
   (0x1D52A, "m¶n¶o¶p¶q¶r¶s¶t¶u¶v¶w¶x¶y¶z¶A¶B¶¶D¶E¶F¶G¶¶I¶J¶K¶L¶M¶¶O"),
   (0x1D54A, "S¶T¶U¶V¶W¶X¶Y¶¶a¶b¶c¶d¶e¶f¶g¶h¶i¶j¶k¶l¶m¶n¶o¶p¶q¶r¶s¶t¶u¶v¶w¶x¶y¶z¶A¶B¶C¶D¶E¶F¶G¶H"),
   (0x1D574, "I¶J¶K¶L¶M¶N¶O¶P¶Q¶R¶S¶T¶U¶V¶W¶X¶Y¶Z¶a¶b¶c¶d¶e¶f¶g¶h¶i¶j¶k¶l¶m¶n¶o¶p¶q¶r¶s¶t¶u¶v¶w"),
   (0x1D59D, "x¶y¶z¶A¶B¶C¶D¶E¶F¶G¶H¶I¶J¶K¶L¶M¶N¶O¶P¶Q¶R¶S¶T¶U¶V¶W¶X¶Y¶Z¶a¶b¶c¶d¶e¶f¶g¶h¶i¶j¶k¶l"),
   (0x1D5C6, "m¶n¶o¶p¶q¶r¶s¶t¶u¶v¶w¶x¶y¶z¶A¶B¶C¶D¶E¶F¶G¶H¶I¶J¶K¶L¶M¶N¶O¶P¶Q¶R¶S¶T¶U¶V¶W¶X¶Y¶Z¶a"),
   (0x1D5EF, "b¶c¶d¶e¶f¶g¶h¶i¶j¶k¶l¶m¶n¶o¶p¶q¶r¶s¶t¶u¶v¶w¶x¶y¶z¶A¶B¶C¶D¶E¶F¶G¶H¶I¶J¶K¶L¶M¶N¶O¶P"),
   (0x1D618, "Q¶R¶S¶T¶U¶V¶W¶X¶Y¶Z¶a¶b¶c¶d¶e¶f¶g¶h¶i¶j¶k¶l¶m¶n¶o¶p¶q¶r¶s¶t¶u¶v¶w¶x¶y¶z¶A¶B¶C¶D¶E"),
   (0x1D641, "F¶G¶H¶I¶J¶K¶L¶M¶N¶O¶P¶Q¶R¶S¶T¶U¶V¶W¶X¶Y¶Z¶a¶b¶c¶d¶e¶f¶g¶h¶i¶j¶k¶l¶m¶n¶o¶p¶q¶r¶s¶t"),
   (0x1D66A, "u¶v¶w¶x¶y¶z¶A¶B¶C¶D¶E¶F¶G¶H¶I¶J¶K¶L¶M¶N¶O¶P¶Q¶R¶S¶T¶U¶V¶W¶X¶Y¶Z¶a¶b¶c¶d¶e¶f¶g¶h¶i"),
   (0x1D693, "j¶k¶l¶m¶n¶o¶p¶q¶r¶s¶t¶u¶v¶w¶x¶y¶z"),
   (0x1D6A8, "Α¶Β¶Γ¶Δ¶Ε¶Ζ¶Η¶Θ¶Ι¶Κ¶Λ¶Μ¶Ν¶Ξ¶Ο¶Π¶Ρ¶Θ¶Σ¶Τ¶Υ¶Φ¶Χ¶Ψ¶Ω¶∇¶α¶β¶γ¶δ¶ε¶ζ¶η¶θ¶ι¶κ¶λ¶μ¶ν¶ξ¶ο"),
   (0x1D6D1, "π¶ρ¶ς¶σ¶τ¶υ¶φ¶χ¶ψ¶ω¶∂¶ε¶θ¶κ¶φ¶ρ¶π¶Α¶Β¶Γ¶Δ¶Ε¶Ζ¶Η¶Θ¶Ι¶Κ¶Λ¶Μ¶Ν¶Ξ¶Ο¶Π¶Ρ¶Θ¶Σ¶Τ¶Υ¶Φ¶Χ¶Ψ"),
   (0x1D6FA, "Ω¶∇¶α¶β¶γ¶δ¶ε¶ζ¶η¶θ¶ι¶κ¶λ¶μ¶ν¶ξ¶ο¶π¶ρ¶ς¶σ¶τ¶υ¶φ¶χ¶ψ¶ω¶∂¶ε¶θ¶κ¶φ¶ρ¶π¶Α¶Β¶Γ¶Δ¶Ε¶Ζ¶Η"),
   (0x1D723, "Θ¶Ι¶Κ¶Λ¶Μ¶Ν¶Ξ¶Ο¶Π¶Ρ¶Θ¶Σ¶Τ¶Υ¶Φ¶Χ¶Ψ¶Ω¶∇¶α¶β¶γ¶δ¶ε¶ζ¶η¶θ¶ι¶κ¶λ¶μ¶ν¶ξ¶ο¶π¶ρ¶ς¶σ¶τ¶υ¶φ"),
   (0x1D74C, "χ¶ψ¶ω¶∂¶ε¶θ¶κ¶φ¶ρ¶π¶Α¶Β¶Γ¶Δ¶Ε¶Ζ¶Η¶Θ¶Ι¶Κ¶Λ¶Μ¶Ν¶Ξ¶Ο¶Π¶Ρ¶Θ¶Σ¶Τ¶Υ¶Φ¶Χ¶Ψ¶Ω¶∇¶α¶β¶γ¶δ¶ε"),
   (0x1D775, "ζ¶η¶θ¶ι¶κ¶λ¶μ¶ν¶ξ¶ο¶π¶ρ¶ς¶σ¶τ¶υ¶φ¶χ¶ψ¶ω¶∂¶ε¶θ¶κ¶φ¶ρ¶π¶Α¶Β¶Γ¶Δ¶Ε¶Ζ¶Η¶Θ¶Ι¶Κ¶Λ¶Μ¶Ν¶Ξ"),
   (0x1D79E, "Ο¶Π¶Ρ¶Θ¶Σ¶Τ¶Υ¶Φ¶Χ¶Ψ¶Ω¶∇¶α¶β¶γ¶δ¶ε¶ζ¶η¶θ¶ι¶κ¶λ¶μ¶ν¶ξ¶ο¶π¶ρ¶ς¶σ¶τ¶υ¶φ¶χ¶ψ¶ω¶∂¶ε¶θ¶κ"),
   (0x1D7C7, "φ¶ρ¶π"),
   (0x1D7CE, "0¶1¶2¶3¶4¶5¶6¶7¶8¶9¶0¶1¶2¶3¶4¶5¶6¶7¶8¶9¶0¶1¶2¶3¶4¶5¶6¶7¶8¶9¶0¶1¶2¶3¶4¶5¶6¶7¶8¶9¶0"),
   (0x1D7F7, "1¶2¶3¶4¶5¶6¶7¶8¶9"),
   (0x2F800, "丽¶丸¶乁¶𠄢¶你¶侮¶侻¶倂¶偺¶備¶僧¶像¶㒞¶𠘺¶免¶兔¶兤¶具¶𠔜¶㒹¶內¶再¶𠕋¶冗¶冤¶仌¶冬¶况¶𩇟¶凵¶刃¶㓟¶刻¶剆¶割¶剷¶㔕¶勇¶勉¶勤¶勺"),
   (0x2F829, "包¶匆¶北¶卉¶卑¶博¶即¶卽¶卿¶卿¶卿¶𠨬¶灰¶及¶叟¶𠭣¶叫¶叱¶吆¶咞¶吸¶呈¶周¶咢¶哶¶唐¶啓¶啣¶善¶善¶喙¶喫¶喳¶嗂¶圖¶嘆¶圗¶噑¶噴¶切¶壮"),
   (0x2F852, "城¶埴¶堍¶型¶堲¶報¶墬¶𡓤¶売¶壷¶夆¶多¶夢¶奢¶𡚨¶𡛪¶姬¶娛¶娧¶姘¶婦¶㛮¶𡍪¶嬈¶嬾¶嬾¶𡧈¶寃¶寘¶寧¶寳¶𡬘¶寿¶将¶弳¶尢¶㞁¶屠¶屮¶峀¶岍"),
   (0x2F87B, "𡷤¶嵃¶𡷦¶嵮¶嵫¶嵼¶巡¶巢¶㠯¶巽¶帨¶帽¶幩¶㡢¶𢆃¶㡼¶庰¶庳¶庶¶廊¶𪎒¶廾¶𢌱¶𢌱¶舁¶弢¶弢¶㣇¶𣊸¶𦇚¶形¶彫¶㣣¶徚¶忍¶志¶忹¶悁¶㤺¶㤜¶悔"),
   (0x2F8A4, "𢛔¶惇¶慈¶慌¶慎¶慌¶慺¶憎¶憲¶憤¶憯¶懞¶懲¶懶¶成¶戛¶扝¶抱¶拔¶捐¶𢬌¶挽¶拼¶捨¶掃¶揤¶𢯱¶搢¶揅¶掩¶㨮¶摩¶摾¶撝¶摷¶㩬¶敏¶敬¶𣀊¶旣¶書"),
   (0x2F8CD, "晉¶㬙¶暑¶㬈¶㫤¶冒¶冕¶最¶暜¶肭¶䏙¶朗¶望¶朡¶杞¶杓¶𣏃¶㭉¶柺¶枅¶桒¶梅¶𣑭¶梎¶栟¶椔¶㮝¶楂¶榣¶槪¶檨¶𣚣¶櫛¶㰘¶次¶𣢧¶歔¶㱎¶歲¶殟¶殺"),
   (0x2F8F6, "殻¶𣪍¶𡴋¶𣫺¶汎¶𣲼¶沿¶泍¶汧¶洖¶派¶海¶流¶浩¶浸¶涅¶𣴞¶洴¶港¶湮¶㴳¶滋¶滇¶𣻑¶淹¶潮¶𣽞¶𣾎¶濆¶瀹¶瀞¶瀛¶㶖¶灊¶災¶灷¶炭¶𠔥¶煅¶𤉣¶熜"),
   (0x2F91F, "䎫¶爨¶爵¶牐¶𤘈¶犀¶犕¶𤜵¶𤠔¶獺¶王¶㺬¶玥¶㺸¶㺸¶瑇¶瑜¶瑱¶璅¶瓊¶㼛¶甤¶𤰶¶甾¶𤲒¶異¶𢆟¶瘐¶𤾡¶𤾸¶𥁄¶㿼¶䀈¶直¶𥃳¶𥃲¶𥄙¶𥄳¶眞¶真¶真"),
   (0x2F948, "睊¶䀹¶瞋¶䁆¶䂖¶𥐝¶硎¶碌¶磌¶䃣¶𥘦¶祖¶𥚚¶𥛅¶福¶秫¶䄯¶穀¶穊¶穏¶𥥼¶𥪧¶𥪧¶窮¶䈂¶𥮫¶篆¶築¶䈧¶𥲀¶糒¶䊠¶糨¶糣¶紀¶𥾆¶絣¶䌁¶緇¶縂¶繅"),
   (0x2F971, "䌴¶𦈨¶𦉇¶䍙¶𦋙¶罺¶𦌾¶羕¶翺¶者¶𦓚¶𦔣¶聠¶𦖨¶聰¶𣍟¶䏕¶育¶脃¶䐋¶脾¶媵¶𦞧¶𦞵¶𣎓¶𣎜¶舁¶舄¶辞¶䑫¶芑¶芋¶芝¶劳¶花¶芳¶芽¶苦¶𦬼¶若¶茝"),
   (0x2F99A, "荣¶莭¶茣¶莽¶菧¶著¶荓¶菊¶菌¶菜¶𦰶¶𦵫¶𦳕¶䔫¶蓱¶蓳¶蔖¶𧏊¶蕤¶𦼬¶䕝¶䕡¶𦾱¶𧃒¶䕫¶虐¶虜¶虧¶虩¶蚩¶蚈¶蜎¶蛢¶蝹¶蜨¶蝫¶螆¶䵗¶蟡¶蠁¶䗹"),
   (0x2F9C3, "衠¶衣¶𧙧¶裗¶裞¶䘵¶裺¶㒻¶𧢮¶𧥦¶䚾¶䛇¶誠¶諭¶變¶豕¶𧲨¶貫¶賁¶贛¶起¶𧼯¶𠠄¶跋¶趼¶跰¶𠣞¶軔¶輸¶𨗒¶𨗭¶邔¶郱¶鄑¶𨜮¶鄛¶鈸¶鋗¶鋘¶鉼¶鏹"),
   (0x2F9EC, "鐕¶𨯺¶開¶䦕¶閷¶𨵷¶䧦¶雃¶嶲¶霣¶𩅅¶𩈚¶䩮¶䩶¶韠¶𩐊¶䪲¶𩒖¶頋¶頋¶頩¶𩖶¶飢¶䬳¶餩¶馧¶駂¶駾¶䯎¶𩬰¶鬒¶鱀¶鳽¶䳎¶䳭¶鵧¶𪃎¶䳸¶𪄅¶𪈎¶𪊑"),
   (0x2FA15, "麻¶䵖¶黹¶黾¶鼅¶鼏¶鼖¶鼻¶𪘀")]

end OAuthGrant.Text

import OAuthGrant.Text.CodeTable

/-!
# GB 18030

What this Chinese standard adds to GBK: more codes of two bytes, by these bytes, and codes of four
bytes, by their number.
-/

namespace OAuthGrant.Text

/-- The characters of two bytes that are not in GBK. -/
def gb18030Extras : CodeTable :=
  [(0xA2AB, "\ue766\ue767\ue768\ue769\ue76a\ue76b"), (0xA2E3, "€\ue76d"), (0xA2EF, "\ue76e\ue76f"),
   (0xA2FD, "\ue770\ue771"),
   (0xA4F4, "\ue772\ue773\ue774\ue775\ue776\ue777\ue778\ue779\ue77a\ue77b\ue77c"),
   (0xA5F7, "\ue77d\ue77e\ue77f\ue780\ue781\ue782\ue783\ue784"),
   (0xA6B9, "\ue785\ue786\ue787\ue788\ue789\ue78a\ue78b\ue78c"),
   (0xA6D9, "\ue78d\ue78e\ue78f\ue790\ue791\ue792\ue793"), (0xA6EC, "\ue794\ue795"),
   (0xA6F3, "\ue796"), (0xA6F6, "\ue797\ue798\ue799\ue79a\ue79b\ue79c\ue79d\ue79e\ue79f"),
   (0xA7C2, "\ue7a0\ue7a1\ue7a2\ue7a3\ue7a4\ue7a5\ue7a6\ue7a7\ue7a8\ue7a9\ue7aa"),
   (0xA7CD, "\ue7ab\ue7ac\ue7ad\ue7ae"),
   (0xA7F2, "\ue7af\ue7b0\ue7b1\ue7b2\ue7b3\ue7b4\ue7b5\ue7b6\ue7b7\ue7b8\ue7b9"),
   (0xA7FD, "\ue7ba\ue7bb"),
   (0xA896, "\ue7bc\ue7bd\ue7be\ue7bf\ue7c0\ue7c1\ue7c2\ue7c3\ue7c4\ue7c5\ue7c6"),
   (0xA8BC, "\ue7c7"), (0xA8BF, "ǹ"), (0xA8C1, "\ue7c9\ue7ca\ue7cb\ue7cc"),
   (0xA8EA, "\ue7cd\ue7ce\ue7cf\ue7d0\ue7d1\ue7d2\ue7d3\ue7d4\ue7d5\ue7d6\ue7d7"),
   (0xA8F5, "\ue7d8\ue7d9\ue7da\ue7db\ue7dc\ue7dd\ue7de\ue7df\ue7e0\ue7e1"), (0xA958, "\ue7e2"),
   (0xA95B, "\ue7e3"), (0xA95D, "\ue7e4\ue7e5\ue7e6"), (0xA989, "〾⿰⿱⿲⿳⿴⿵⿶⿷⿸⿹⿺⿻"),
   (0xA997, "\ue7f4\ue7f5\ue7f6\ue7f7\ue7f8\ue7f9\ue7fa\ue7fb\ue7fc\ue7fd\ue7fe"),
   (0xA9A2, "\ue7ff\ue800"),
   (0xA9F0, "\ue801\ue802\ue803\ue804\ue805\ue806\ue807\ue808\ue809\ue80a\ue80b"),
   (0xA9FB, "\ue80c\ue80d\ue80e\ue80f"), (0xD7FA, "\ue810\ue811\ue812\ue813\ue814"),
   (0xFE50, "⺁\ue816\ue817\ue818⺄㑳㑇⺈⺋\ue81e㖞㘚㘎⺌⺗㥮㤘\ue826㧏㧟㩳㧐\ue82b\ue82c㭎㱮㳠⺧"),
   (0xFE6C, "\ue831\ue832⺪䁖䅟⺮䌷⺳⺶⺷\ue83b䎱䎬⺻䏝䓖䙡䙌\ue843"),
   (0xFE80, "䜣䜩䝼䞍⻊䥇䥺䥽䦂䦃䦅䦆䦟䦛䦷䦶\ue854\ue855䲣䲟䲠䲡䱷䲢䴓䴔䴕䴖䴗䴘䴙䶮\ue864")]

/-- The characters of two bytes that are for private use. -/
def gb18030Private : List CodeRange :=
  [⟨0xA140, 63, 0xE4C6⟩, ⟨0xA180, 33, 0xE505⟩, ⟨0xA240, 63, 0xE526⟩, ⟨0xA280, 33, 0xE565⟩,
   ⟨0xA340, 63, 0xE586⟩, ⟨0xA380, 33, 0xE5C5⟩, ⟨0xA440, 63, 0xE5E6⟩, ⟨0xA480, 33, 0xE625⟩,
   ⟨0xA540, 63, 0xE646⟩, ⟨0xA580, 33, 0xE685⟩, ⟨0xA640, 63, 0xE6A6⟩, ⟨0xA680, 33, 0xE6E5⟩,
   ⟨0xA740, 63, 0xE706⟩, ⟨0xA780, 33, 0xE745⟩, ⟨0xAAA1, 94, 0xE000⟩, ⟨0xABA1, 94, 0xE05E⟩,
   ⟨0xACA1, 94, 0xE0BC⟩, ⟨0xADA1, 94, 0xE11A⟩, ⟨0xAEA1, 94, 0xE178⟩, ⟨0xAFA1, 94, 0xE1D6⟩,
   ⟨0xF8A1, 94, 0xE234⟩, ⟨0xF9A1, 94, 0xE292⟩, ⟨0xFAA1, 94, 0xE2F0⟩, ⟨0xFBA1, 94, 0xE34E⟩,
   ⟨0xFCA1, 94, 0xE3AC⟩, ⟨0xFDA1, 94, 0xE40A⟩, ⟨0xFEA1, 94, 0xE468⟩]

/-- The characters of four bytes below 0x10000, by the number of their code. -/
def gb18030Ranges : List CodeRange :=
  [⟨0, 36, 0x0080⟩, ⟨36, 2, 0x00A5⟩, ⟨38, 7, 0x00A9⟩, ⟨45, 5, 0x00B2⟩, ⟨50, 31, 0x00B8⟩,
   ⟨81, 8, 0x00D8⟩, ⟨89, 6, 0x00E2⟩, ⟨95, 1, 0x00EB⟩, ⟨96, 4, 0x00EE⟩, ⟨100, 3, 0x00F4⟩,
   ⟨103, 1, 0x00F8⟩, ⟨104, 1, 0x00FB⟩, ⟨105, 4, 0x00FD⟩, ⟨109, 17, 0x0102⟩, ⟨126, 7, 0x0114⟩,
   ⟨133, 15, 0x011C⟩, ⟨148, 24, 0x012C⟩, ⟨172, 3, 0x0145⟩, ⟨175, 4, 0x0149⟩, ⟨179, 29, 0x014E⟩,
   ⟨208, 98, 0x016C⟩, ⟨306, 1, 0x01CF⟩, ⟨307, 1, 0x01D1⟩, ⟨308, 1, 0x01D3⟩, ⟨309, 1, 0x01D5⟩,
   ⟨310, 1, 0x01D7⟩, ⟨311, 1, 0x01D9⟩, ⟨312, 1, 0x01DB⟩, ⟨313, 28, 0x01DD⟩, ⟨341, 87, 0x01FA⟩,
   ⟨428, 15, 0x0252⟩, ⟨443, 101, 0x0262⟩, ⟨544, 1, 0x02C8⟩, ⟨545, 13, 0x02CC⟩, ⟨558, 183, 0x02DA⟩,
   ⟨741, 1, 0x03A2⟩, ⟨742, 7, 0x03AA⟩, ⟨749, 1, 0x03C2⟩, ⟨750, 55, 0x03CA⟩, ⟨805, 14, 0x0402⟩,
   ⟨819, 1, 0x0450⟩, ⟨820, 7102, 0x0452⟩, ⟨7922, 2, 0x2011⟩, ⟨7924, 1, 0x2017⟩, ⟨7925, 2, 0x201A⟩,
   ⟨7927, 7, 0x201E⟩, ⟨7934, 9, 0x2027⟩, ⟨7943, 1, 0x2031⟩, ⟨7944, 1, 0x2034⟩, ⟨7945, 5, 0x2036⟩,
   ⟨7950, 112, 0x203C⟩, ⟨8062, 86, 0x20AD⟩, ⟨8148, 1, 0x2104⟩, ⟨8149, 3, 0x2106⟩,
   ⟨8152, 12, 0x210A⟩, ⟨8164, 10, 0x2117⟩, ⟨8174, 62, 0x2122⟩, ⟨8236, 4, 0x216C⟩,
   ⟨8240, 22, 0x217A⟩, ⟨8262, 2, 0x2194⟩, ⟨8264, 110, 0x219A⟩, ⟨8374, 6, 0x2209⟩,
   ⟨8380, 1, 0x2210⟩, ⟨8381, 3, 0x2212⟩, ⟨8384, 4, 0x2216⟩, ⟨8388, 2, 0x221B⟩, ⟨8390, 2, 0x2221⟩,
   ⟨8392, 1, 0x2224⟩, ⟨8393, 1, 0x2226⟩, ⟨8394, 2, 0x222C⟩, ⟨8396, 5, 0x222F⟩, ⟨8401, 5, 0x2238⟩,
   ⟨8406, 10, 0x223E⟩, ⟨8416, 3, 0x2249⟩, ⟨8419, 5, 0x224D⟩, ⟨8424, 13, 0x2253⟩, ⟨8437, 2, 0x2262⟩,
   ⟨8439, 6, 0x2268⟩, ⟨8445, 37, 0x2270⟩, ⟨8482, 3, 0x2296⟩, ⟨8485, 11, 0x229A⟩,
   ⟨8496, 25, 0x22A6⟩, ⟨8521, 82, 0x22C0⟩, ⟨8603, 333, 0x2313⟩, ⟨8936, 10, 0x246A⟩,
   ⟨8946, 100, 0x249C⟩, ⟨9046, 4, 0x254C⟩, ⟨9050, 13, 0x2574⟩, ⟨9063, 3, 0x2590⟩,
   ⟨9066, 10, 0x2596⟩, ⟨9076, 16, 0x25A2⟩, ⟨9092, 8, 0x25B4⟩, ⟨9100, 8, 0x25BE⟩, ⟨9108, 3, 0x25C8⟩,
   ⟨9111, 2, 0x25CC⟩, ⟨9113, 18, 0x25D0⟩, ⟨9131, 31, 0x25E6⟩, ⟨9162, 2, 0x2607⟩,
   ⟨9164, 54, 0x260A⟩, ⟨9218, 1, 0x2641⟩, ⟨9219, 2110, 0x2643⟩, ⟨11329, 2, 0x2E82⟩,
   ⟨11331, 3, 0x2E85⟩, ⟨11334, 2, 0x2E89⟩, ⟨11336, 10, 0x2E8D⟩, ⟨11346, 15, 0x2E98⟩,
   ⟨11361, 2, 0x2EA8⟩, ⟨11363, 3, 0x2EAB⟩, ⟨11366, 4, 0x2EAF⟩, ⟨11370, 2, 0x2EB4⟩,
   ⟨11372, 3, 0x2EB8⟩, ⟨11375, 14, 0x2EBC⟩, ⟨11389, 293, 0x2ECB⟩, ⟨11682, 4, 0x2FFC⟩,
   ⟨11686, 1, 0x3004⟩, ⟨11687, 5, 0x3018⟩, ⟨11692, 2, 0x301F⟩, ⟨11694, 20, 0x302A⟩,
   ⟨11714, 2, 0x303F⟩, ⟨11716, 7, 0x3094⟩, ⟨11723, 2, 0x309F⟩, ⟨11725, 5, 0x30F7⟩,
   ⟨11730, 6, 0x30FF⟩, ⟨11736, 246, 0x312A⟩, ⟨11982, 7, 0x322A⟩, ⟨11989, 113, 0x3232⟩,
   ⟨12102, 234, 0x32A4⟩, ⟨12336, 12, 0x3390⟩, ⟨12348, 2, 0x339F⟩, ⟨12350, 34, 0x33A2⟩,
   ⟨12384, 9, 0x33C5⟩, ⟨12393, 2, 0x33CF⟩, ⟨12395, 2, 0x33D3⟩, ⟨12397, 113, 0x33D6⟩,
   ⟨12510, 43, 0x3448⟩, ⟨12553, 298, 0x3474⟩, ⟨12851, 111, 0x359F⟩, ⟨12962, 11, 0x360F⟩,
   ⟨12973, 765, 0x361B⟩, ⟨13738, 85, 0x3919⟩, ⟨13823, 96, 0x396F⟩, ⟨13919, 14, 0x39D1⟩,
   ⟨13933, 147, 0x39E0⟩, ⟨14080, 218, 0x3A74⟩, ⟨14298, 287, 0x3B4F⟩, ⟨14585, 113, 0x3C6F⟩,
   ⟨14698, 885, 0x3CE1⟩, ⟨15583, 264, 0x4057⟩, ⟨15847, 471, 0x4160⟩, ⟨16318, 116, 0x4338⟩,
   ⟨16434, 4, 0x43AD⟩, ⟨16438, 43, 0x43B2⟩, ⟨16481, 248, 0x43DE⟩, ⟨16729, 373, 0x44D7⟩,
   ⟨17102, 20, 0x464D⟩, ⟨17122, 193, 0x4662⟩, ⟨17315, 5, 0x4724⟩, ⟨17320, 82, 0x472A⟩,
   ⟨17402, 16, 0x477D⟩, ⟨17418, 441, 0x478E⟩, ⟨17859, 50, 0x4948⟩, ⟨17909, 2, 0x497B⟩,
   ⟨17911, 4, 0x497E⟩, ⟨17915, 1, 0x4984⟩, ⟨17916, 20, 0x4987⟩, ⟨17936, 3, 0x499C⟩,
   ⟨17939, 22, 0x49A0⟩, ⟨17961, 703, 0x49B8⟩, ⟨18664, 39, 0x4C78⟩, ⟨18703, 111, 0x4CA4⟩,
   ⟨18814, 148, 0x4D1A⟩, ⟨18962, 81, 0x4DAF⟩, ⟨19043, 14426, 0x9FA6⟩, ⟨33469, 1, 0xE76C⟩,
   ⟨33470, 1, 0xE7C8⟩, ⟨33471, 13, 0xE7E7⟩, ⟨33484, 1, 0xE815⟩, ⟨33485, 5, 0xE819⟩,
   ⟨33490, 7, 0xE81F⟩, ⟨33497, 4, 0xE827⟩, ⟨33501, 4, 0xE82D⟩, ⟨33505, 8, 0xE833⟩,
   ⟨33513, 7, 0xE83C⟩, ⟨33520, 16, 0xE844⟩, ⟨33536, 14, 0xE856⟩, ⟨33550, 4295, 0xE865⟩,
   ⟨37845, 76, 0xF92D⟩, ⟨37921, 27, 0xF97A⟩, ⟨37948, 81, 0xF996⟩, ⟨38029, 9, 0xF9E8⟩,
   ⟨38038, 26, 0xF9F2⟩, ⟨38064, 1, 0xFA10⟩, ⟨38065, 1, 0xFA12⟩, ⟨38066, 3, 0xFA15⟩,
   ⟨38069, 6, 0xFA19⟩, ⟨38075, 1, 0xFA22⟩, ⟨38076, 2, 0xFA25⟩, ⟨38078, 1030, 0xFA2A⟩,
   ⟨39108, 1, 0xFE32⟩, ⟨39109, 4, 0xFE45⟩, ⟨39113, 1, 0xFE53⟩, ⟨39114, 1, 0xFE58⟩,
   ⟨39115, 1, 0xFE67⟩, ⟨39116, 149, 0xFE6C⟩, ⟨39265, 129, 0xFF5F⟩, ⟨39394, 26, 0xFFE6⟩]

end OAuthGrant.Text

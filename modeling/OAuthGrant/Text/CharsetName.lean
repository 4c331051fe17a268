import OAuthGrant.Text.Charset

/-!
# Names of character sets

In a name case does not count, and neither does what stands between its parts. A set has one name and
may have others. A point in a name may stand for the end of a part, but only in those others; a name
with a point in it is never the one name of a set.
-/

namespace OAuthGrant.Text

structure NamedCharset where
  name : String
  aliases : List String := []
  charset : Charset

namespace Charset

/-- The Unicode encodings, and the sets that code points stand for themselves in. -/
def unicodeSets : List NamedCharset :=
  [⟨"utf_8", ["cp65001", "u8", "utf", "utf8", "utf8_ucs2", "utf8_ucs4"], utf8⟩,
   ⟨"utf_8_sig", [], markedUtf8⟩,
   ⟨"utf_7", ["u7", "unicode_1_1_utf_7", "utf7"], utf7⟩,
   ⟨"utf_16", ["u16", "utf16"], utf16 none⟩,
   ⟨"utf_16_le", ["unicodelittleunmarked", "utf_16le"], utf16 (some .littleEndian)⟩,
   ⟨"utf_16_be", ["unicodebigunmarked", "utf_16be"], utf16 (some .bigEndian)⟩,
   ⟨"utf_32", ["u32", "utf32"], utf32 none⟩,
   ⟨"utf_32_le", ["utf_32le"], utf32 (some .littleEndian)⟩,
   ⟨"utf_32_be", ["utf_32be"], utf32 (some .bigEndian)⟩,
   ⟨"ascii", ["646", "ansi_x3.4_1968", "ansi_x3.4_1986", "ansi_x3_4_1968", "cp367", "csascii", "ibm367",
      "iso646_us", "iso_646.irv_1991", "iso_ir_6", "us", "us_ascii"], ascii⟩,
   ⟨"latin_1", ["8859", "cp819", "csisolatin1", "ibm819", "iso8859", "iso8859_1", "iso_8859_1",
      "iso_8859_1_1987", "iso_ir_100", "l1", "latin", "latin1"], latin1⟩,
   ⟨"charmap", [], latin1⟩,
   ⟨"unicode_escape", [], escaped⟩,
   ⟨"raw_unicode_escape", [], shortEscaped⟩,
   ⟨"punycode", [], punycode⟩,
   ⟨"idna", [], domainName⟩,
   ⟨"undefined", [], noText⟩]

def chineseSets : List NamedCharset :=
  [⟨"big5", ["big5_tw", "csbig5", "x_mac_trad_chinese"], multibyte readBig5⟩,
   ⟨"big5hkscs", ["big5_hkscs", "hkscs"], multibyte readHkscs⟩,
   ⟨"cp950", ["950", "ms950"], multibyte readCp950⟩,
   ⟨"gb18030", ["gb18030_2000"], multibyte readGb18030⟩,
   ⟨"gb2312", ["chinese", "csiso58gb231280", "euc_cn", "euccn", "eucgb2312_cn", "gb2312_1980",
      "gb2312_80", "iso_ir_58", "x_mac_simp_chinese"], multibyte readGb2312⟩,
   ⟨"gbk", ["936", "cp936", "ms936"], multibyte readGbk⟩,
   ⟨"hz", ["hz_gb", "hz_gb_2312", "hzgb"], hz⟩]

def japaneseSets : List NamedCharset :=
  [⟨"cp932", ["932", "ms932", "ms_kanji", "mskanji"], multibyte readCp932⟩,
   ⟨"euc_jis_2004", ["euc_jis2004", "eucjis2004", "jisx0213"], multibyte (readEucJp0213 .of2004)⟩,
   ⟨"euc_jisx0213", ["eucjisx0213"], multibyte (readEucJp0213 .of2000)⟩,
   ⟨"euc_jp", ["eucjp", "u_jis", "ujis"], multibyte readEucJp⟩,
   ⟨"iso2022_jp", ["csiso2022jp", "iso2022jp", "iso_2022_jp"], switched Iso2022.japanese⟩,
   ⟨"iso2022_jp_1", ["iso2022jp_1", "iso_2022_jp_1"], switched Iso2022.japanese1⟩,
   ⟨"iso2022_jp_2", ["iso2022jp_2", "iso_2022_jp_2"], switched Iso2022.japanese2⟩,
   ⟨"iso2022_jp_2004", ["iso2022jp_2004", "iso_2022_jp_2004"], switched Iso2022.japanese2004⟩,
   ⟨"iso2022_jp_3", ["iso2022jp_3", "iso_2022_jp_3"], switched Iso2022.japanese3⟩,
   ⟨"iso2022_jp_ext", ["iso2022jp_ext", "iso_2022_jp_ext"], switched Iso2022.japaneseExtended⟩,
   ⟨"shift_jis", ["csshiftjis", "s_jis", "shiftjis", "sjis", "x_mac_japanese"],
      multibyte readShiftJis⟩,
   ⟨"shift_jis_2004", ["s_jis_2004", "shiftjis2004", "sjis_2004"],
      multibyte (readShiftJis0213 .of2004)⟩,
   ⟨"shift_jisx0213", ["s_jisx0213", "shiftjisx0213", "sjisx0213"],
      multibyte (readShiftJis0213 .of2000)⟩]

def koreanSets : List NamedCharset :=
  [⟨"cp949", ["949", "ms949", "uhc"], multibyte readCp949⟩,
   ⟨"euc_kr", ["euckr", "korean", "ks_c_5601", "ks_c_5601_1987", "ks_x_1001", "ksc5601", "ksx1001",
      "x_mac_korean"], multibyte readEucKr⟩,
   ⟨"iso2022_kr", ["csiso2022kr", "iso2022kr", "iso_2022_kr"], switched Iso2022.korean⟩,
   ⟨"johab", ["cp1361", "ms1361"], multibyte readJohab⟩]

def pageSets : List NamedCharset :=
  asciiPages.map (fun p => ⟨p.name, p.aliases, asciiPage p⟩) ++
    otherPages.map fun p => ⟨p.name, p.aliases, page p⟩

def allSets : List NamedCharset :=
  unicodeSets ++ chineseSets ++ japaneseSets ++ koreanSets ++ pageSets

end Charset

namespace NamedCharset

/-- A name in lower case with one underscore between its parts. A part consists of letters, digits and
points; `gap` tells whether a part has ended. -/
def normalName (gap : Bool) : List Char → List Char
  | [] => []
  | c :: cs =>
    if c.isAlphanum || c = '.' then
      (if gap then ['_', c.toLower] else [c.toLower]) ++ normalName false cs
    else normalName true cs

/-- The set of a name. Other names come before the one name of a set. -/
def ofName? (name : String) : Option NamedCharset :=
  let cs := normalName false (name.toList.dropWhile fun c => !(c.isAlphanum || c = '.'))
  let exact := String.ofList cs
  let parted := String.ofList (cs.map fun c => if c = '.' then '_' else c)
  (Charset.allSets.find? fun s => s.aliases.contains exact || s.aliases.contains parted).or
    (if cs.contains '.' then none else Charset.allSets.find? fun s => s.name = exact)

end NamedCharset
end OAuthGrant.Text

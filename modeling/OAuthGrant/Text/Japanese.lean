import OAuthGrant.Text.CodeTable.Cp932
import OAuthGrant.Text.CodeTable.JisX0208
import OAuthGrant.Text.CodeTable.JisX0212
import OAuthGrant.Text.CodeTable.JisX0213
import OAuthGrant.Text.Multibyte

/-!
# Japanese character sets

Characters have a row and a column in a plane. The sets differ in the planes they have and in how two
or three bytes tell the row and the column: shifted codes leave room for narrow katakana, and the other
ones set the high bits.
-/

namespace OAuthGrant.Text

inductive JisEdition where
  | of2000
  | of2004
  deriving DecidableEq, Repr

/-- The codes of the first plane that only the later edition has. -/
def laterJisCodes : List Nat :=
  [0x2E21, 0x2F7E, 0x4F54, 0x4F7E, 0x7427, 0x7E7A, 0x7E7B, 0x7E7C, 0x7E7D, 0x7E7E]

/-- The code points of a row and a column in the first plane of JIS X 0213. -/
def jisFirst? (edition : JisEdition) (code : Nat) : Option (List Char) :=
  if edition = .of2000 && laterJisCodes.contains code then none
  else match jisX0213Pairs.lookup code with
  | some s => some s.toList
  | none => ((jisX0208.at? code).or (jisX0213First.at? code)).map fun c => [c]

/-- The character of a row and a column in the second plane of JIS X 0213. -/
def jisSecond? (edition : JisEdition) (code : Nat) : Option Char :=
  if edition = .of2000 && code = 0x7D3B then some '\u9b1d' else jisX0213Second.at? code

def katakana? (b : Nat) : Option Char :=
  if 0xA1 ≤ b && b ≤ 0xDF then some (Char.ofNat (0xFEC0 + b)) else none

/-- Narrow katakana, another reading for all other bytes. -/
def katakanaOr (other : CharReader) : CharReader := fun b rest =>
  match katakana? b with
  | some c => single c
  | none => other b rest

/-- The row and the column, both counted from 0, of a shifted code of two bytes. -/
def unshift? (b c : Nat) : Option (Nat × Nat) :=
  if (0x81 ≤ b && b ≤ 0x9F || 0xE0 ≤ b && b ≤ 0xFC) &&
      (0x40 ≤ c && c ≤ 0x7E || 0x80 ≤ c && c ≤ 0xFC) then
    let row := 2 * (b - if b < 0xE0 then 0x81 else 0xC1)
    let column := c - if c < 0x80 then 0x40 else 0x41
    some (if column < 94 then (row, column) else (row + 1, column - 94))
  else none

/-- The code of a row and a column that are counted from 0. -/
def cellCode (cell : Nat × Nat) : Nat := pairCode (cell.1 + 0x21) (cell.2 + 0x21)

/-- The character of a shifted code in JIS X 0208. -/
def shiftedChar? (b c : Nat) : Option Char :=
  (unshift? b c).bind fun cell => jisX0208.at? (cellCode cell)

/-- ASCII, narrow katakana and JIS X 0208 in shifted codes. -/
def readShiftJis : CharReader := asciiOr (katakanaOr fun b rest =>
  (rest.head?.bind (shiftedChar? b)).map fun c => ([c], 1))

/-- The character of two bytes in code page 932, which has an area for private use. -/
def cp932Char? (b c : Nat) : Option Char :=
  match cp932Extras.at? (pairCode b c) with
  | some ch => some ch
  | none =>
    if 0xF0 ≤ b && b ≤ 0xF9 then
      (unshift? b c).map fun (row, column) => Char.ofNat (0xE000 + 94 * (row - 94) + column)
    else if 0xEA < b then none
    else shiftedChar? b c

/-- Code page 932: the bytes that start nothing stand for themselves or are for private use. -/
def readCp932 : CharReader := asciiOr (katakanaOr fun b rest =>
  if b = 0x80 then single '\x80'
  else if b = 0xA0 then single '\uf8f0'
  else if 0xFD ≤ b then single (Char.ofNat (0xF8F1 + (b - 0xFD)))
  else (rest.head?.bind (cp932Char? b)).map fun c => ([c], 1))

/-- The row, counted from 0x21, of the second plane that a shifted code means by a row from 94 on. -/
def secondPlaneRow (row : Nat) : Nat :=
  if 0x67 ≤ row then row + 7
  else if 0x63 ≤ row || row = 0x5F then row - 0x37
  else row - 0x3D

/-- The code points of a shifted code in JIS X 0213. Its backslash and its tilde are those of ASCII,
whose own codes stand for two other signs. -/
def shiftedChars? (edition : JisEdition) (b c : Nat) : Option (List Char) :=
  (unshift? b c).bind fun (row, column) =>
    if row < 94 then
      let code := cellCode (row, column)
      if code = 0x2140 then some ['\\'] else if code = 0x2232 then some ['~']
      else jisFirst? edition code
    else (jisSecond? edition (pairCode (secondPlaneRow row) (column + 0x21))).map fun c => [c]

/-- The signs of the Roman letters of JIS X 0201: two of them differ from ASCII. -/
def jisRoman (b : Nat) : Char :=
  if b = 0x5C then '¥' else if b = 0x7E then '‾' else Char.ofNat b

/-- Roman letters, narrow katakana and JIS X 0213 in shifted codes. -/
def readShiftJis0213 (edition : JisEdition) : CharReader := katakanaOr fun b rest =>
  if b < 0x80 then single (jisRoman b)
  else (rest.head?.bind (shiftedChars? edition b)).map fun cs => (cs, 1)

/-- A set of ASCII and planes: a mark announces narrow katakana, and another one the second plane. -/
def readEuc (first : Nat → Option (List Char)) (second : Nat → Option Char) : CharReader :=
  asciiOr fun b rest =>
    match rest with
    | [] => none
    | c :: more =>
      if b = 0x8E then (katakana? c).map fun ch => ([ch], 1)
      else if b = 0x8F then
        (more.head?.bind fun d => second (loweredCode c d)).map fun ch => ([ch], 2)
      else (first (loweredCode b c)).map fun cs => (cs, 1)

/-- ASCII, JIS X 0208 and JIS X 0212. -/
def readEucJp : CharReader :=
  readEuc (fun code => (jisX0208.at? code).map fun c => [c]) jisX0212.at?

/-- ASCII and JIS X 0213; the second plane leaves room for JIS X 0212. -/
def readEucJp0213 (edition : JisEdition) : CharReader :=
  readEuc (jisFirst? edition) fun code => (jisSecond? edition code).or (jisX0212.at? code)

end OAuthGrant.Text

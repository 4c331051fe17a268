import OAuthGrant.Text.CodeTable.Big5
import OAuthGrant.Text.CodeTable.Gb18030
import OAuthGrant.Text.CodeTable.Gbk
import OAuthGrant.Text.CodeTable.Hkscs
import OAuthGrant.Text.Multibyte

/-!
# Chinese character sets

GB 2312, what extends it, and Big5 with what extends that. `readHz` reads the form of GB 2312 that has
no byte from 0x80 on, where marks tell of two bytes that stand for one character.
-/

namespace OAuthGrant.Text

def gbkChar? (code : Nat) : Option Char := gbkTable.at? code

/-- The codes that GBK adds between those of GB 2312. -/
def gbkAdditions : List (Nat × Nat) := [(0xA2A1, 0xA2AA), (0xA6E0, 0xA6F5), (0xA8BB, 0xA8C0)]

def gb2312Char? (code : Nat) : Option Char :=
  if code = 0xA1A4 then some '・'
  else if code = 0xA1AA then some '―'
  else if code % 256 < 0xA1 || code < 0xA1A1 || 0xF7FE < code then none
  else if gbkAdditions.any fun r => r.1 ≤ code && code ≤ r.2 then none
  else gbkChar? code

/-- The character of a row and a column of GB 2312. -/
def gb2312Cell? (code : Nat) : Option Char :=
  if code % 256 < 0x80 then gb2312Char? (code + 0x8080) else none

def readGb2312 : CharReader := asciiOrPair gb2312Char?

def readGbk : CharReader := asciiOrPair gbkChar?

/-- The number of the codes of four bytes that stand for code points below 0x10000. -/
def gb18030Count : Nat := 39420

/-- The character of a code of four bytes in GB 18030. -/
def gb18030Numbered? (b c d e : Nat) : Option Char :=
  if b < 0x81 || 0xFE < b || d < 0x81 || 0xFE < d || e < 0x30 || 0x39 < e then none
  else
    let number := ((b - 0x81) * 10 + (c - 0x30)) * 1260 + (d - 0x81) * 10 + (e - 0x30)
    if b < 0x85 then
      if number < gb18030Count then CodeRange.at? gb18030Ranges number else none
    else if b < 0x90 then none
    else
      let n := 0x10000 + (number - 15 * 12600)
      if n ≤ 0x10FFFF then some (Char.ofNat n) else none

/-- GB 18030: a second byte that is a digit belongs to a code of four bytes. -/
def readGb18030 : CharReader := asciiOr fun b rest =>
  match rest with
  | c :: more =>
    if 0x30 ≤ c && c ≤ 0x39 then
      match more with
      | d :: e :: _ => (gb18030Numbered? b c d e).map fun ch => ([ch], 3)
      | _ => none
    else
      let code := pairCode b c
      ((gbkChar? code).or ((gb18030Extras.at? code).or (CodeRange.at? gb18030Private code))).map
        fun ch => ([ch], 1)
  | [] => none

def readBig5 : CharReader := asciiOrPair big5Table.at?

/-- Code page 950: Big5 with some characters of its own. -/
def readCp950 : CharReader :=
  asciiOrPair fun code => (cp950Extras.at? code).or (big5Table.at? code)

/-- The codes of Big5 that the set of Hong Kong does not take over. -/
def isOutsideHkscs (code : Nat) : Bool := 0xC6A1 ≤ code && code < 0xC900

/-- The code points of two bytes in the set of Hong Kong. -/
def hkscsChars? (code : Nat) : Option (List Char) :=
  match hkscsPairs.lookup code with
  | some s => some s.toList
  | none =>
    ((hkscsExtras.at? code).or (if isOutsideHkscs code then none else big5Table.at? code)).map
      fun c => [c]

/-- The set of Hong Kong with ASCII. -/
def readHkscs : CharReader := asciiOr fun b rest =>
  (rest.head?.bind fun c => hkscsChars? (pairCode b c)).map fun cs => (cs, 1)

/-- Reads the form of GB 2312 whose bytes are all below 0x80. `paired` tells whether two bytes stand for
one character; `read` is the text so far in reverse. -/
def readHz (paired : Bool) (read : List Char) (bytes : List Nat) : Option (List Char) :=
  match bytes with
  | [] => some read.reverse
  | [b] => if paired || b = 0x7E || 0x80 ≤ b then none else some (Char.ofNat b :: read).reverse
  | b :: c :: rest =>
    if b = 0x7E then
      if paired then if c = 0x7D then readHz false read rest else none
      else if c = 0x7E then readHz false ('~' :: read) rest
      else if c = 0x7B then readHz true read rest
      else if c = 0x0A then readHz false read rest
      else none
    else if 0x80 ≤ b then none
    else if paired then
      match gb2312Cell? (pairCode b c) with
      | some ch => readHz true (ch :: read) rest
      | none => none
    else readHz false (Char.ofNat b :: read) (c :: rest)

end OAuthGrant.Text

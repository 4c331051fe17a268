import OAuthGrant.Text.Hex
import OAuthGrant.Text.Printable
import OAuthGrant.Text.Surrogate

/-!
# Quoted text

A text inside a list or a dictionary is written between quotes, so that its ends and its unusual
characters can be seen. The single quote is used unless the text holds one and no double quote.
-/

namespace OAuthGrant.Text

/-- The escape of a character that is not printable, as short as its code point allows. -/
def escapeCode (c : Char) : List Char :=
  let n := codePoint c
  if n < 0x100 then '\\' :: 'x' :: hex 2 n
  else if n < 0x10000 then '\\' :: 'u' :: hex 4 n
  else '\\' :: 'U' :: hex 8 n

def quoteChar (mark c : Char) : List Char :=
  if c = mark || c = '\\' then ['\\', c]
  else if c = '\n' then ['\\', 'n']
  else if c = '\r' then ['\\', 'r']
  else if c = '\t' then ['\\', 't']
  else if isPrintable c then [c]
  else escapeCode c

/-- The quotes a text is written between. -/
def quoteMark (cs : List Char) : Char :=
  if cs.contains '\'' && !cs.contains '"' then '"' else '\''

def quote (s : String) : String :=
  let mark := quoteMark s.toList
  String.ofList (mark :: s.toList.flatMap (quoteChar mark) ++ [mark])

/-- Bytes between quotes: a byte outside printable ASCII is escaped. -/
def quoteBytes (bytes : List UInt8) : String :=
  let cs := bytes.map fun b => Char.ofNat b.toNat
  let mark := quoteMark cs
  String.ofList ('b' :: mark :: cs.flatMap (fun c =>
    if c.toNat < 0x7F then quoteChar mark c else '\\' :: 'x' :: hex 2 c.toNat) ++ [mark])

end OAuthGrant.Text

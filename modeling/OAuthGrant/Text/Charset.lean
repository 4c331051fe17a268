import OAuthGrant.Text.Codepage
import OAuthGrant.Text.CodeUnits
import OAuthGrant.Text.DomainName
import OAuthGrant.Text.Escaped
import OAuthGrant.Text.Iso2022
import OAuthGrant.Text.Utf7
import OAuthGrant.Text.Utf8

/-!
# Character sets

A set says how bytes stand for characters. `Charset.decode` gives the characters of bytes, or why the
bytes are no text in the set.
-/

namespace OAuthGrant.Text

/-- How bytes stand for characters. A Unicode encoding without an order of its own takes it from a
mark at the start. -/
inductive Charset where
  | utf8
  | markedUtf8
  | ascii
  | latin1
  | utf7
  | utf16 (order : Option ByteOrder)
  | utf32 (order : Option ByteOrder)
  | page (page : Codepage)
  | asciiPage (page : Codepage)
  | multibyte (next : CharReader)
  | hz
  | switched (variant : Iso2022.Variant)
  | escaped
  | shortEscaped
  | punycode
  | domainName
  | noText

/-- The character of a byte in a table of characters. -/
def tableChar? (table : Array Char) (n : Nat) : Option Char :=
  table[n]?.filter fun c => c.toNat ≠ 0xFFFD

namespace Charset

/-- The bytes of a text after the mark that it may start with. -/
def withoutMark (bytes : List UInt8) : List UInt8 :=
  if [0xEF, 0xBB, 0xBF].isPrefixOf bytes then bytes.drop 3 else bytes

/-- The characters of bytes in a set that only tells whether they are text. -/
def decode? (charset : Charset) (bytes : List UInt8) : Option (List Char) :=
  let numbers := bytes.map UInt8.toNat
  match charset with
  | utf8 => strict? bytes
  | markedUtf8 => strict? (withoutMark bytes)
  | ascii => if bytes.all (· < 0x80) then some (Text.latin1 bytes) else none
  | latin1 => some (Text.latin1 bytes)
  | utf7 => Utf7.decode? numbers
  | utf16 order => (numbers? 2 order numbers).bind ofUnits16?
  | utf32 order => (numbers? 4 order numbers).bind (·.mapM charOf?)
  | page p =>
    let table := p.characters.toArray
    numbers.mapM (tableChar? table)
  | asciiPage p =>
    let table := p.characters.toArray
    numbers.mapM fun n =>
      if n < 0x80 then some (Char.ofNat n) else tableChar? table (n - 0x80)
  | multibyte next => readAll next [] numbers
  | hz => readHz false [] numbers
  | escaped => Escaped.long? (Text.latin1 bytes)
  | shortEscaped => Escaped.short? (Text.latin1 bytes)
  | _ => none

def decode (charset : Charset) (bytes : List UInt8) : Except DecodingFault (List Char) :=
  match charset with
  | switched variant => variant.decode (bytes.map UInt8.toNat)
  | punycode => Punycode.decode (bytes.map UInt8.toNat)
  | domainName => DomainName.decode (bytes.map UInt8.toNat)
  | noText => .error .setWithoutText
  | charset => (charset.decode? bytes).elim (.error .notText) .ok

end Charset
end OAuthGrant.Text

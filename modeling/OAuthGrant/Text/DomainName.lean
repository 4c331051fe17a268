import OAuthGrant.Text.PreparedLabel
import OAuthGrant.Text.Punycode

/-!
# Domain names

A name has labels between points. A label of ASCII stands for itself, unless it starts with the mark of
an encoded one. A label that is not the label of the text it stands for is refused.
-/

namespace OAuthGrant.Text.DomainName

/-- What an encoded label starts with. -/
def mark : List Nat := "xn--".toList.map Char.toNat

/-- The largest number of bytes of a label. -/
def maxLabelSize : Nat := 63

/-- Bytes that are given as numbers. -/
def bytesOf (ns : List Nat) : List UInt8 := ns.map UInt8.ofNat

/-- A label that is neither empty nor too large. -/
def sized (label : List Nat) : Except DecodingFault (List Nat) :=
  if label = [] || maxLabelSize < label.length then .error .labelSize else .ok label

def isAscii (text : List Char) : Bool := text.all (·.toNat < 0x80)

/-- The label of a text. One in ASCII is taken as it is, any other is prepared before it is encoded. -/
def encodeLabel (text : List Char) : Except DecodingFault (List Nat) :=
  if isAscii text then sized (text.map Char.toNat)
  else match PreparedLabel.ofLabel text with
    | .error fault => .error fault
    | .ok text =>
      if isAscii text then sized (text.map Char.toNat)
      else if mark.isPrefixOf (text.map Char.toNat) then .error .markedLabel
      else sized (mark ++ Punycode.encode text)

/-- A byte of ASCII in lower case. -/
def lowerByte (b : Nat) : Nat := if 0x41 ≤ b && b ≤ 0x5A then b + 0x20 else b

/-- The text that an encoded label stands for, if it is the label of that text. -/
def checked (label : List Nat) (text : List Char) : Except DecodingFault (List Char) :=
  match encodeLabel text with
  | .error fault => .error fault
  | .ok restored =>
    if label.map lowerByte = restored then .ok text
    else .error (.changedLabel (bytesOf label) (bytesOf restored))

def decodeLabel (label : List Nat) : Except DecodingFault (List Char) :=
  if label.any (0x80 ≤ ·) then .error .notText
  else if !mark.isPrefixOf label then .ok (label.map Char.ofNat)
  else match Punycode.decode (label.drop mark.length) with
    | .ok text => checked label text
    | .error .notText => .error .notText
    | .error fault => .error (.inLabel fault)

/-- The text of a name; `label` is the present label in reverse. -/
def decodeAfter (label : List Nat) : List Nat → Except DecodingFault (List Char)
  | [] => decodeLabel label.reverse
  | b :: rest =>
    if b = 0x2E then do
      let text ← decodeLabel label.reverse
      return text ++ '.' :: (← decodeAfter [] rest)
    else decodeAfter (b :: label) rest

def decode (bytes : List Nat) : Except DecodingFault (List Char) := decodeAfter [] bytes

end OAuthGrant.Text.DomainName

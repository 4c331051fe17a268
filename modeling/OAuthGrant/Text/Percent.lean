import OAuthGrant.Text.Hex
import OAuthGrant.Text.Utf8

/-!
# Percent escapes

`unescape` reads percent escapes: each run of ASCII characters stands for bytes, which are read as
UTF-8 with faults replaced; an escape that is not valid stands for itself, and so does every other
character. `escapeBytes` writes the bytes outside a class of safe characters as escapes.
-/

namespace OAuthGrant.Text

/-- The bytes that ASCII characters with escapes stand for. -/
def escapedBytes : List Char → List UInt8
  | [] => []
  | '%' :: a :: b :: rest =>
    match hexValue? a, hexValue? b with
    | some m, some n => UInt8.ofNat (16 * m + n) :: escapedBytes rest
    | _, _ => 37 :: escapedBytes (a :: b :: rest)
  | c :: rest => UInt8.ofNat c.toNat :: escapedBytes rest

/-- Reads escapes after a run of ASCII characters, which is given in reverse. -/
def unescapeAfter (run : List Char) : List Char → List Char
  | [] => lossy (escapedBytes run.reverse)
  | c :: cs =>
    if c.toNat < 0x80 then unescapeAfter (c :: run) cs
    else lossy (escapedBytes run.reverse) ++ c :: unescapeAfter [] cs

def unescape (cs : List Char) : List Char := unescapeAfter [] cs

/-- Letters, digits and the four marks that never need an escape. -/
def isUnreserved (c : Char) : Bool := c.isAlphanum || ['_', '.', '-', '~'].contains c

/-- Writes a text in UTF-8 with every byte escaped that is not a safe character. -/
def escapeBytes (safe : Char → Bool) (s : String) : String :=
  String.ofList (s.toUTF8.toList.flatMap fun b =>
    let c := Char.ofNat b.toNat
    if b < 0x80 && safe c then [c]
    else '%' :: (hex 2 b.toNat).map Char.toUpper)

end OAuthGrant.Text

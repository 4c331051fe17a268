/-!
# Code units

Numbers of two or four bytes in either order, and the characters that numbers of two bytes stand for:
two surrogates make one character, and a single one makes none.
-/

namespace OAuthGrant.Text

/-- Which byte of a number comes first. -/
inductive ByteOrder where
  | littleEndian
  | bigEndian
  deriving DecidableEq, Repr

def ByteOrder.number (order : ByteOrder) (bytes : List Nat) : Nat :=
  let digits := match order with
    | .littleEndian => bytes.reverse
    | .bigEndian => bytes
  digits.foldl (fun n b => 256 * n + b) 0

/-- The numbers of `width` bytes each that bytes stand for; `read` has those so far in reverse. -/
def ByteOrder.numbersAfter? (order : ByteOrder) (width : Nat) (read bytes : List Nat) :
    Option (List Nat) :=
  if bytes = [] then some read.reverse
  else if width = 0 || (bytes.take width).length < width then none
  else order.numbersAfter? width (order.number (bytes.take width) :: read) (bytes.drop width)
termination_by bytes.length
decreasing_by
  have := List.length_pos_iff.mpr ‹¬bytes = []›
  grind

/-- The character of a code point, if it is one. -/
def charOf? (n : Nat) : Option Char := if n.isValidChar then some (Char.ofNat n) else none

/-- The characters of numbers of two bytes; `read` has those so far in reverse. -/
def ofUnits16After? (read : List Char) : List Nat → Option (List Char)
  | [] => some read.reverse
  | [n] => (charOf? n).map fun c => (c :: read).reverse
  | n :: m :: rest =>
    if 0xD800 ≤ n && n < 0xDC00 then
      if 0xDC00 ≤ m && m < 0xE000 then
        ofUnits16After? (Char.ofNat (0x10000 + (n - 0xD800) * 1024 + (m - 0xDC00)) :: read) rest
      else none
    else match charOf? n with
      | some c => ofUnits16After? (c :: read) (m :: rest)
      | none => none

/-- The characters of numbers of two bytes. -/
def ofUnits16? (units : List Nat) : Option (List Char) := ofUnits16After? [] units

/-- The mark at the start of a text that tells the order of its bytes. -/
def byteOrderMark : Nat := 0xFEFF

/-- The numbers of `width` bytes each, in the given order or else in the one that a mark at the start
tells; without either they are little endian. -/
def numbers? (width : Nat) (order : Option ByteOrder) (bytes : List Nat) : Option (List Nat) :=
  match order with
  | some order => order.numbersAfter? width [] bytes
  | none =>
    let start := bytes.take width
    if start.length = width && ByteOrder.littleEndian.number start = byteOrderMark then
      ByteOrder.littleEndian.numbersAfter? width [] (bytes.drop width)
    else if start.length = width && ByteOrder.bigEndian.number start = byteOrderMark then
      ByteOrder.bigEndian.numbersAfter? width [] (bytes.drop width)
    else ByteOrder.littleEndian.numbersAfter? width [] bytes

end OAuthGrant.Text

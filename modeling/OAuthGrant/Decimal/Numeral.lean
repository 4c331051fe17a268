import OAuthGrant.Text.Blank

/-!
# Integers written as text

A numeral is a sign and decimal digits, with single underscores between them and a fraction of zeros
after them. Blanks around it do not count, and neither do zeros and underscores at the start of the
digits. Zeros at the start of a text without a sign may even stand before a minus sign. `read` says why
a text is no numeral.
-/

namespace OAuthGrant.Decimal.Numeral

/-- Why a text is not read as an integer. -/
inductive Fault where
  | tooLong
  | unreadable
  deriving DecidableEq, Repr

/-- The largest number of digits of an integer that is read or written. -/
def maxDigits : Nat := 4300

/-- Whether an integer has few enough digits to be written. -/
def isWritable (n : Int) : Bool := (Nat.toDigits 10 n.natAbs).length ≤ maxDigits

/-- Whether a text starts with a number of more digits than an integer may have, written as a number
usually is: without zeros, blanks or a plus sign before it. -/
def startsTooLong (cs : List Char) : Bool :=
  let digits := (if cs.head? = some '-' then cs.drop 1 else cs).takeWhile Char.isDigit
  digits.head? ≠ some '0' && maxDigits < digits.length

/-- Zeros and underscores are dropped up to the first character that counts; the last of them stays if
a point or nothing at all follows. `last` is the last one read. -/
def dropZeros? (last : Char) : List Char → Option (List Char)
  | [] => some [last]
  | c :: cs =>
    if c = '0' || c = '_' then dropZeros? c cs
    else if c.isDigit || c = '-' then some (c :: cs)
    else if c = '.' then some (last :: c :: cs)
    else none

/-- The characters that count, which start with a digit or a minus sign. -/
def significant? : List Char → Option (List Char)
  | [] => none
  | c :: cs =>
    if c = '0' then dropZeros? c cs
    else if c.isDigit || c = '-' then some (c :: cs)
    else none

/-- The characters that count after a minus sign or none. A plus sign is dropped, unless a minus sign
follows. -/
def signed? : List Char → Option (List Char)
  | '-' :: cs => ('-' :: ·) <$> significant? cs
  | '+' :: '-' :: _ => none
  | '+' :: cs => significant? cs
  | cs => significant? cs

/-- A fraction of one zero or more is dropped. -/
def dropFraction (cs : List Char) : List Char :=
  match cs.dropWhile (· ≠ '.') with
  | _ :: '0' :: zeros => if zeros.all (· = '0') then cs.takeWhile (· ≠ '.') else cs
  | _ => cs

/-- Drops single underscores inside a numeral; `inside` tells whether one may stand here. -/
def dropUnderscores? (inside : Bool) : List Char → Option (List Char)
  | [] => some []
  | ['_'] => none
  | c :: cs =>
    if c = '_' then if inside then dropUnderscores? false cs else none
    else (c :: ·) <$> dropUnderscores? true cs

/-- The value of decimal digits, of which there is at least one. Only zero itself starts with a zero. -/
def magnitude? (cs : List Char) : Option Nat :=
  if cs ≠ [] && cs.all Char.isDigit && (cs = ['0'] || cs.head? ≠ some '0') && cs.length ≤ maxDigits then
    some (cs.foldl (fun n c => 10 * n + (c.toNat - 48)) 0)
  else none

/-- The value of digits after a minus sign or none. -/
def value? : List Char → Option Int
  | '-' :: cs => (fun n : Nat => -(n : Int)) <$> magnitude? cs
  | cs => (fun n : Nat => (n : Int)) <$> magnitude? cs

def read (s : String) : Except Fault Int :=
  if startsTooLong s.toList then .error .tooLong
  else
    let cs := Text.trim Text.isSpace s.toList
    let value := do value? (← dropUnderscores? false (dropFraction (← signed? cs)))
    value.elim (.error .unreadable) .ok

end OAuthGrant.Decimal.Numeral

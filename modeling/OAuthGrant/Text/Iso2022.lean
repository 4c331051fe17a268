import OAuthGrant.Text.Chinese
import OAuthGrant.Text.DecodingFault
import OAuthGrant.Text.Japanese
import OAuthGrant.Text.Korean

/-!
# Switched character sets

In these forms all bytes are below 0x80, and escape sequences tell which graphic set they belong to.
There are three places a set can be put: the first is in use at the start of a line, the second one
after a shift, and the third one for a single character. Each variant knows its own graphic sets. An
escape that puts no set anywhere stands for its characters.
-/

namespace OAuthGrant.Text.Iso2022

/-- The sets that bytes can belong to. -/
inductive GraphicSet where
  | ascii
  | roman
  | katakana
  | latin
  | greek
  | jisX0208
  | jisX0212
  | jisFirst (edition : JisEdition)
  | jisSecond
  | gb2312
  | ksX1001
  deriving DecidableEq, Repr

/-- How a set is named in an escape sequence: by its last byte, and whether its codes have two bytes. -/
structure Mark where
  final : Char
  double : Bool
  deriving DecidableEq, Repr

/-- A variant: its sets, whether a shift exists, whether a set can be put in the third place, and
whether the announcement of a revision may stand before an escape sequence. -/
structure Variant where
  sets : List (Mark × GraphicSet)
  shifts : Bool := false
  hasThird : Bool := false
  hasRevisions : Bool := true

/-- The sets in the three places, whether the second one is in use, and whether the characters of an
escape are being read. -/
structure State where
  first : GraphicSet := .ascii
  second : GraphicSet := .ascii
  third : GraphicSet := .ascii
  shifted : Bool := false
  inEscape : Bool := false

def escape : Nat := 0x1B
def shiftOut : Nat := 0x0E
def shiftIn : Nat := 0x0F
def lineFeed : Nat := 0x0A

/-- A byte that ends an escape. -/
def endsEscape (b : Nat) : Bool := 0x40 ≤ b && b ≤ 0x5A

/-- The largest number of bytes of an escape sequence. -/
def maxEscapeLength : Nat := 16

/-- The number of bytes up to the end of an escape sequence, of which `passed` have been passed. The
announcement of a revision has an end of its own within it. -/
def escapeLength? (hasRevisions : Bool) (passed : Nat) (bytes : List Nat) : Option Nat :=
  match bytes with
  | [] => none
  | b :: rest =>
    if maxEscapeLength ≤ passed then none
    else if endsEscape b then some (passed + 1)
    else if hasRevisions && b = 0x26 && rest.head? = some 0x40 then
      escapeLength? hasRevisions (passed + 3) (rest.drop 2)
    else escapeLength? hasRevisions (passed + 1) rest
termination_by bytes.length

inductive Position where
  | first
  | second
  | third
  deriving DecidableEq, Repr

/-- The set that an escape sequence names, and the place it is put in. -/
def designation? (v : Variant) (sequence : List Nat) : Option (Mark × Position) :=
  let mark := fun c double => (⟨Char.ofNat c, double⟩ : Mark)
  match sequence with
  | [_, 0x24, c] => some (mark c true, .first)
  | [_, 0x28, c] => some (mark c false, .first)
  | [_, 0x29, c] => some (mark c false, .second)
  | [_, 0x2E, c] => if v.hasThird then some (mark c false, .third) else none
  | [_, 0x24, 0x28, c] => some (mark c true, .first)
  | [_, 0x24, 0x29, c] => some (mark c true, .second)
  | [_, _, _, 0x1B, 0x24, 0x42] => if v.hasRevisions then some (mark 0x42 true, .first) else none
  | _ => none

def Variant.set? (v : Variant) (m : Mark) : Option GraphicSet :=
  if m = ⟨'B', false⟩ then some .ascii else v.sets.lookup m

def State.put (s : State) (set : GraphicSet) : Position → State
  | .first => { s with first := set }
  | .second => { s with second := set }
  | .third => { s with third := set }

/-- A sign of the upper half of ISO 8859-7, by its byte without the high bit. A byte with it is a sign
of the lower half. -/
def greek? (b : Nat) : Option Char :=
  if 0x80 ≤ b then some (Char.ofNat (b - 0x80))
  else if b < 0x20 then some (Char.ofNat (b + 0x80))
  else if b = 0x21 then some '‘'
  else if b = 0x22 then some '’'
  else if b = 0x2F then some '―'
  else if [0x20, 0x23, 0x26, 0x27, 0x28, 0x29, 0x2B, 0x2C, 0x2D, 0x30, 0x31, 0x32, 0x33, 0x37, 0x3B,
      0x3D].contains b then some (Char.ofNat (b + 0x80))
  else if 0x34 ≤ b && b ≤ 0x7E && b ≠ 0x52 then some (Char.ofNat (0x0350 + b))
  else none

/-- What a byte stands for in the third place. -/
def third (set : GraphicSet) (b : Nat) : Except DecodingFault Char :=
  match set with
  | .latin => if b < 0x80 then .ok (Char.ofNat (b + 0x80)) else .error .notText
  | .greek => (greek? b).elim (.error .notText) .ok
  | .ascii => if b < 0x80 then .ok (Char.ofNat b) else .error .notText
  | _ => .error .misplacedSet

/-- The code points of a row and a column in the first plane of JIS X 0213, whose tilde is that of ASCII
here. -/
def plainTildeChars? (edition : JisEdition) (code : Nat) : Option (List Char) :=
  if code = 0x2232 then some ['~'] else jisFirst? edition code

/-- What a byte stands for in a set, perhaps together with the one after it. -/
def GraphicSet.read : GraphicSet → CharReader
  | .ascii => fun b _ => single (Char.ofNat b)
  | .roman => fun b _ => single (jisRoman b)
  | .katakana => fun b _ => (katakana? (b + 0x80)).map fun c => ([c], 0)
  | .latin => fun _ _ => none
  | .greek => fun _ _ => none
  | .jisX0208 => withNext pairCode Text.jisX0208.at?
  | .jisX0212 => withNext pairCode Text.jisX0212.at?
  | .jisFirst edition => fun b rest =>
    (rest.head?.bind fun c => plainTildeChars? edition (pairCode b c)).map fun cs => (cs, 1)
  | .jisSecond => withNext pairCode (jisSecond? .of2004)
  | .gb2312 => withNext pairCode gb2312Cell?
  | .ksX1001 => withNext pairCode Text.ksX1001.at?

/-- Reads bytes to their end; `read` is the text so far in reverse. -/
def readWithin (v : Variant) (fuel : Nat) (s : State) (read : List Char) (bytes : List Nat) :
    Except DecodingFault (List Char) :=
  match fuel, bytes with
  | 0, _ => .error .notText
  | _, [] => .ok read.reverse
  | fuel + 1, b :: rest =>
    let plain := fun s => readWithin v fuel s (Char.ofNat b :: read) rest
    if s.inEscape then plain { s with inEscape := !endsEscape b }
    else if b = escape then
      match rest with
      | [] => .error .notText
      | c :: more =>
        if [0x28, 0x29, 0x24, 0x2E, 0x26].contains c then
          match escapeLength? v.hasRevisions 1 rest with
          | none => .error .notText
          | some length =>
            match designation? v (bytes.take length) with
            | none => .error .notText
            | some (mark, position) =>
              match v.set? mark with
              | none => .error .notText
              | some set => readWithin v fuel (s.put set position) read (bytes.drop length)
        else if v.hasThird && c = 0x4E then
          match more with
          | [] => .error .notText
          | d :: more =>
            match third s.third d with
            | .ok ch => readWithin v fuel s (ch :: read) more
            | .error fault => .error fault
        else plain { s with inEscape := true }
    else if v.shifts && b = shiftIn then readWithin v fuel { s with shifted := false } read rest
    else if v.shifts && b = shiftOut then readWithin v fuel { s with shifted := true } read rest
    else if b = lineFeed then plain { s with shifted := false }
    else if b < 0x20 then plain s
    else if 0x80 ≤ b then .error .notText
    else
      match (if s.shifted then s.second else s.first).read b rest with
      | none => .error .notText
      | some (cs, used) => readWithin v fuel s (cs.reverse ++ read) (rest.drop used)

def Variant.decode (v : Variant) (bytes : List Nat) : Except DecodingFault (List Char) :=
  readWithin v (bytes.length + 1) {} [] bytes

/-! The marks of the sets that several variants know. -/

def romanSet : Mark × GraphicSet := (⟨'J', false⟩, .roman)
def katakanaSet : Mark × GraphicSet := (⟨'I', false⟩, .katakana)
def jisX0208Set : Mark × GraphicSet := (⟨'B', true⟩, .jisX0208)
def oldJisX0208Set : Mark × GraphicSet := (⟨'@', true⟩, .jisX0208)
def jisX0212Set : Mark × GraphicSet := (⟨'D', true⟩, .jisX0212)
def jisSecondSet : Mark × GraphicSet := (⟨'P', true⟩, .jisSecond)
def ksX1001Set : Mark × GraphicSet := (⟨'C', true⟩, .ksX1001)
def gb2312Set : Mark × GraphicSet := (⟨'A', true⟩, .gb2312)

def japanese : Variant := { sets := [jisX0208Set, romanSet, oldJisX0208Set] }

def japanese1 : Variant := { sets := [jisX0208Set, jisX0212Set, romanSet, oldJisX0208Set] }

def japanese2 : Variant where
  sets := [jisX0208Set, jisX0212Set, ksX1001Set, gb2312Set, romanSet, oldJisX0208Set,
    (⟨'A', false⟩, .latin), (⟨'F', false⟩, .greek)]
  hasThird := true

def japanese3 : Variant where
  sets := [jisX0208Set, (⟨'O', true⟩, .jisFirst .of2000), jisSecondSet]

def japanese2004 : Variant where
  sets := [jisX0208Set, (⟨'Q', true⟩, .jisFirst .of2004), jisSecondSet]

/-- The Japanese variant with narrow katakana. -/
def japaneseExtended : Variant where
  sets := [jisX0208Set, jisX0212Set, romanSet, katakanaSet, oldJisX0208Set]

def korean : Variant := { sets := [ksX1001Set], shifts := true, hasRevisions := false }

end OAuthGrant.Text.Iso2022

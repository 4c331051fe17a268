import OAuthGrant.Text.CodeTable.KsX1001
import OAuthGrant.Text.Multibyte

/-!
# Korean character sets

KS X 1001 has a part of the syllables only. EUC-KR spells the others with letters, code page 949 has
further codes for them, and Johab composes every syllable of its three letters.
-/

namespace OAuthGrant.Text

def syllable (initial vowel final : Nat) : Char :=
  Char.ofNat (0xAC00 + initial * 588 + vowel * 28 + final)

/-- The letters of KS X 1001, from 0xA1 on, as initials. -/
def initialNumbers : List (Option Nat) :=
  [some 0, some 1, none, some 2, none, none, some 3, some 4, some 5, none, none, none, none, none, none,
   none, some 6, some 7, some 8, none, some 9, some 10, some 11, some 12, some 13, some 14, some 15,
   some 16, some 17, some 18]

/-- The letters of KS X 1001, from 0xA1 on, as finals. -/
def finalNumbers : List (Option Nat) :=
  [some 1, some 2, some 3, some 4, some 5, some 6, some 7, none, some 8, some 9, some 10, some 11,
   some 12, some 13, some 14, some 15, some 16, some 17, none, some 18, some 19, some 20, some 21,
   some 22, none, some 23, some 24, some 25, some 26, some 27]

/-- The first byte of all letters. -/
def letterByte : Nat := 0xA4

/-- The second byte of the letter that stands for none. -/
def fillerByte : Nat := 0xD4

def letterNumber? (numbers : List (Option Nat)) (c : Nat) : Option Nat :=
  if c < 0xA1 then none else numbers[c - 0xA1]?.join

/-- The syllable that three letters after a filler spell. -/
def spelled? : List Nat → Option Char
  | a :: initial :: b :: vowel :: c :: final :: _ =>
    if a = letterByte && b = letterByte && c = letterByte && 0xBF ≤ vowel && vowel ≤ 0xD3 then do
      let initial ← letterNumber? initialNumbers initial
      let final ← if final = fillerByte then some 0 else letterNumber? finalNumbers final
      some (syllable initial (vowel - 0xBF) final)
    else none
  | _ => none

/-- ASCII and KS X 1001, where other syllables are spelled. -/
def readEucKr : CharReader := asciiOr fun b rest =>
  if b = letterByte && rest.head? = some fillerByte then
    (spelled? (rest.drop 1)).map fun c => ([c], 7)
  else withNext loweredCode ksX1001.at? b rest

/-- The number of a further syllable in code page 949, whose second byte is a letter or has its high bit
set. The codes beyond 0xA1 leave room for KS X 1001. -/
def furtherNumber? (b c : Nat) : Option Nat :=
  let place :=
    if 0x41 ≤ c && c ≤ 0x5A then some (c - 0x41)
    else if 0x61 ≤ c && c ≤ 0x7A then some (c - 0x61 + 26)
    else if 0x81 ≤ c && c ≤ 0xFE then some (c - 0x81 + 52)
    else none
  place.bind fun place =>
    if b < 0x81 || 0xC6 < b then none
    else if b < 0xA1 then some ((b - 0x81) * 178 + place)
    else if place < 84 then some (32 * 178 + (b - 0xA1) * 84 + place)
    else none

/-- The code points of the syllables of KS X 1001 in ascending order. -/
def standardSyllables : List Nat :=
  ksX1001.flatMap fun run =>
    if 0x3021 ≤ run.1 && run.1 ≤ 0x487E then run.2.toList.map Char.toNat else []

/-- The number `n` of those from `next` on that are missing in an ascending list. -/
def missingFrom (n next : Nat) : List Nat → Nat
  | [] => next + n
  | m :: rest => if n < m - next then next + n else missingFrom (n - (m - next)) (m + 1) rest

/-- The further syllable of a number: they are in ascending order. -/
def furtherSyllable? (n : Nat) : Option Char :=
  let code := missingFrom n 0xAC00 standardSyllables
  if code ≤ 0xD7A3 then some (Char.ofNat code) else none

/-- The character of two bytes in code page 949. -/
def cp949Char? (b c : Nat) : Option Char :=
  (ksX1001.at? (loweredCode b c)).or ((furtherNumber? b c).bind furtherSyllable?)

/-- Code page 949 with ASCII. -/
def readCp949 : CharReader := asciiOr fun b rest =>
  (rest.head?.bind (cp949Char? b)).map fun c => ([c], 1)

/-- What five bits of a composed code stand for: a letter by its number as a part of a syllable and by
its code point when it stands alone. -/
inductive ComposedLetter where
  | absent
  | letter (number alone : Nat)

def composedInitial? (n : Nat) : Option ComposedLetter :=
  let alone := [0x3131, 0x3132, 0x3134, 0x3137, 0x3138, 0x3139, 0x3141, 0x3142, 0x3143, 0x3145, 0x3146,
    0x3147, 0x3148, 0x3149, 0x314A, 0x314B, 0x314C, 0x314D, 0x314E]
  if n = 1 then some .absent
  else if n < 2 then none
  else alone[n - 2]?.map fun c => .letter (n - 2) c

/-- The vowel of five bits, which come in groups with gaps between them. -/
def composedVowel? (n : Nat) : Option ComposedLetter :=
  let number? :=
    if 3 ≤ n && n ≤ 7 then some (n - 3)
    else if 10 ≤ n && n ≤ 15 then some (n - 5)
    else if 18 ≤ n && n ≤ 23 then some (n - 7)
    else if 26 ≤ n && n ≤ 29 then some (n - 9)
    else none
  if n = 2 then some .absent else number?.map fun k => .letter k (0x314F + k)

def composedFinal? (n : Nat) : Option ComposedLetter :=
  let alone := [0x3131, 0x3132, 0x3133, 0x3134, 0x3135, 0x3136, 0x3137, 0x3139, 0x313A, 0x313B, 0x313C,
    0x313D, 0x313E, 0x313F, 0x3140, 0x3141, 0x3142, 0x3144, 0x3145, 0x3146, 0x3147, 0x3148, 0x314A,
    0x314B, 0x314C, 0x314D, 0x314E]
  if n = 1 then some .absent
  else if n < 2 || n = 18 then none
  else
    let k := if n < 18 then n - 2 else n - 3
    alone[k]?.map fun c => .letter (k + 1) c

/-- The syllable of two bytes that compose it of three letters, or a letter that stands alone. -/
def composedChar? (b c : Nat) : Option Char := do
  match ← composedInitial? (b / 4 % 32), ← composedVowel? (b % 4 * 8 + c / 32),
    ← composedFinal? (c % 32) with
  | .absent, .absent, .absent => some '\u3000'
  | .absent, .absent, .letter _ alone => some (Char.ofNat alone)
  | .absent, .letter _ alone, .absent => some (Char.ofNat alone)
  | .letter _ alone, .absent, .absent => some (Char.ofNat alone)
  | .letter i _, .letter v _, .absent => some (syllable i v 0)
  | .letter i _, .letter v _, .letter f _ => some (syllable i v f)
  | _, _, _ => none

/-- The character of KS X 1001 that two bytes stand for in Johab; letters and syllables have none. -/
def johabSign? (b c : Nat) : Option Char :=
  if b < 0xD9 || b = 0xDF || 0xF9 < b || c < 0x31 || 0x80 ≤ c && c < 0x91 || c % 0x80 = 0x7F ||
      b = 0xDA && 0xA1 ≤ c && c ≤ 0xD3 then none
  else
    let row := if b < 0xE0 then 2 * (b - 0xD9) else 2 * b - 0x197
    let column := if c < 0x91 then c - 0x31 else c - 0x43
    let (row, column) := if column < 94 then (row, column) else (row + 1, column - 94)
    ksX1001.at? (pairCode (row + 0x21) (column + 0x21))

def readJohab : CharReader := asciiOr fun b rest =>
  (rest.head?.bind fun c => if b < 0xD8 then composedChar? b c else johabSign? b c).map
    fun c => ([c], 1)

end OAuthGrant.Text

/-!
# Hangul

A syllable has a leading consonant, a vowel and perhaps a trailing consonant, which are characters of
their own. The syllables stand in the order of these three, so that they need no table. Main statements:
`compose?_leading_vowel` and `compose?_trailing`, a syllable is composed of its parts.
-/

namespace OAuthGrant.Text.Hangul

def firstSyllable : Nat := 0xAC00

def firstLeading : Nat := 0x1100

def firstVowel : Nat := 0x1161

/-- The code point before the first trailing consonant. -/
def noTrailing : Nat := 0x11A7

def leadingCount : Nat := 19

def vowelCount : Nat := 21

/-- The number of trailing consonants, none being one of them. -/
def trailingCount : Nat := 28

/-- The number of syllables with the same leading consonant. -/
def sameLeadingCount : Nat := vowelCount * trailingCount

def syllableCount : Nat := leadingCount * sameLeadingCount

def isSyllable (n : Nat) : Bool := firstSyllable ≤ n && n < firstSyllable + syllableCount

def leading (n : Nat) : Nat := firstLeading + (n - firstSyllable) / sameLeadingCount

def vowel (n : Nat) : Nat := firstVowel + (n - firstSyllable) % sameLeadingCount / trailingCount

/-- Which trailing consonant a syllable has, zero if it has none. -/
def trailing (n : Nat) : Nat := (n - firstSyllable) % trailingCount

def decompose (n : Nat) : List Nat :=
  [leading n, vowel n] ++ if trailing n = 0 then [] else [noTrailing + trailing n]

/-- The syllable of two characters: of a leading consonant and a vowel, or of a syllable without a
trailing consonant and one. -/
def compose? (a b : Nat) : Option Nat :=
  if firstLeading ≤ a ∧ a < firstLeading + leadingCount ∧ firstVowel ≤ b ∧
      b < firstVowel + vowelCount then
    some (firstSyllable + ((a - firstLeading) * vowelCount + (b - firstVowel)) * trailingCount)
  else if isSyllable a = true ∧ trailing a = 0 ∧ noTrailing < b ∧ b < noTrailing + trailingCount then
    some (a + (b - noTrailing))
  else none

theorem isSyllable_iff {n : Nat} : isSyllable n = true ↔ 0xAC00 ≤ n ∧ n < 0xAC00 + 11172 := by
  rw [isSyllable, Bool.and_eq_true, decide_eq_true_iff, decide_eq_true_iff]
  exact Iff.rfl

theorem compose?_leading_vowel {n : Nat} (h : isSyllable n = true) :
    compose? (leading n) (vowel n) = some (n - trailing n) := by
  rw [isSyllable_iff] at h
  have fits : firstLeading ≤ leading n ∧ leading n < firstLeading + leadingCount ∧
      firstVowel ≤ vowel n ∧ vowel n < firstVowel + vowelCount := by
    simp only [leading, vowel, firstSyllable, firstLeading, firstVowel, sameLeadingCount,
      leadingCount, vowelCount, trailingCount]
    omega
  rw [compose?, if_pos fits, Option.some.injEq]
  simp only [leading, vowel, trailing, firstSyllable, firstLeading, firstVowel, sameLeadingCount,
    vowelCount, trailingCount]
  omega

/-- A syllable without a trailing consonant and a trailing consonant make one syllable. -/
theorem compose?_trailing {n : Nat} (h : isSyllable n = true) (ht : trailing n ≠ 0) :
    compose? (n - trailing n) (noTrailing + trailing n) = some n := by
  rw [isSyllable_iff] at h
  have tooLarge : ¬ (firstLeading ≤ n - trailing n ∧ n - trailing n < firstLeading + leadingCount ∧
      firstVowel ≤ noTrailing + trailing n ∧ noTrailing + trailing n < firstVowel + vowelCount) := by
    simp only [trailing, firstSyllable, firstLeading, leadingCount, trailingCount]
    omega
  have fits : isSyllable (n - trailing n) = true ∧ trailing (n - trailing n) = 0 ∧
      noTrailing < noTrailing + trailing n ∧
      noTrailing + trailing n < noTrailing + trailingCount := by
    rw [isSyllable_iff]
    simp only [trailing, firstSyllable, trailingCount] at ht ⊢
    omega
  rw [compose?, if_neg tooLarge, if_pos fits, Option.some.injEq]
  simp only [trailing, firstSyllable, trailingCount]
  omega

def leadingSpellings : List String :=
  ["G", "GG", "N", "D", "DD", "R", "M", "B", "BB", "S", "SS", "", "J", "JJ", "C", "K", "T", "P", "H"]

def vowelSpellings : List String :=
  ["A", "AE", "YA", "YAE", "EO", "E", "YEO", "YE", "O", "WA", "WAE", "OE", "YO", "U", "WEO", "WE",
   "WI", "YU", "EU", "YI", "I"]

/-- How the trailing consonants are spelled, none being the first. -/
def trailingSpellings : List String :=
  ["", "G", "GG", "GS", "N", "NJ", "NH", "D", "L", "LG", "LM", "LB", "LS", "LT", "LP", "LH", "M", "B",
   "BS", "S", "SS", "NG", "J", "C", "K", "T", "P", "H"]

/-- The longest of the spellings that a text starts with: its place in the list and its length. -/
def longest? (spellings : List String) (cs : List Char) : Option (Nat × Nat) :=
  spellings.zipIdx.foldl (fun found (s, place) =>
    if s.toList.isPrefixOf cs && found.all (·.2 < s.length) then some (place, s.length) else found)
    none

def ofSpelling? (cs : List Char) : Option Nat := do
  let (l, used) ← longest? leadingSpellings cs
  let cs := cs.drop used
  let (v, used) ← longest? vowelSpellings cs
  let cs := cs.drop used
  let (t, used) ← longest? trailingSpellings cs
  if cs.length = used then some (firstSyllable + (l * vowelCount + v) * trailingCount + t) else none

end OAuthGrant.Text.Hangul

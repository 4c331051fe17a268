import OAuthGrant.Text.Range

/-!
# Blank characters and words

A text is split into words at its blank characters: the white space of the Unicode standard and
the four separator controls U+001C to U+001F. Numbers written as text are trimmed by the narrower
class `isSpace`, which leaves these four controls out.
-/

namespace OAuthGrant.Text

/-- White space of the Unicode standard. -/
def spaces : List (Nat × Nat) :=
  [(0x9, 0xD), (0x20, 0x20), (0x85, 0x85), (0xA0, 0xA0), (0x1680, 0x1680), (0x2000, 0x200A),
   (0x2028, 0x2029), (0x202F, 0x202F), (0x205F, 0x205F), (0x3000, 0x3000)]

/-- White space of the Unicode standard. -/
def isSpace (c : Char) : Bool := inRanges spaces c.toNat

/-- White space, or one of the separator controls U+001C to U+001F. -/
def isBlank (c : Char) : Bool := isSpace c || inRanges [(0x1C, 0x1F)] c.toNat

theorem isBlank_of_isSpace {c : Char} (h : isSpace c = true) : isBlank c = true := by
  simp [isBlank, h]

/-- Splits at blank characters; `word` is the word read so far, and no empty word is kept. -/
def splitBlank (word : List Char) : List Char → List (List Char)
  | [] => if word = [] then [] else [word]
  | c :: cs =>
    if isBlank c then
      if word = [] then splitBlank [] cs else word :: splitBlank [] cs
    else splitBlank (word ++ [c]) cs

def words (s : String) : List String := (splitBlank [] s.toList).map String.ofList

@[simp] theorem words_empty : words "" = [] := rfl

/-- Drops the characters of a class from both ends. -/
def trim (p : Char → Bool) (cs : List Char) : List Char :=
  ((cs.dropWhile p).reverse.dropWhile p).reverse

end OAuthGrant.Text

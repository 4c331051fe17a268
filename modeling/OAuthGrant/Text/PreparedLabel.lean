import OAuthGrant.Text.Case
import OAuthGrant.Text.DecodingFault
import OAuthGrant.Text.Direction
import OAuthGrant.Text.NormalForm

/-!
# Prepared labels

Labels of domain names are compared in a prepared form, in which case and the ways to put a character
together do not count. A label with a character that none may have is refused, and so is one in which
the direction of writing changes.
-/

namespace OAuthGrant.Text.PreparedLabel

def ignoredRanges : List (Nat × Nat) :=
  [(0xAD, 0xAD), (0x34F, 0x34F), (0x1806, 0x1806), (0x180B, 0x180D), (0x200B, 0x200D),
   (0x2060, 0x2060), (0xFE00, 0xFE0F), (0xFEFF, 0xFEFF)]

def prohibitedRanges : List (Nat × Nat) :=
  [(0x80, 0xA0), (0x340, 0x341), (0x6DD, 0x6DD), (0x70F, 0x70F), (0x1680, 0x1680), (0x180E, 0x180E),
   (0x2000, 0x200F), (0x2028, 0x202F), (0x205F, 0x2063), (0x206A, 0x206F), (0x2FF0, 0x2FFB),
   (0x3000, 0x3000), (0xD800, 0xF8FF), (0xFDD0, 0xFDEF), (0xFEFF, 0xFEFF), (0xFFF9, 0xFFFF),
   (0x1D173, 0x1D17A), (0x1FFFE, 0x1FFFF), (0x2FFFE, 0x2FFFF), (0x3FFFE, 0x3FFFF),
   (0x4FFFE, 0x4FFFF), (0x5FFFE, 0x5FFFF), (0x6FFFE, 0x6FFFF), (0x7FFFE, 0x7FFFF),
   (0x8FFFE, 0x8FFFF), (0x9FFFE, 0x9FFFF), (0xAFFFE, 0xAFFFF), (0xBFFFE, 0xBFFFF),
   (0xCFFFE, 0xCFFFF), (0xDFFFE, 0xDFFFF), (0xE0001, 0xE0001), (0xE0020, 0xE007F),
   (0xEFFFE, 0x10FFFF)]

/-- Whether a character does not count. -/
def isIgnored (c : Char) : Bool := inRanges ignoredRanges c.toNat

/-- Whether no label may have a character. -/
def isProhibited (c : Char) : Bool := inRanges prohibitedRanges (codePoint c)

/-- Characters that only differ in case from others than their lower case, with these. -/
def foldedSpecially : List (Char × List Char) :=
  [('ß', ['s', 's']), ('ẞ', ['s', 's']), ('ς', ['σ']), ('Ϲ', ['σ']), (Char.ofNat 0x345, ['ι'])]

/-- A character with its case taken away. -/
def folded (c : Char) : List Char := (foldedSpecially.lookup c).getD (lowerChar c)

/-- A label in which case and the ways to put a character together do not count any more. -/
def mapped (label : List Char) : List Char :=
  normalForm (((label.filter fun c => !isIgnored c).flatMap decomposed).flatMap folded)

/-- A label that is written in one direction: if a character is written from right to left, so are the
first and the last one, and none is written from left to right. -/
def inOneDirection (label : List Char) : Except DecodingFault (List Char) :=
  if !label.any isRightToLeft then .ok label
  else if label.any isLeftToRight then .error .mixedDirections
  else if label.head?.all isRightToLeft && label.getLast?.all isRightToLeft then .ok label
  else .error .changedDirection

def ofLabel (label : List Char) : Except DecodingFault (List Char) :=
  match (mapped label).find? isProhibited with
  | some c => .error (.prohibited c)
  | none => inOneDirection (mapped label)

end OAuthGrant.Text.PreparedLabel

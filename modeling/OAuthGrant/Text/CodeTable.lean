/-!
# Tables of characters by their codes

A table lists characters in runs of consecutive codes. Where the characters of a run are consecutive
too, a range says the same in three numbers. A code that stands in no run has no character.
-/

namespace OAuthGrant.Text

/-- Runs of characters with consecutive codes, each with the code of its first character, in ascending
order. -/
abbrev CodeTable := List (Nat × String)

/-- The character of a code. -/
def CodeTable.at? : CodeTable → Nat → Option Char
  | [], _ => none
  | (first, characters) :: rest, code =>
    if code < first then none
    else if code < first + characters.length then characters.toList[code - first]?
    else CodeTable.at? rest code

/-- As many codes from the first one on as the range counts, which stand for the code points from
`image` on. -/
structure CodeRange where
  first : Nat
  count : Nat
  image : Nat

def CodeRange.at? (ranges : List CodeRange) (code : Nat) : Option Char :=
  (ranges.find? fun r => r.first ≤ code && code < r.first + r.count).map fun r =>
    Char.ofNat (r.image + (code - r.first))

@[simp] theorem CodeTable.at?_nil (code : Nat) : CodeTable.at? [] code = none := rfl

@[simp] theorem CodeRange.at?_nil (code : Nat) : CodeRange.at? [] code = none := rfl

end OAuthGrant.Text

import OAuthGrant.Text.Pieces

/-!
# Texts by code point

A table lists texts in rows. A row has the texts of consecutive code points, separated by a pilcrow;
where a code point has no text, nothing stands between the separators.
-/

namespace OAuthGrant.Text

/-- Rows of texts, each with the code point of its first text, in ascending order. -/
abbrev TextTable := List (Nat × String)

namespace TextTable

def separator : Char := '¶'

/-- The row of a code point: the last that does not start after it. -/
def row? (table : TextTable) (n : Nat) : Option (Nat × String) :=
  (table.takeWhile fun r => r.1 ≤ n).getLast?

def at? (table : TextTable) (n : Nat) : Option (List Char) := do
  let (first, texts) ← table.row? n
  let text ← (pieces separator texts.toList)[n - first]?
  if text = [] then none else some text

@[simp] theorem at?_nil (n : Nat) : at? [] n = none := rfl

end TextTable
end OAuthGrant.Text

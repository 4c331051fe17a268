import OAuthGrant.Text.Percent
import OAuthGrant.Text.Pieces
import OAuthGrant.Value.Basic

/-!
# Encoded entries

Entries of a query or a form in one line of text: they are separated by `&`, the first `=` of an entry
ends its name, a plus sign is a space, and the rest is percent-escaped. An empty piece is no entry; a
piece without `=` has an empty value.
-/

namespace OAuthGrant.Http.Urlencoded

/-- The text that a part of an entry stands for. -/
def decode (cs : List Char) : String :=
  String.ofList (Text.unescape (cs.map fun c => if c = '+' then ' ' else c))

def entry (piece : List Char) : String × Value :=
  (decode (piece.takeWhile (· ≠ '=')), .text (decode ((piece.dropWhile (· ≠ '=')).drop 1)))

def entries (cs : List Char) : List (String × Value) :=
  ((Text.pieces '&' cs).filter (· ≠ [])).map entry

/-- The number of entries that are complete although the text has been cut off. -/
def completeEntries (cs : List Char) : Nat := ((Text.pieces '&' cs).dropLast.filter (· ≠ [])).length

@[simp] theorem entries_nil : entries [] = [] := rfl

end OAuthGrant.Http.Urlencoded

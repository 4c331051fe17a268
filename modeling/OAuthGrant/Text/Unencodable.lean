import OAuthGrant.Text.Quoted

/-!
# Characters without bytes

A set does not have bytes for every character. `Unencodable.find?` gives the first run of characters of
a text that have none, and `Unencodable.text` is the wording of it.
-/

namespace OAuthGrant.Text

/-- Characters that a set has no bytes for: from where to where they stand in a text, and the first of
them. -/
structure Unencodable where
  set : String
  reason : String
  first : Nat
  last : Nat
  character : Char
  deriving DecidableEq, Repr

namespace Unencodable

/-- The first run of characters that do not fit into a set. -/
def find? (set reason : String) (fits : Char → Bool) (cs : List Char) : Option Unencodable :=
  match cs.dropWhile fits with
  | [] => none
  | c :: rest =>
    let first := (cs.takeWhile fits).length
    some ⟨set, reason, first, first + (rest.takeWhile fun c => !fits c).length, c⟩

/-- The characters of a text that no byte stands for. -/
def inLatin1? (s : String) : Option Unencodable :=
  find? "latin-1" "ordinal not in range(256)" (fun c => decide (c.toNat < 256)) s.toList

/-- The surrogates of a text, which have no bytes in UTF-8. -/
def inUtf8? (s : String) : Option Unencodable :=
  find? "utf-8" "surrogates not allowed" (fun c => !isStandIn c) s.toList

/-- The wording of characters without bytes. -/
def text (u : Unencodable) : String :=
  "'" ++ u.set ++ "' codec can't encode character" ++
    (if u.first = u.last then " '" ++ String.ofList (escapeCode u.character) ++ "' in position " ++
        toString u.first
      else "s in position " ++ toString u.first ++ "-" ++ toString u.last) ++ ": " ++ u.reason

theorem find?_eq_none_iff {set reason : String} {fits : Char → Bool} {cs : List Char} :
    find? set reason fits cs = none ↔ ∀ c ∈ cs, fits c = true := by
  induction cs with
  | nil => simp [find?]
  | cons c cs ih =>
    by_cases h : fits c = true
    · simp only [find?, List.dropWhile_cons, h, if_true, List.mem_cons, forall_eq_or_imp, true_and]
        at ih ⊢
      rw [← ih]
      cases cs.dropWhile fits <;> simp
    · simp [find?, h]

/-- A text has bytes in UTF-8 if it is made of characters only. -/
theorem inUtf8?_eq_none_iff {s : String} : inUtf8? s = none ↔ isWhole s = true := by
  simp [inUtf8?, find?_eq_none_iff, isWhole]

end Unencodable
end OAuthGrant.Text

import OAuthGrant.Text.CombiningClass
import OAuthGrant.Text.CompositionTable
import OAuthGrant.Text.DecompositionTable
import OAuthGrant.Text.Hangul

/-!
# Normal form of a text

Texts that differ only in how their characters are put together have one form: every character is
decomposed, the characters that combine with the one before them are put in the order of their classes,
and what can be composed is composed again. Main statement: `perm_ordered`, the second step only moves
characters.
-/

namespace OAuthGrant.Text

/-- The parts of a character: what it is made of, or what it is another form of. -/
def decomposed (c : Char) : List Char :=
  if Hangul.isSyllable c.toNat then (Hangul.decompose c.toNat).map Char.ofNat
  else (decompositions.at? c.toNat).getD [c]

/-- What the first character makes, in a list of first characters each before what it makes. -/
def madeWith? (a : Char) : List Char → Option Char
  | first :: made :: rest => if first = a then some made else madeWith? a rest
  | _ => none

/-- The character that two characters make. -/
def composed? (a b : Char) : Option Char :=
  match Hangul.compose? a.toNat b.toNat with
  | some n => some (Char.ofNat n)
  | none => compositions.findSome? fun (second, firsts) =>
    if second = b.toNat then madeWith? a firsts.toList else none

/-- Puts a character in its place after a text in reverse: before the characters of higher classes that
the text ends with. -/
def placeMark (c : Char) : List Char → List Char
  | [] => [c]
  | d :: rest =>
    if combiningClass c ≠ 0 ∧ combiningClass c < combiningClass d then d :: placeMark c rest
    else c :: d :: rest

/-- A text with the characters that combine in the order of their classes. -/
def ordered (cs : List Char) : List Char := (cs.foldl (fun read c => placeMark c read) []).reverse

theorem perm_placeMark (c : Char) (read : List Char) : (placeMark c read).Perm (c :: read) := by
  induction read with
  | nil => exact .refl _
  | cons d rest ih =>
    rw [placeMark]
    split
    · exact (ih.cons d).trans (.swap c d rest)
    · exact .refl _

/-- Ordering a text moves its characters and changes none. -/
theorem perm_ordered (cs : List Char) : (ordered cs).Perm cs := by
  have h : ∀ read, (cs.foldl (fun read c => placeMark c read) read).Perm (cs.reverse ++ read) := by
    induction cs with
    | nil => exact fun read => .refl _
    | cons c cs ih =>
      intro read
      simp only [List.foldl_cons, List.reverse_cons, List.append_assoc]
      exact (ih _).trans ((perm_placeMark c read).append_left _)
  refine (List.reverse_perm _).trans ((h []).trans ?_)
  simp

/-- Composes a text from a character on: `kept` are the characters after it in reverse that it has not
been composed with, `last` is the class of the last one, and `read` is the text before it in reverse. A
character is out of reach behind one of the same class, or behind any one if it does not combine. -/
def composeAfter (read : List Char) (start : Char) (kept : List Char) (last : Nat) :
    List Char → List Char
  | [] => (kept ++ start :: read).reverse
  | c :: rest =>
    let k := combiningClass c
    match if last = 0 || last < k then composed? start c else none with
    | some made => composeAfter read made kept last rest
    | none =>
      if k = 0 then composeAfter (kept ++ start :: read) c [] 0 rest
      else composeAfter read start (c :: kept) k rest

/-- A text with all characters composed that can be. -/
def composed : List Char → List Char
  | [] => []
  | c :: rest => composeAfter [] c [] 0 rest

/-- The normal form of a text, in which a character that is only another form of others is these. -/
def normalForm (cs : List Char) : List Char := composed (ordered (cs.flatMap decomposed))

@[simp] theorem normalForm_nil : normalForm [] = [] := rfl

end OAuthGrant.Text

/-!
# Characters of several bytes

A reader of characters looks at a byte and the bytes after it. It gives the code points that this byte
stands for together with some of the bytes after it, and how many of these there are. `readAll` puts
one reading after the other.
-/

namespace OAuthGrant.Text

/-- Reads what a byte stands for, perhaps together with some of the bytes after it. -/
abbrev CharReader := Nat → List Nat → Option (List Char × Nat)

/-- Reads bytes to their end; `read` is the text so far in reverse. -/
def readAll (next : CharReader) (read : List Char) (bytes : List Nat) : Option (List Char) :=
  match bytes with
  | [] => some read.reverse
  | b :: rest =>
    match next b rest with
    | some (cs, used) => readAll next (cs.reverse ++ read) (rest.drop used)
    | none => none
termination_by bytes.length
decreasing_by simp only [List.length_cons, List.length_drop]; omega

@[simp] theorem readAll_nil (next : CharReader) (read : List Char) :
    readAll next read [] = some read.reverse := by rw [readAll]

/-- The character that a byte stands for alone. -/
def single (c : Char) : Option (List Char × Nat) := some ([c], 0)

def pairCode (b c : Nat) : Nat := b * 256 + c

/-- The code of two bytes without their high bits. -/
def loweredCode (b c : Nat) : Nat := pairCode (b ^^^ 0x80) (c ^^^ 0x80)

/-- The character that a byte stands for together with the one after it, by the code of the two. -/
def withNext (code : Nat → Nat → Nat) (char? : Nat → Option Char) : CharReader := fun b rest =>
  (rest.head?.bind fun c => char? (code b c)).map fun c => ([c], 1)

/-- ASCII for the bytes below 0x80, another reading for all others. -/
def asciiOr (other : CharReader) : CharReader := fun b rest =>
  if b < 0x80 then single (Char.ofNat b) else other b rest

/-- A set of ASCII and characters of two bytes. -/
def asciiOrPair (char? : Nat → Option Char) : CharReader := asciiOr (withNext pairCode char?)

end OAuthGrant.Text

import OAuthGrant.Text.CharacterName
import OAuthGrant.Text.Hex
import OAuthGrant.Text.Surrogate

/-!
# Text with escapes

Bytes that stand for the characters of the same number, but for a backslash, which starts an escape: a
letter, the number of a character, or its name in braces. In the short form only the two escapes of a
code point count. A backslash that starts none stands for itself.
-/

namespace OAuthGrant.Text.Escaped

/-- The character of `digits` hexadecimal digits. -/
def hexChar? (digits : Nat) (cs : List Char) : Option Char := do
  let values ← (cs.take digits).mapM hexValue?
  let n := values.foldl (fun n d => 16 * n + d) 0
  if values.length = digits then ofCodePoint? n else none

def letters : List (Char × Char) :=
  [('\\', '\\'), ('\'', '\''), ('"', '"'), ('b', '\x08'), ('f', '\x0c'), ('t', '\t'), ('n', '\n'),
   ('r', '\r'), ('v', '\x0b'), ('a', '\x07')]

def isOctal (c : Char) : Bool := '0' ≤ c && c ≤ '7'

/-- The character of a name in braces, and how many characters these take up. -/
def namedChar? (cs : List Char) : Option (Char × Nat) :=
  match cs with
  | '\x7b' :: rest =>
    let name := rest.takeWhile (· ≠ '\x7d')
    if name = [] || name.length = rest.length then none
    else (CharacterName.find? name).map fun c => (c, name.length + 2)
  | _ => none

/-- What an escape stands for and how many characters after the backslash it takes up; `cs` is not
empty. -/
def escape? (cs : List Char) : Option (List Char × Nat) :=
  match cs with
  | [] => none
  | c :: rest =>
    if c = '\n' then some ([], 1)
    else if isOctal c then
      let digits := (cs.take 3).takeWhile isOctal
      some ([Char.ofNat (digits.foldl (fun n d => 8 * n + (d.toNat - 48)) 0)], digits.length)
    else if c = 'x' then (hexChar? 2 rest).map fun c => ([c], 3)
    else if c = 'u' then (hexChar? 4 rest).map fun c => ([c], 5)
    else if c = 'U' then (hexChar? 8 rest).map fun c => ([c], 9)
    else if c = 'N' then (namedChar? rest).map fun (c, used) => ([c], used + 1)
    else match letters.lookup c with
    | some d => some ([d], 1)
    | none => some (['\\', c], 1)

/-- What an escape of the short form stands for, with its length; any other two characters stand for
themselves, and so does a backslash at the end. -/
def shortEscape? : List Char → Option (List Char × Nat)
  | [] => some (['\\'], 0)
  | 'u' :: rest => (hexChar? 4 rest).map fun c => ([c], 5)
  | 'U' :: rest => (hexChar? 8 rest).map fun c => ([c], 9)
  | c :: _ => some (['\\', c], 1)

/-- Reads a text to its end; `read` is what has been read so far in reverse. -/
def readAll (escape? : List Char → Option (List Char × Nat)) (read : List Char) (cs : List Char) :
    Option (List Char) :=
  match cs with
  | [] => some read.reverse
  | c :: rest =>
    if c = '\\' then
      match escape? rest with
      | some (made, used) => readAll escape? (made.reverse ++ read) (rest.drop used)
      | none => none
    else readAll escape? (c :: read) rest
termination_by cs.length
decreasing_by all_goals (simp only [List.length_cons, List.length_drop]; omega)

def long? (cs : List Char) : Option (List Char) := readAll escape? [] cs

/-- The text of characters with escapes of the short form. -/
def short? (cs : List Char) : Option (List Char) := readAll shortEscape? [] cs

end OAuthGrant.Text.Escaped

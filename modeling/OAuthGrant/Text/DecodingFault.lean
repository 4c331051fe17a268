import OAuthGrant.Text.Quoted

/-!
# Faults in encoded text

Why bytes are no text in a set, by its cause. Most sets only tell that they are none, which is
`notText`; the wording of all other causes is `DecodingFault.text`. Such a cause keeps bytes from being
read at all, which is an `Undecodable`.
-/

namespace OAuthGrant.Text

/-- Why bytes are no text in a set. The causes after the third are those of encoded labels. -/
inductive DecodingFault where
  | notText
  | setWithoutText
  | misplacedSet
  | numberCutOff
  | notADigit (character : Char)
  | beyondLast (codePoint : Nat)
  | labelSize
  | markedLabel
  | mixedDirections
  | changedDirection
  | prohibited (character : Char)
  | changedLabel (label restored : List UInt8)
  | inLabel (fault : DecodingFault)
  deriving DecidableEq, Repr

namespace DecodingFault

def name : DecodingFault → String
  | misplacedSet => "RuntimeError"
  | _ => "UnicodeError"

/-- A fault with the set it occurred in, as the cause of another one. -/
def causedIn (set name text : String) : String :=
  "decoding with '" ++ set ++ "' codec failed (" ++ name ++ ": " ++ text ++ ")"

def text : DecodingFault → String
  | notText => "not text"
  | setWithoutText => "undefined encoding"
  | misplacedSet => "internal codec error"
  | numberCutOff => "incomplete punicode string"
  | notADigit c => "Invalid extended code point '" ++ String.ofList [c] ++ "'"
  | beyondLast n => "Invalid character U+" ++ String.ofList (Nat.toDigits 16 n)
  | labelSize => "label empty or too long"
  | markedLabel => "Label starts with ACE prefix"
  | mixedDirections => "Violation of BIDI requirement 2"
  | changedDirection => "Violation of BIDI requirement 3"
  | prohibited c => "Invalid character " ++ quote (String.ofList [c])
  | changedLabel label restored =>
    "('IDNA does not round-trip', " ++ quoteBytes label ++ ", " ++ quoteBytes restored ++ ")"
  | inLabel fault => causedIn "punycode" fault.name fault.text

/-- The text of a fault in a set of the given name. A changed label is reported as it is. -/
def textIn (set : String) : DecodingFault → String
  | changedLabel label restored => (changedLabel label restored).text
  | fault => causedIn set fault.name fault.text

end DecodingFault

/-- Why bytes cannot be read in a set that was asked for by a name. -/
inductive Undecodable where
  | unusableName
  | refused (set : String) (fault : DecodingFault)
  deriving DecidableEq, Repr

namespace Undecodable

/-- The name of a kind of failure to read. -/
def name : Undecodable → String
  | unusableName => "ValueError"
  | refused _ fault => fault.name

def text : Undecodable → String
  | unusableName => "embedded null character"
  | refused set fault => fault.textIn set

end Undecodable

end OAuthGrant.Text

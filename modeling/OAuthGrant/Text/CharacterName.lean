import OAuthGrant.Text.CharacterName.Aegean
import OAuthGrant.Text.CharacterName.Alias
import OAuthGrant.Text.CharacterName.Bamum
import OAuthGrant.Text.CharacterName.Brahmic
import OAuthGrant.Text.CharacterName.Cuneiform
import OAuthGrant.Text.CharacterName.EastAsian
import OAuthGrant.Text.CharacterName.European
import OAuthGrant.Text.CharacterName.Geometric
import OAuthGrant.Text.CharacterName.Hieroglyphic
import OAuthGrant.Text.CharacterName.Historic
import OAuthGrant.Text.CharacterName.Insular
import OAuthGrant.Text.CharacterName.MiddleEastern
import OAuthGrant.Text.CharacterName.Modern
import OAuthGrant.Text.CharacterName.Notation
import OAuthGrant.Text.CharacterName.Phonetic
import OAuthGrant.Text.CharacterName.Pictographic
import OAuthGrant.Text.CharacterName.Presentation
import OAuthGrant.Text.CharacterName.Semitic
import OAuthGrant.Text.CharacterName.SignWriting
import OAuthGrant.Text.CharacterName.SouthAsian
import OAuthGrant.Text.CharacterName.SoutheastAsian
import OAuthGrant.Text.CharacterName.Supplementary
import OAuthGrant.Text.CharacterName.Syllabic
import OAuthGrant.Text.CharacterName.Technical
import OAuthGrant.Text.CharacterName.Yi
import OAuthGrant.Text.Hangul
import OAuthGrant.Text.Hex
import OAuthGrant.Text.Range

/-!
# Names of characters

`CharacterName.find?` gives the character of a name. Most names stand in tables; those of the syllables
of Hangul are spelled, and those of ideographs end in the number of their code point. Only names from
the tables are known in small letters too.
-/

namespace OAuthGrant.Text.CharacterName

def tables : List (List NameRun) :=
  [europeanNames, middleEasternNames, southAsianNames, southeastAsianNames, syllabicNames,
   insularNames, phoneticNames, technicalNames, geometricNames, historicNames, eastAsianNames,
   yiNames, modernNames, presentationNames, aegeanNames, semiticNames, brahmicNames,
   cuneiformNames, hieroglyphicNames, bamumNames, notationNames, signWritingNames,
   pictographicNames, supplementaryNames]

/-- What the name of a syllable starts with. -/
def syllableStart : String := "HANGUL SYLLABLE "

def ideographStart : String := "CJK UNIFIED IDEOGRAPH-"

/-- The unified ideographs. -/
def ideographRanges : List (Nat × Nat) :=
  [(0x3400, 0x4DBF), (0x4E00, 0x9FFF), (0x20000, 0x2A6DF), (0x2A700, 0x2B738), (0x2B740, 0x2B81D),
   (0x2B820, 0x2CEA1), (0x2CEB0, 0x2EBE0), (0x30000, 0x3134A)]

/-- Other characters whose names end in the number of their code point: what the names start with, and
the ranges. -/
def numbered : List (String × List (Nat × Nat)) :=
  [("CJK COMPATIBILITY IDEOGRAPH-", [(0xF900, 0xFA6D), (0xFA70, 0xFAD9), (0x2F800, 0x2FA1D)]),
   ("KHITAN SMALL SCRIPT CHARACTER-", [(0x18B00, 0x18CD5)]),
   ("NUSHU CHARACTER-", [(0x1B170, 0x1B2FB)])]

/-- A number in hexadecimal, in capital letters. -/
def number? (cs : List Char) : Option Nat := do
  if cs.any Char.isLower then none
  let values ← cs.mapM hexValue?
  some (values.foldl (fun n d => 16 * n + d) 0)

/-- The unified ideograph of a number with four or five digits. -/
def ideograph? (cs : List Char) : Option Nat :=
  if cs.length = 4 || cs.length = 5 then (number? cs).filter (inRanges ideographRanges) else none

/-- The code point of a name that ends in its number. -/
def numbered? (name : List Char) : Option Nat :=
  numbered.findSome? fun (start, ranges) => do
    let digits ← afterStart? start.toList name
    let n ← number? digits
    if inRanges ranges n && digits.length = (if n < 0x10000 then 4 else 5) then some n else none

/-- The code point with a further name. -/
def alias? (name : List Char) : Option Nat :=
  (aliases.find? fun a => (pieces ',' a.2.toList).contains name).map Prod.fst

/-- The code point of a name in a list of runs. -/
def inRuns? (runs : List NameRun) (name : List Char) : Option Nat :=
  runs.findSome? fun r => r.find? name

/-- The code point of a name in capital letters that stands in a table or ends in a number. -/
def listed? (name : List Char) : Option Nat :=
  match tables.findSome? fun runs => inRuns? runs name with
  | some n => some n
  | none =>
    match numbered? name with
    | some n => some n
    | none =>
      match alias? name with
      | some n => some n
      | none => inRuns? selectorNames name

def codePoint? (name : List Char) : Option Nat :=
  match afterStart? syllableStart.toList name with
  | some spelling => Hangul.ofSpelling? spelling
  | none =>
    match afterStart? ideographStart.toList name with
    | some digits => ideograph? digits
    | none => listed? (name.map Char.toUpper)

def find? (name : List Char) : Option Char := (codePoint? name).map Char.ofNat

end OAuthGrant.Text.CharacterName

import OAuthGrant.Text.CaseTable

/-!
# Full case mapping

`lower` and `upper` map whole texts as the Unicode standard lays down, one character to several
where the standard says so. A capital sigma becomes the final form at the end of a word, which is
the one place where the neighbours of a character matter.
-/

namespace OAuthGrant.Text

/-- The image of a code point under a table of runs and a table of longer images. -/
def mapCase (runs : List CaseRun) (several : List (Nat × List Nat)) (c : Char) : List Char :=
  match several.lookup c.toNat with
  | some image => image.map Char.ofNat
  | none =>
    match runs.find? fun r =>
        r.first ≤ c.toNat && c.toNat ≤ r.last && (c.toNat - r.first) % r.stride == 0 with
    | some r => [Char.ofNat (r.image + (c.toNat - r.first))]
    | none => [c]

/-- The lower case of one character, apart from its neighbours. -/
def lowerChar (c : Char) : List Char :=
  if c.toNat < 0x80 then [c.toLower] else mapCase lowerRuns lowerSeveral c

def upperChar (c : Char) : List Char :=
  if c.toNat < 0x80 then [c.toUpper] else mapCase upperRuns upperSeveral c

/-- Whether the first character that is not ignorable is cased. -/
def startsCased : List Char → Bool
  | [] => false
  | c :: cs => if inRanges caseIgnorable c.toNat then startsCased cs else inRanges cased c.toNat

/-- Lower case of a text whose part before has ended in a cased character or not. -/
def lowerAfter (afterCased : Bool) : List Char → List Char
  | [] => []
  | c :: cs =>
    (if c = 'Σ' then [if afterCased && !startsCased cs then 'ς' else 'σ'] else lowerChar c) ++
      lowerAfter
        (if inRanges caseIgnorable c.toNat then afterCased else inRanges cased c.toNat) cs

def lower (s : String) : String := String.ofList (lowerAfter false s.toList)

def upper (s : String) : String := String.ofList (s.toList.flatMap upperChar)

@[simp] theorem lower_empty : lower "" = "" := rfl

@[simp] theorem upper_empty : upper "" = "" := rfl

/-- Lower case of the ASCII letters only. -/
def lowerAscii (s : String) : String := s.map Char.toLower

end OAuthGrant.Text

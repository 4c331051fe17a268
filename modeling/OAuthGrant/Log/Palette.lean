/-!
# Colours of the log

Every party and every kind of line has a colour, written as terminal escape sequences. A name
without a colour of its own has the colour of plain information.
-/

namespace OAuthGrant.Log

/-- The escape sequence that selects a rendition. -/
def escape (code : Nat) : String := "\x1b[" ++ toString code ++ "m"

def bright : String := escape 1

def dim : String := escape 2

def reset : String := escape 0

def plain : String := escape 36

def colours : List (String × String) :=
  [("CLIENT", escape 34 ++ bright), ("TOKEN-ENDPOINT", escape 32 ++ bright),
   ("AUTH-AUTHORITY", escape 33 ++ bright), ("AUTH-STORAGE", escape 36 ++ bright),
   ("SYSTEM", escape 35 ++ bright), ("ERROR", escape 31 ++ bright),
   ("SUCCESS", escape 32 ++ bright), ("INFO", plain), ("HEADER", escape 37 ++ bright),
   ("SEPARATOR", escape 37 ++ dim), ("RESET", reset)]

def colour (name : String) : String := (colours.lookup name).getD plain

def paint (name text : String) : String := colour name ++ text ++ reset

end OAuthGrant.Log

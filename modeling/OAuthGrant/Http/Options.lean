import OAuthGrant.Text.Blank
import OAuthGrant.Text.Case

/-!
# Header values with options

A header value such as `form-data; name="scope"` is a word and named options after it. An option may
stand between quotes, where a semicolon ends nothing and a backslash keeps a quote. Only spaces and
tabs are blank here.
-/

namespace OAuthGrant.Http

/-- A header value: its word in lower case and its options. -/
structure HeaderOptions where
  word : String
  options : List (String × String)
  deriving DecidableEq, Repr

namespace HeaderOptions

/-- Splits at the semicolons that are not between quotes. `piece` is the present piece in reverse. -/
def split (quoted : Bool) (piece : List Char) : List Char → List (List Char)
  | [] => [piece.reverse]
  | c :: cs =>
    if c = ';' && !quoted then piece.reverse :: split false [] cs
    else split (if c = '"' && piece.head? ≠ some '\\' then !quoted else quoted) (c :: piece) cs

def isPadding (c : Char) : Bool := c = ' ' || c = '\t'

/-- A text without spaces and tabs at its ends. -/
def strip (cs : List Char) : List Char := Text.trim isPadding cs

/-- Resolves a backslash before a backslash. -/
def dropEscapes : List Char → List Char
  | '\\' :: '\\' :: rest => '\\' :: dropEscapes rest
  | c :: rest => c :: dropEscapes rest
  | [] => []

def dropQuoteEscapes : List Char → List Char
  | '\\' :: '"' :: rest => '"' :: dropQuoteEscapes rest
  | c :: rest => c :: dropQuoteEscapes rest
  | [] => []

/-- A text without the quotes around it. -/
def unquote (cs : List Char) : List Char :=
  if 2 ≤ cs.length && cs.head? = some '"' && cs.getLast? = some '"' then
    dropQuoteEscapes (dropEscapes (cs.drop 1).dropLast)
  else cs

/-- An option, its name in lower case. One without an equals sign is a name as it stands, with an empty
value. -/
def option (piece : List Char) : String × String :=
  match piece.dropWhile (· ≠ '=') with
  | [] => (String.ofList (strip piece), "")
  | _ :: value =>
    (Text.lower (String.ofList (strip (piece.takeWhile (· ≠ '=')))),
      String.ofList (unquote (strip value)))

def ofText (s : String) : HeaderOptions :=
  match split false [] s.toList with
  | [] => ⟨"", []⟩
  | word :: options => ⟨Text.lower (String.ofList (strip word)), options.map option⟩

/-- The last option of a name. -/
def find? (h : HeaderOptions) (name : String) : Option String := h.options.reverse.lookup name

end HeaderOptions
end OAuthGrant.Http

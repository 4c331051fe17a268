import OAuthGrant.Client
import OAuthGrant.Text.Case

/-!
# HTTP requests

A request as the endpoint receives it: the decoded path, the headers in order, the body as far as it
has arrived, and the client that an earlier layer may have attached.
-/

namespace OAuthGrant.Http

/-- A request. Its body arrives in chunks and is interrupted if the client went away before the end. -/
structure Request where
  method : String
  path : String
  query : String := ""
  headers : List (String × String) := []
  chunks : List (List UInt8) := []
  interrupted : Bool := false
  attachedClient : Option ClientIdentity := none

namespace Request

def body (r : Request) : List UInt8 := r.chunks.flatten

/-- The first header of a name, in any case. -/
def header? (r : Request) (name : String) : Option String :=
  (r.headers.find? fun h => Text.lower h.1 == Text.lower name).map Prod.snd

/-- A character of a path as it stands in an address: the characters that would end the path are
escaped, and line breaks and tabs are dropped. -/
def addressChar (c : Char) : List Char :=
  if c = '?' then ['%', '3', 'F']
  else if c = '#' then ['%', '2', '3']
  else if c = '\\' then ['%', '5', 'C']
  else if c = '\t' || c = '\r' || c = '\n' then []
  else [c]

/-- The path of the address of a request. It starts with a slash unless it is empty. -/
def addressPath (r : Request) : String :=
  let cs := r.path.toList
  String.ofList ((if cs = [] ∨ cs.head? = some '/' then cs else '/' :: cs).flatMap addressChar)

end Request
end OAuthGrant.Http

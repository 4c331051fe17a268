import OAuthGrant.Failure
import OAuthGrant.Value.Json

/-!
# HTTP responses

A response with its status, its headers under lower-case names, and its body as text. The body is sent
as UTF-8, so that a text with a surrogate cannot be one, and a value can only be one if it can be
written.
-/

namespace OAuthGrant.Http

structure Response where
  status : Nat
  headers : List (String × String)
  body : String
  deriving DecidableEq, Repr

namespace Response

def setDefault (r : Response) (header : String × String) : Response :=
  if (r.headers.lookup header.1).isSome then r else { r with headers := r.headers ++ [header] }

def ofText (status : Nat) (contentType body : String) (headers : List (String × String)) :
    Response :=
  ⟨status, headers ++ [("content-length", toString body.utf8ByteSize),
    ("content-type", contentType)], body⟩

def ofValue (status : Nat) (headers : List (String × String)) (v : Value) : Response :=
  ofText status "application/json" v.json headers

/-- A response that can be sent, because its body has bytes. -/
def sendable (r : Response) : Except Failure Response :=
  match Text.Unencodable.inUtf8? r.body with
  | none => .ok r
  | some characters => .error (.unencodable characters)

/-- The response with a value as its JSON body, if it can be written and sent. -/
def ofJson (status : Nat) (headers : List (String × String)) (v : Value) : Except Failure Response := do
  let response ← Failure.writing v.isWritable (ofValue status headers v)
  response.sendable

end Response
end OAuthGrant.Http

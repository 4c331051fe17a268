import OAuthGrant.Http.Multipart
import OAuthGrant.Http.Request
import OAuthGrant.Http.Urlencoded

/-!
# The form of a request

The content type tells how the body is a form. A body of any other type is not read and gives an
empty form. A fault in what has arrived counts before the interruption of the rest.
-/

namespace OAuthGrant.Http

/-- The fields of a form in order, with their values. -/
abbrev Form := List (String × Value)

namespace Form

/-- The names of the fields, each once, in the order of their first occurrence. -/
def names (form : Form) : List String :=
  form.foldl (fun names e => if names.contains e.1 then names else names ++ [e.1]) []

def valuesOf (form : Form) (name : String) : List Value :=
  (form.filter fun e => e.1 == name).map Prod.snd

/-- The fields with the lists of their values. -/
def grouped (form : Form) : Fields := form.names.map fun name => (name, .list (form.valuesOf name))

/-- A form that is encoded in one line. The bytes of the body are taken as characters. -/
def ofUrlencoded (hosted : Bool) (body : List UInt8) (interrupted : Bool) :
    Except Failure Form :=
  let cs := Text.latin1 body
  let form := Urlencoded.entries cs
  let count := if interrupted then Urlencoded.completeEntries cs else form.length
  if maxFields < count then .error (.unreadableForm hosted .tooManyFields)
  else if interrupted then .error (.disconnected [])
  else .ok form

/-- The character set of a form of several parts whose content type names none. -/
def defaultCharset : String := "utf-8"

def encodingOf (contentType : HeaderOptions) : Except FormFault Text.Encoding :=
  (Text.Encoding.ofName ((contentType.find? "charset").getD defaultCharset)).mapError .undecodable

/-- A form of several parts, which are not looked at without an encoding and a boundary. -/
def ofMultipart (hosted : Bool) (contentType : HeaderOptions) (chunks : List (List UInt8))
    (interrupted : Bool) : Except Failure Form :=
  let read : Except FormFault Form := do
    let encoding ← encodingOf contentType
    match contentType.find? "boundary" with
    | none => .error .noBoundary
    | some boundary => Multipart.entries encoding boundary chunks
  match read with
  | .error fault => .error (.unreadableForm hosted fault)
  | .ok form => if interrupted then .error (.disconnected []) else .ok form

/-- The form of a request. A fault is worded for an endpoint that is hosted or for one that is not. -/
def ofRequest (hosted : Bool) (r : Request) : Except Failure Form :=
  let contentType := HeaderOptions.ofText ((r.header? "content-type").getD "")
  if contentType.word = "multipart/form-data" then
    ofMultipart hosted contentType r.chunks r.interrupted
  else if contentType.word = "application/x-www-form-urlencoded" then
    ofUrlencoded hosted r.body r.interrupted
  else .ok []

end Form
end OAuthGrant.Http

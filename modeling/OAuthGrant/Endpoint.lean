import OAuthGrant.Dispatch
import OAuthGrant.FailureReport
import OAuthGrant.Http.Form
import OAuthGrant.Identity
import OAuthGrant.Parameters
import OAuthGrant.TokenResponse

/-!
# The token endpoint

A request that is posted to the path of the endpoint is handled here from its form to its response;
every other request is passed on. Handling reads the form, validates the parameters, resolves the
client and puts the grant to the authority, in this order, and stops at the first failure. A failure
is answered by an error response, with one exception: when the client has gone away there is nobody
to answer.
-/

namespace OAuthGrant
open Http (Form Request Response)
open Log (Component Message)

/-- An endpoint. One without a path is for no request. It is hosted if it runs inside a whole
application, which changes how faults of a form are worded in the journal. -/
structure Endpoint (σ : Type) where
  path : Option String
  authority : Authority σ
  identify : IdentityResolver σ
  hosted : Bool := false

namespace Endpoint

variable {σ : Type}

/-- The path of an endpoint that has none of its own. -/
def defaultPath : String := "/oauth2/token"

/-- An endpoint with an authority and a path. The path may be any value that is present; one that is
no text is no path. -/
def create? (authority : Option (Authority σ)) (path : Value) (identify : IdentityResolver σ)
    (hosted : Bool := false) : Except Failure (Endpoint σ) :=
  match authority with
  | none => .error .noAuthority
  | some authority =>
    if path.isPresent then
      let path := match path with
        | .text s => some s
        | _ => none
      .ok { path, authority, identify, hosted }
    else .error .noEndpointPath

def accepts (e : Endpoint σ) (r : Request) : Bool := r.method == "POST" && e.path == some r.addressPath

/-- The client and the token of a request. -/
def process (e : Endpoint σ) (r : Request) : Action σ (ClientIdentity × AccessToken) := do
  let form ← Form.ofRequest e.hosted r
  Action.log .tokenEndpoint
    (Message.httpRequest .tokenEndpoint (.text r.method) (.text r.addressPath) form.grouped [])
  let request ← TokenRequest.ofParameters (.pairs form)
  match ← e.identify r with
  | none => throw (.refused .missingClient)
  | some client =>
    let token ← dispatch e.authority request client
    return (client, token)

def failureType (f : Failure) : String :=
  if f.refusal?.any Refusal.isParameter then "VALIDATION-FAILURE" else "Token Request Rejected"

def answerFailure (f : Failure) : Action σ Response := do
  let error ← f.report
  Action.log .tokenEndpoint
    (Message.exchange Component.tokenEndpoint.name Component.client.name (failureType f)
      [("error", .text error.code.name), ("error_description", .ofOption error.description)]
      .warning)
  errorResponse error

def answerToken (client : ClientIdentity) (token : AccessToken) : Action σ Response := do
  Action.log .tokenEndpoint
    (Message.exchange Component.tokenEndpoint.name Component.client.name "Access Token Response"
      [("client_id", .text client.clientId), ("token_type", .text token.tokenType.name),
       ("expires_in", .int token.expiresIn), ("scope", .text token.scopes.text)])
  tokenResponse token

def handle (e : Endpoint σ) (r : Request) : Action σ Response := do
  match ← (e.process r).attempt with
  | .ok (client, token) => answerToken client token
  | .error f =>
    if f.isDisconnect then
      Action.log .tokenEndpoint
        (Message.note .tokenEndpoint "Client disconnected before the token request was read" [])
      throw f
    else answerFailure f

/-- Handles the requests for the endpoint and passes on all others. -/
def around (e : Endpoint σ) (next : Request → Action σ Response) (r : Request) :
    Action σ Response :=
  if e.accepts r then e.handle r else next r

end Endpoint
end OAuthGrant

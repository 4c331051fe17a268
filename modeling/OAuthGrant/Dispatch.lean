import OAuthGrant.Authority

/-!
# Dispatch of a grant

A token request and the client it came from make one grant request, which is put to the authority
once. Only a token is accepted as an answer.
-/

namespace OAuthGrant
open Log (Component Message)

def Reply.token? : Reply → Except Failure AccessToken
  | .token t => .ok t
  | .other v => .error (.notAToken v.kind)

def submit {σ : Type} (authority : Authority σ) (grant : GrantRequest) : Action σ AccessToken := do
  Action.log .tokenEndpoint
    (Message.exchange Component.tokenEndpoint.name Component.authority.name "GRANT-DISPATCH"
      [("grant_type", .text grant.grantType.name), ("client_id", .text grant.client.clientId)])
  let reply ← authority grant
  reply.token?

/-- Puts a request that may hold anything to an authority. -/
def dispatchLoose {σ : Type} (authority : Authority σ) (request : LooseTokenRequest)
    (client : Option ClientIdentity) : Action σ AccessToken := do
  let grant ← GrantRequest.ofLoose? request client
  submit authority grant

def dispatch {σ : Type} (authority : Authority σ) (request : TokenRequest)
    (client : ClientIdentity) : Action σ AccessToken :=
  dispatchLoose authority request.loose (some client)

end OAuthGrant

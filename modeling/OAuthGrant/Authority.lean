import OAuthGrant.AccessToken
import OAuthGrant.CodeStore
import OAuthGrant.GrantRequest

/-!
# Authentication authorities

An authority verifies a grant and issues a token, or fails. What it answers is checked by its caller,
so it may answer anything. `InMemoryAuthority` redeems the codes of a `CodeStore` and compares the
scopes a client asks for with those it has been registered for.
-/

namespace OAuthGrant
open Log (Component Message)
open Time (Timestamp)

/-- What an authority answers. -/
inductive Reply where
  | token (token : AccessToken)
  | other (value : Value)

/-- Verifies grants. -/
abbrev Authority (σ : Type) := GrantRequest → Action σ Reply

/-- An authority that issues tokens with a fixed lifetime, in microseconds. -/
structure InMemoryAuthority where
  lifetime : Int
  deriving DecidableEq, Repr

namespace InMemoryAuthority

/-- The number of seconds a token lives unless another number is given. -/
def defaultSeconds : Int := 3600

def tokenBytes : Nat := 48

/-- An authority for tokens that live for the given number of seconds. -/
def create {σ : Type} (seconds : Value) : Action σ InMemoryAuthority := do
  let lifetime ← Time.ofSeconds seconds
  return ⟨lifetime⟩

def reject {σ α : Type} (client : ClientIdentity) (code : ErrorCode) (description : String) :
    Action σ α := do
  Action.log .authority
    (Message.exchange Component.authority.name Component.tokenEndpoint.name "GRANT-REJECTED"
      [("client_id", .text client.clientId), ("error", .text code.name),
       ("description", .text description)] .warning)
  throw (.refused (.byAuthority code description))

def requireGrant {σ : Type} (client : ClientIdentity) (grant : GrantType) : Action σ Unit :=
  if client.grants.permits grant then pure ()
  else reject client .unauthorizedClient
    ("Client is not authorized for the " ++ grant.name ++ " grant")

def issue {σ : Type} (a : InMemoryAuthority) (client : ClientIdentity) (scopes : ScopeSet) :
    Action σ AccessToken := do
  let issuedAt := Timestamp.utc (← Action.now)
  let value ← Action.draw tokenBytes
  match issuedAt.later? a.lifetime with
  | none => throw .dateOutOfRange
  | some expiresAt =>
    let token ← AccessToken.bearer? value issuedAt expiresAt scopes
    Action.log .authority
      (Message.exchange Component.authority.name Component.tokenEndpoint.name "TOKEN-ISSUED"
        [("client_id", .text client.clientId), ("access_token", .text token.value),
         ("scope", .text scopes.text), ("expires_in", .int token.expiresIn)])
    return token

/-- Redeems a code: it has to be alive, issued to the client, and either free of a redirect URI or
presented with the same one. The code is gone in any case. -/
def redeem (a : InMemoryAuthority) (grant : CodeGrant) : Action CodeStore AccessToken := do
  requireGrant grant.client .authorizationCode
  match ← CodeStore.consume grant.code with
  | none => reject grant.client .invalidGrant "Invalid authorization code"
  | some record =>
    if record.clientId ≠ grant.client.clientId then
      reject grant.client .invalidGrant "Authorization code was not issued to this client"
    else if record.redirectUri ≠ none ∧ record.redirectUri ≠ grant.redirectUri then
      reject grant.client .invalidGrant "Redirect URI mismatch"
    else a.issue grant.client record.scopes

/-- The scopes a client is granted: those it asks for, or all that are registered if it asks for
none. -/
def grantedScopes (grant : CredentialsGrant) : ScopeSet :=
  if grant.scopes.isEmpty then grant.client.scopes else grant.scopes

def grantScopes {σ : Type} (a : InMemoryAuthority) (grant : CredentialsGrant) :
    Action σ AccessToken := do
  requireGrant grant.client .clientCredentials
  let scopes := grantedScopes grant
  let unregistered := scopes.diff grant.client.scopes
  if unregistered.isEmpty then
    a.issue grant.client scopes
  else
    reject grant.client .invalidScope
      ("Scope not registered for this client: " ++ unregistered.text)

def verify (a : InMemoryAuthority) : GrantRequest → Action CodeStore AccessToken
  | .authorizationCode grant => a.redeem grant
  | .clientCredentials grant => a.grantScopes grant

/-- The failure on a value that is no grant request. -/
def unsupported (v : Value) : Failure :=
  .refused (.byAuthority .unsupportedGrantType ("Unsupported grant request: " ++ v.kind))

def toAuthority (a : InMemoryAuthority) : Authority CodeStore := fun grant => do
  return .token (← a.verify grant)

end InMemoryAuthority
end OAuthGrant

import OAuthGrant.TokenRequest

/-!
# Grant requests

What an authentication authority is asked to verify: an authorization code or the client's own
credentials, always with the client. `GrantRequest.ofTokenRequest` builds the one variant that a
validated request stands for; `GrantRequest.ofLoose?` does the same for a request that may hold
anything, and fails where it does not fit.
-/

namespace OAuthGrant

/-- A request to redeem an authorization code. -/
structure CodeGrant where
  code : String
  redirectUri : Option String
  client : ClientIdentity
  deriving DecidableEq

/-- A request in the client's own name; no scopes ask for all that are registered. -/
structure CredentialsGrant where
  scopes : ScopeSet
  client : ClientIdentity
  deriving DecidableEq

inductive GrantRequest where
  | authorizationCode (grant : CodeGrant)
  | clientCredentials (grant : CredentialsGrant)
  deriving DecidableEq

/-- The set of the words of a scope parameter; an absent or empty value has none, and an empty tuple or set is an
empty list here. -/
def scopesOf? (scope : Value) : Except Failure ScopeSet :=
  if scope.isPresent then
    match scope with
    | .text s => .ok (ScopeSet.ofText s)
    | v => .error (.lacks v.kind "split")
  else .ok .empty

@[simp] theorem scopesOf?_null : scopesOf? .null = .ok .empty := rfl

@[simp] theorem scopesOf?_text (s : String) : scopesOf? (.text s) = .ok (ScopeSet.ofText s) := by
  by_cases h : s = ""
  · subst h; rfl
  · simp [scopesOf?, Value.isPresent, h]

namespace CodeGrant

/-- Reads a code grant from named data. -/
def ofFields (fields : Fields) : Checked CodeGrant :=
  (fun _ code redirectUri client => CodeGrant.mk code redirectUri client)
    <$> Reader.withDefault (Reader.only .authorizationCode) Param.grantType () fields
    <*> Reader.required Reader.nonEmptyText Param.code fields
    <*> Reader.withDefault Reader.optionalText Param.redirectUri none fields
    <*> Reader.required ClientIdentity.read "client" fields

end CodeGrant

namespace CredentialsGrant

/-- Reads a credentials grant from named data. -/
def ofFields (fields : Fields) : Checked CredentialsGrant :=
  (fun _ scopes client => CredentialsGrant.mk scopes client)
    <$> Reader.withDefault (Reader.only .clientCredentials) Param.grantType () fields
    <*> Reader.withDefault Reader.scopes "scopes" .empty fields
    <*> Reader.required ClientIdentity.read "client" fields

end CredentialsGrant

/-- The client a grant must name. -/
def presentClient : Option ClientIdentity → Checked ClientIdentity
  | some c => .valid c
  | none => (Checked.fault (.notModel ClientIdentity.modelName) : Checked _).within "client"

namespace GrantRequest

def grantType : GrantRequest → GrantType
  | authorizationCode _ => .authorizationCode
  | clientCredentials _ => .clientCredentials

def client : GrantRequest → ClientIdentity
  | authorizationCode g => g.client
  | clientCredentials g => g.client

/-- Reads a grant request whose grant type tells which variant it is. -/
def ofFields (fields : Fields) : Checked GrantRequest :=
  match fields.find? Param.grantType with
  | none => .fault (.noTag Param.grantType)
  | some tag =>
    match Reader.grantType tag with
    | .valid .authorizationCode =>
      (authorizationCode <$> CodeGrant.ofFields fields).within GrantType.authorizationCode.name
    | .valid .clientCredentials =>
      (clientCredentials <$> CredentialsGrant.ofFields fields).within
        GrantType.clientCredentials.name
    | .invalid _ =>
      .fault (.unknownTag (Text.madeWhole tag.described) Param.grantType
        (GrantType.all.map GrantType.literal))

def read : Reader GrantRequest
  | .object fields => ofFields fields
  | _ => .fault .noFields

/-- The grant request of a request that may hold anything, for a client that may be missing. -/
def ofLoose? (r : LooseTokenRequest) (client : Option ClientIdentity) :
    Except Failure GrantRequest :=
  match r.grantType with
  | none => .error (.lacks "TokenRequest" Param.grantType)
  | some grantType =>
    match Reader.grantType grantType with
    | .valid .authorizationCode =>
      ((fun code redirectUri c => authorizationCode ⟨code, redirectUri, c⟩)
        <$> (Reader.nonEmptyText r.code).within Param.code
        <*> (Reader.optionalText r.redirectUri).within Param.redirectUri
        <*> presentClient client).toExcept
    | .valid .clientCredentials =>
      match scopesOf? r.scope with
      | .ok scopes => ((fun c => clientCredentials ⟨scopes, c⟩) <$> presentClient client).toExcept
      | .error f => .error f
    | .invalid _ => .error (.refused (.unsupportedGrantType grantType))

/-- The grant request of a validated request. -/
def ofTokenRequest (r : TokenRequest) (client : ClientIdentity) : GrantRequest :=
  match r.grantType with
  | .authorizationCode => authorizationCode ⟨r.code.getD "", r.redirectUri, client⟩
  | .clientCredentials => clientCredentials ⟨ScopeSet.ofText (r.scope.getD ""), client⟩

end GrantRequest
end OAuthGrant

import OAuthGrant.Client

/-!
# Token requests

A token request as the client sent it, after validation: the grant type, and the single value of
every other parameter that was given. `TokenRequest` holds the rule that a request for the
authorization code grant has a code; `LooseTokenRequest` is a request that nobody has checked.
-/

namespace OAuthGrant

/-- A request for the authorization code grant has a code that is not empty. -/
def TokenRequest.CodeRule (grantType : GrantType) (code : Option String) : Prop :=
  grantType = .authorizationCode → code.getD "" ≠ ""

instance (g : GrantType) (code : Option String) : Decidable (TokenRequest.CodeRule g code) := by
  unfold TokenRequest.CodeRule
  infer_instance

/-- A validated token request. -/
structure TokenRequest where
  grantType : GrantType
  code : Option String := none
  redirectUri : Option String := none
  scope : Option String := none
  clientId : Option String := none
  codeRule : TokenRequest.CodeRule grantType code
  deriving DecidableEq

/-- A token request with any values at all, perhaps without a grant type. -/
structure LooseTokenRequest where
  grantType : Option Value
  code : Value := .null
  redirectUri : Value := .null
  scope : Value := .null
  clientId : Value := .null

namespace TokenRequest

def codeRuleText : String := "code is required for the authorization_code grant"

/-- A token request whose parts obey the code rule. -/
def check (grantType : GrantType) (code redirectUri scope clientId : Option String) :
    Checked TokenRequest :=
  if h : CodeRule grantType code then .valid ⟨grantType, code, redirectUri, scope, clientId, h⟩
  else .fault (.rule codeRuleText)

/-- Reads a token request from named data. The code rule is checked when all fields are valid. -/
def ofFields (fields : Fields) : Checked TokenRequest :=
  ((fun g c r s i => check g c r s i) <$> Reader.required Reader.grantType Param.grantType fields
    <*> Reader.withDefault Reader.optionalText Param.code none fields
    <*> Reader.withDefault Reader.optionalText Param.redirectUri none fields
    <*> Reader.withDefault Reader.optionalText Param.scope none fields
    <*> Reader.withDefault Reader.optionalText Param.clientId none fields).andThen id

/-- The request with its checks forgotten. -/
def loose (r : TokenRequest) : LooseTokenRequest :=
  ⟨some (.text r.grantType.name), .ofOption r.code, .ofOption r.redirectUri, .ofOption r.scope,
    .ofOption r.clientId⟩

/-- The request as parameters, each with its values: what was not given is left out. -/
def toParameters (r : TokenRequest) : List (String × List String) :=
  [(Param.grantType, some r.grantType.name), (Param.code, r.code),
   (Param.redirectUri, r.redirectUri), (Param.scope, r.scope),
   (Param.clientId, r.clientId)].filterMap fun (name, value) => value.map fun v => (name, [v])

end TokenRequest

/-- A token request taken from named data without any check. -/
def LooseTokenRequest.ofFields (fields : Fields) : LooseTokenRequest where
  grantType := fields.find? Param.grantType
  code := (fields.find? Param.code).getD .null
  redirectUri := (fields.find? Param.redirectUri).getD .null
  scope := (fields.find? Param.scope).getD .null
  clientId := (fields.find? Param.clientId).getD .null

end OAuthGrant

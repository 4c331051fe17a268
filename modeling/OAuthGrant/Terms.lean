/-!
# The terms of the protocol

The closed vocabularies of a token endpoint: grant types, token types, error codes and the names of
the request parameters, each with its spelling on the wire.
-/

namespace OAuthGrant

/-- The grants a token endpoint handles. -/
inductive GrantType where
  | authorizationCode
  | clientCredentials
  deriving DecidableEq, Repr

namespace GrantType

def name : GrantType → String
  | authorizationCode => "authorization_code"
  | clientCredentials => "client_credentials"

def all : List GrantType := [authorizationCode, clientCredentials]

def ofName? (s : String) : Option GrantType := all.find? fun g => g.name == s

@[simp] theorem ofName?_name (g : GrantType) : ofName? g.name = some g := by cases g <;> decide

theorem ofName?_eq_some_iff {s : String} {g : GrantType} : ofName? s = some g ↔ s = g.name := by
  constructor
  · intro h
    have := List.find?_some h
    simpa using (beq_iff_eq.mp this).symm
  · rintro rfl
    exact ofName?_name g

/-- How a message shows the grant type that was expected. -/
def literal : GrantType → String
  | authorizationCode => "<GrantType.AUTHORIZATION_CODE: 'authorization_code'>"
  | clientCredentials => "<GrantType.CLIENT_CREDENTIALS: 'client_credentials'>"

end GrantType

inductive TokenType where
  | bearer
  deriving DecidableEq, Repr

def TokenType.name : TokenType → String
  | bearer => "Bearer"

def TokenType.ofName? (s : String) : Option TokenType := if s = "Bearer" then some .bearer else none

inductive ErrorCode where
  | invalidRequest
  | invalidClient
  | invalidGrant
  | unauthorizedClient
  | unsupportedGrantType
  | invalidScope
  | serverError
  deriving DecidableEq, Repr

namespace ErrorCode

def name : ErrorCode → String
  | invalidRequest => "invalid_request"
  | invalidClient => "invalid_client"
  | invalidGrant => "invalid_grant"
  | unauthorizedClient => "unauthorized_client"
  | unsupportedGrantType => "unsupported_grant_type"
  | invalidScope => "invalid_scope"
  | serverError => "server_error"

def all : List ErrorCode :=
  [invalidRequest, invalidClient, invalidGrant, unauthorizedClient, unsupportedGrantType,
   invalidScope, serverError]

def ofName? (s : String) : Option ErrorCode := all.find? fun c => c.name == s

@[simp] theorem ofName?_name (c : ErrorCode) : ofName? c.name = some c := by cases c <;> decide

end ErrorCode

namespace Param

/-! The names of the request parameters. -/

def grantType : String := "grant_type"
def code : String := "code"
def redirectUri : String := "redirect_uri"
def scope : String := "scope"
def clientId : String := "client_id"

end Param
end OAuthGrant

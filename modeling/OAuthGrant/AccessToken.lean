import OAuthGrant.Client
import OAuthGrant.Time.Duration

/-!
# Access tokens

A token as an authority issues it: never empty, and expiring after it was issued, on clocks that can
be compared. `AccessToken.expiresIn` is its lifetime in whole seconds.
-/

namespace OAuthGrant
open Decimal (Binary64)
open Time (Timestamp)

/-- An issued access token. The extensions are further entries of the response. -/
structure AccessToken where
  tokenType : TokenType
  value : String
  issuedAt : Timestamp
  expiresAt : Timestamp
  scopes : ScopeSet
  extensions : Fields
  value_ne : value ≠ ""
  comparable : issuedAt.comparable expiresAt = true
  expiresLater : issuedAt.instant < expiresAt.instant

namespace AccessToken

def lifetimeRuleText : String := "expires_at must be after issued_at"

/-- A token from its parts, the value being known not to be empty. -/
def check (tokenType : TokenType) (value : { s : String // s ≠ "" })
    (issuedAt expiresAt : Timestamp) (scopes : ScopeSet) (extensions : Fields) :
    Except Failure AccessToken :=
  if hc : issuedAt.comparable expiresAt = true then
    if hl : issuedAt.instant < expiresAt.instant then
      .ok ⟨tokenType, value.1, issuedAt, expiresAt, scopes, extensions, value.2, hc, hl⟩
    else .error (.invalid [⟨[], .rule lifetimeRuleText⟩])
  else .error .mixedOffsets

/-- Reads a token from named data; its lifetime is checked when all fields are valid. -/
def ofFields (fields : Fields) : Except Failure AccessToken :=
  match check
    <$> Reader.withDefault Reader.tokenType "token_type" .bearer fields
    <*> Reader.required Reader.nonEmpty "token_value" fields
    <*> Reader.required Reader.timestamp "issued_at" fields
    <*> Reader.required Reader.timestamp "expires_at" fields
    <*> Reader.withDefault Reader.scopes "scopes" .empty fields
    <*> Reader.withDefault Reader.dictionary "additional_parameters" [] fields with
  | .valid token => token
  | .invalid issues => .error (.invalid issues)

def bearer? (value : String) (issuedAt expiresAt : Timestamp) (scopes : ScopeSet) :
    Except Failure AccessToken :=
  if h : value = "" then .error (.invalid [⟨["token_value"], .tooShort⟩])
  else check .bearer ⟨value, h⟩ issuedAt expiresAt scopes []

/-- The lifetime in microseconds. -/
def lifetime (t : AccessToken) : Nat := (t.expiresAt.instant - t.issuedAt.instant).toNat

/-- The lifetime in seconds as a floating point number. -/
def lifetimeSeconds (t : AccessToken) : Binary64 :=
  .ofRatio false t.lifetime Time.perSecond

/-- The lifetime in whole seconds. -/
def expiresIn (t : AccessToken) : Nat := t.lifetimeSeconds.wholePart

end AccessToken
end OAuthGrant

import OAuthGrant.Endpoint
import OAuthGrant.EnvironmentFile

/-!
# Settings

The settings of an application come from named arguments, then from environment variables, then from
an environment file, and what none of them gives has a default. Variables are known by a common start
of their names. The case of names does not count.
-/

namespace OAuthGrant

structure Settings where
  tokenEndpointUri : String
  accessTokenTtlSeconds : Int
  authorizationCodeTtlSeconds : Int
  identityHeader : String
  trustIdentityHeader : Bool
  host : String
  port : Int
  logLevel : String
  deriving DecidableEq, Repr

namespace Settings

/-- Reads settings from named data. -/
def ofFields (fields : Fields) : Checked Settings :=
  Settings.mk
    <$> Reader.withDefault Reader.nonEmptyText "token_endpoint_uri" Endpoint.defaultPath fields
    <*> Reader.withDefault (Reader.integerFrom 1) "access_token_ttl_seconds"
          InMemoryAuthority.defaultSeconds fields
    <*> Reader.withDefault (Reader.integerFrom 1) "authorization_code_ttl_seconds"
          CodeStore.defaultSeconds fields
    <*> Reader.withDefault Reader.text "identity_header" "X-Authenticated-Client-Id" fields
    <*> Reader.withDefault Reader.truth "trust_identity_header" false fields
    <*> Reader.withDefault Reader.text "host" "0.0.0.0" fields
    <*> Reader.withDefault Reader.integer "port" 8081 fields
    <*> Reader.withDefault Reader.text "log_level" "INFO" fields

def toFields (s : Settings) : Fields :=
  [("token_endpoint_uri", .text s.tokenEndpointUri),
   ("access_token_ttl_seconds", .int s.accessTokenTtlSeconds),
   ("authorization_code_ttl_seconds", .int s.authorizationCodeTtlSeconds),
   ("identity_header", .text s.identityHeader),
   ("trust_identity_header", .bool s.trustIdentityHeader), ("host", .text s.host),
   ("port", .int s.port), ("log_level", .text s.logLevel)]

/-- What the names of all variables start with, in lower case. -/
def variableStart : String := "token_endpoint_"

/-- The settings that variables give, by field: of two spellings of a name the later counts. -/
def ofVariables (environment : List (String × String)) : Fields :=
  (environment.filterMap fun (name, value) =>
    let cs := (Text.lower name).toList
    if variableStart.toList.isPrefixOf cs then
      some (String.ofList (cs.drop variableStart.length), Value.text value)
    else none).reverse

/-- The settings that arguments give, by field: of two spellings of a name the first counts. -/
def ofArguments (arguments : Fields) : Fields := arguments.map fun a => (Text.lower a.1, a.2)

/-- Reads settings from all sources, the stronger ones first. -/
def read (arguments : Fields) (environment : List (String × String)) (file : String) :
    Checked Settings :=
  ofFields (ofArguments arguments ++ ofVariables environment ++
    ofVariables (EnvironmentFile.exports environment file))

end Settings

/-- Settings that are read once and then kept. -/
structure SettingsCache where
  kept : Option Settings := none

/-- The kept settings, or those that are read now; what cannot be read is not kept. -/
def SettingsCache.get (c : SettingsCache) (environment : List (String × String)) (file : String) :
    Except Failure Settings × SettingsCache :=
  match c.kept with
  | some s => (.ok s, c)
  | none =>
    match (Settings.read [] environment file).toExcept with
    | .ok s => (.ok s, ⟨some s⟩)
    | .error f => (.error f, c)

end OAuthGrant

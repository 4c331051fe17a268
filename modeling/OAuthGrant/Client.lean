import OAuthGrant.Model.Checked

/-!
# Clients

The identity of a client that has been authenticated before a token request is handled, with what
the client has been registered for.
-/

namespace OAuthGrant

structure PermittedGrants where
  authorizationCode : Bool
  clientCredentials : Bool
  deriving DecidableEq, Repr

namespace PermittedGrants

def every : PermittedGrants := ⟨true, true⟩

def ofList (grants : List GrantType) : PermittedGrants :=
  ⟨grants.contains .authorizationCode, grants.contains .clientCredentials⟩

def permits (p : PermittedGrants) : GrantType → Bool
  | .authorizationCode => p.authorizationCode
  | .clientCredentials => p.clientCredentials

def toList (p : PermittedGrants) : List GrantType := GrantType.all.filter p.permits

@[simp] theorem permits_every (g : GrantType) : every.permits g = true := by cases g <;> rfl

@[simp] theorem permits_ofList (l : List GrantType) (g : GrantType) :
    (ofList l).permits g = l.contains g := by cases g <;> rfl

end PermittedGrants

structure ClientIdentity where
  clientId : String
  scopes : ScopeSet
  redirectUris : List String
  grants : PermittedGrants
  deriving DecidableEq

namespace ClientIdentity

def modelName : String := "ClientIdentity"

/-- Reads a client from named data. -/
def ofFields (fields : Fields) : Checked ClientIdentity :=
  ClientIdentity.mk <$> Reader.required Reader.nonEmptyText "client_id" fields
    <*> Reader.withDefault Reader.scopes "scopes" .empty fields
    <*> Reader.withDefault Reader.texts "redirect_uris" [] fields
    <*> Reader.withDefault (fun v => PermittedGrants.ofList <$> Reader.set Reader.grantType v)
          "grant_types" .every fields

def read : Reader ClientIdentity
  | .object fields => ofFields fields
  | _ => .fault (.notModel modelName)

end ClientIdentity
end OAuthGrant

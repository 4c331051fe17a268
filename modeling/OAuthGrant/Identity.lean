import OAuthGrant.ClientRegistry
import OAuthGrant.Http.Request

/-!
# Who sent a request

The client of a request has been authenticated before the request reaches the endpoint. A resolver
finds out which client that was: from what an earlier layer has attached to the request, or from a
header that a trusted proxy sets.
-/

namespace OAuthGrant

/-- Finds the client of a request. -/
abbrev IdentityResolver (σ : Type) := Http.Request → Action σ (Option ClientIdentity)

namespace IdentityResolver

variable {σ : Type}

/-- The client that an earlier layer has attached to the request. -/
def attached : IdentityResolver σ := fun r => pure r.attachedClient

/-- The name of a header as it is looked up, in lower case. Every character of it has to be a byte. -/
def headerName (name : String) : Except Failure String :=
  let key := Text.lower name
  match Text.Unencodable.inLatin1? key with
  | none => .ok key
  | some characters => .error (.unencodable characters)

/-- The registered client whose identifier stands in a header. -/
def ofHeader (registry : ClientRegistry) (header : String) : IdentityResolver σ := fun r => do
  let key ← headerName header
  match r.header? key with
  | none => return none
  | some id => return if id = "" then none else registry.find? id

end IdentityResolver
end OAuthGrant

import OAuthGrant.Client
import OAuthGrant.Service

/-!
# Registered clients

The clients an endpoint knows, by identifier. Of two registrations under one identifier the later
counts.
-/

namespace OAuthGrant
open Log (Component Message)

structure ClientRegistry where
  registrations : List ClientIdentity
  deriving DecidableEq

namespace ClientRegistry

def find? (r : ClientRegistry) (clientId : String) : Option ClientIdentity :=
  r.registrations.reverse.find? fun c => c.clientId == clientId

def findAny? (r : ClientRegistry) (clientId : Value) : Except Failure (Option ClientIdentity) :=
  (Option.bind · r.find?) <$> clientId.lookupName?

@[simp] theorem findAny?_text (r : ClientRegistry) (clientId : String) :
    r.findAny? (.text clientId) = .ok (r.find? clientId) := rfl

theorem clientId_of_find? {r : ClientRegistry} {id : String} {c : ClientIdentity}
    (h : r.find? id = some c) : c.clientId = id := by
  simpa using List.find?_some h

/-- The identifiers in ascending order. -/
def clientIds (r : ClientRegistry) : List String :=
  (ScopeSet.ofList (r.registrations.map ClientIdentity.clientId)).toList

def demo : List ClientIdentity :=
  [⟨"demo-client", .ofList ["read", "write"], ["http://localhost:8080/callback"],
      .ofList [.authorizationCode]⟩,
   ⟨"service-client", .ofList ["read", "metrics"], [], .ofList [.clientCredentials]⟩]

def create {σ : Type} (clients : List ClientIdentity) : Action σ ClientRegistry := do
  let registry : ClientRegistry := ⟨clients⟩
  Action.log .storage
    (Message.exchange Component.system.name Component.storage.name
      "Registered Client Store Initialized"
      [("clients", .list (registry.clientIds.map .text))])
  return registry

end ClientRegistry
end OAuthGrant

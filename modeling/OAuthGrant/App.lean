import OAuthGrant.Site

/-!
# The application

An application is a token endpoint with the pages beside it, its own stores, and headers that every
response gets. Who does not bring an authority gets the one that issues tokens from the application's
own store of codes, and who does not bring a resolver gets the one that the settings ask for.
-/

namespace OAuthGrant
open Http (Request Response)

def securityHeaders : List (String × String) :=
  [("X-Content-Type-Options", "nosniff"), ("X-Frame-Options", "DENY"),
   ("Strict-Transport-Security", "max-age=31536000; includeSubDomains")]

def secured (r : Response) : Response :=
  (lowerNames securityHeaders).foldl Response.setDefault r

/-- An application. Its state is its store of codes and whatever the authority and the resolver that
were brought in have as state. -/
structure App (τ : Type) where
  settings : Settings
  registry : ClientRegistry
  endpoint : Endpoint (CodeStore × τ)

namespace App

variable {τ : Type}

def ownAuthority (a : InMemoryAuthority) : Authority (CodeStore × τ) := fun grant =>
  Action.onPart Prod.fst (fun store state => (store, state.2)) (a.toAuthority grant)

/-- The resolver that the settings ask for. -/
def ownResolver (s : Settings) (registry : ClientRegistry) : IdentityResolver (CodeStore × τ) :=
  if s.trustIdentityHeader then .ofHeader registry s.identityHeader else .attached

def create (settings : Settings) (authority : Option (Authority (CodeStore × τ)))
    (identify : Option (IdentityResolver (CodeStore × τ))) : Action τ (App τ × CodeStore) := do
  Action.configureJournal (.text settings.logLevel)
  let registry ← ClientRegistry.create ClientRegistry.demo
  let store ← CodeStore.create (.int settings.authorizationCodeTtlSeconds)
  let authority ← match authority with
    | some authority => pure authority
    | none => ownAuthority <$> InMemoryAuthority.create (.int settings.accessTokenTtlSeconds)
  let endpoint : Endpoint (CodeStore × τ) :=
    { path := some settings.tokenEndpointUri, authority,
      identify := identify.getD (ownResolver settings registry), hosted := true }
  return (⟨settings, registry, endpoint⟩, store)

def respond (app : App τ) (r : Request) : Action (CodeStore × τ) Response := do
  return secured (← app.endpoint.around (fun r => pure (Site.respond app.settings r)) r)

/-- The response that stands in for one that could not be made. -/
def serverError : Response :=
  .ofText 500 "text/plain; charset=utf-8" "Internal Server Error" []

end App
end OAuthGrant

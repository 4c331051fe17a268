import OAuthGrant.Dispatch
import OAuthGrant.Proofs.StoreSteps

/-!
# What the authority decides

Verifying a grant is a decision followed by the making of a token. The decision is a refusal or the scopes
that are granted; it depends on the clock and the store, for a code on the live record of that code only.
Whatever is decided, a code that a permitted client presents is erased, and nothing else changes in the
store.
-/

namespace OAuthGrant.InMemoryAuthority

/-- What is decided on a code that a permitted client presents, by its record. -/
def verdict (grant : CodeGrant) : Option CodeRecord → Except Failure ScopeSet
  | none => .error (.refused (.byAuthority .invalidGrant "Invalid authorization code"))
  | some record =>
    if record.clientId ≠ grant.client.clientId then
      .error (.refused (.byAuthority .invalidGrant "Authorization code was not issued to this client"))
    else if record.redirectUri ≠ none ∧ record.redirectUri ≠ grant.redirectUri then
      .error (.refused (.byAuthority .invalidGrant "Redirect URI mismatch"))
    else .ok record.scopes

/-- The verdict depends neither on the code that is presented nor on the one that the record is of. -/
theorem verdict_congr (c c' code : String) (redirectUri : Option String) (client : ClientIdentity)
    (record : CodeRecord) :
    verdict ⟨c', redirectUri, client⟩ (some { record with code := code }) =
      verdict ⟨c, redirectUri, client⟩ (some record) := rfl

/-- The refusal of a client that may not use a grant. -/
def notPermitted (grant : GrantType) : Failure :=
  .refused (.byAuthority .unauthorizedClient
    ("Client is not authorized for the " ++ grant.name ++ " grant"))

def decision (store : CodeStore) (now : Int) : GrantRequest → Except Failure ScopeSet
  | .authorizationCode grant =>
    if grant.client.grants.permits .authorizationCode then verdict grant (store.live? now grant.code)
    else .error (notPermitted .authorizationCode)
  | .clientCredentials grant =>
    if grant.client.grants.permits .clientCredentials then
      if ((grantedScopes grant).diff grant.client.scopes).isEmpty then .ok (grantedScopes grant)
      else .error (.refused (.byAuthority .invalidScope ("Scope not registered for this client: " ++
        ((grantedScopes grant).diff grant.client.scopes).text)))
    else .error (notPermitted .clientCredentials)

/-- The store that verifying a grant leaves behind. -/
def storeAfter (store : CodeStore) : GrantRequest → CodeStore
  | .authorizationCode grant =>
    if grant.client.grants.permits .authorizationCode then store.erase grant.code else store
  | .clientCredentials _ => store

/-- Verifying a grant decides on it and makes a token of the next value that is drawn. -/
theorem perform_verify (a : InMemoryAuthority) (grant : GrantRequest) (s : Service CodeStore) :
    ∃ drawn journal, s.drawn ≤ drawn ∧ (a.verify grant).perform s =
      ((decision s.state s.now grant).bind (a.tokenOf s.now (s.random tokenBytes (s.drawn + 1))),
        { s with state := storeAfter s.state grant, drawn, journal }) := by
  cases grant with
  | authorizationCode grant =>
      have h := a.perform_redeem grant s
      rw [verify, decision, storeAfter]
      generalize (a.redeem grant).perform s = result at h ⊢
      cases h with
      | notPermitted journal denied =>
          rw [denied]
          exact ⟨_, journal, Nat.le_refl _, rfl⟩
      | notLive journal permitted dead =>
          rw [permitted, dead]
          exact ⟨_, journal, Nat.le_refl _, rfl⟩
      | otherClient journal record permitted live other =>
          rw [permitted, live, if_pos rfl, if_pos rfl, verdict, if_pos other]
          exact ⟨_, journal, Nat.le_refl _, rfl⟩
      | otherUri journal record permitted live same other =>
          rw [permitted, live, if_pos rfl, if_pos rfl, verdict, if_neg (not_not_intro same), if_pos other]
          exact ⟨_, journal, Nat.le_refl _, rfl⟩
      | redeemed journal record permitted live same fits =>
          rw [permitted, live, if_pos rfl, if_pos rfl, verdict, if_neg (not_not_intro same), if_neg fits]
          exact ⟨_, journal, Nat.le_succ _, rfl⟩
  | clientCredentials grant =>
      have h := a.perform_grantScopes grant s
      rw [verify, decision, storeAfter]
      generalize (a.grantScopes grant).perform s = result at h ⊢
      cases h with
      | notPermitted journal denied =>
          rw [denied]
          exact ⟨_, journal, Nat.le_refl _, rfl⟩
      | unregistered journal permitted excess =>
          rw [permitted, excess]
          exact ⟨_, journal, Nat.le_refl _, rfl⟩
      | granted journal permitted registered =>
          rw [permitted, registered]
          exact ⟨_, journal, Nat.le_succ _, rfl⟩

theorem perform_submit (a : InMemoryAuthority) (grant : GrantRequest) (s : Service CodeStore) :
    ∃ drawn journal, s.drawn ≤ drawn ∧ (submit a.toAuthority grant).perform s =
      ((decision s.state s.now grant).bind (a.tokenOf s.now (s.random tokenBytes (s.drawn + 1))),
        { s with state := storeAfter s.state grant, drawn, journal }) := by
  rw [submit, Action.perform_bind, Action.perform_log, Action.andThen_ok, Action.perform_bind,
    toAuthority, Action.perform_bind]
  obtain ⟨drawn, journal, hdrawn, hverify⟩ := a.perform_verify grant
    { s with journal := s.journal.write .tokenEndpoint (Log.Message.exchange
        Log.Component.tokenEndpoint.name Log.Component.authority.name "GRANT-DISPATCH"
        [("grant_type", .text grant.grantType.name), ("client_id", .text grant.client.clientId)]
        .information s.now) }
  rw [hverify]
  refine ⟨drawn, journal, hdrawn, ?_⟩
  dsimp only
  cases (decision s.state s.now grant).bind (a.tokenOf s.now (s.random tokenBytes (s.drawn + 1))) <;>
    rfl

end OAuthGrant.InMemoryAuthority

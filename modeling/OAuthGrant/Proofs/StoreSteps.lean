import OAuthGrant.Authority
import OAuthGrant.Proofs.IssuedRecord
import OAuthGrant.Proofs.LiveRecords

/-!
# What the operations on a store of codes do

One lemma for each operation says what it answers and what service it leaves behind: which store, how
many values drawn, clock and random source as they were. The journal that is left behind is not looked
at here; it never has a say in what an operation does.
-/

namespace OAuthGrant
open Time (Timestamp)

/-- The clock moves, unless that takes it out of range. -/
theorem Action.perform_advance {σ : Type} (micros : Int) (s : Service σ) :
    (advance micros).perform s =
      if Timestamp.inRange (s.now + micros) then (.ok (), { s with now := s.now + micros })
      else (.error .dateOutOfRange, s) := rfl

namespace CodeStore

def nextCode {σ : Type} (s : Service σ) : String := s.random codeBytes (s.drawn + 1)

theorem perform_cleanup (s : Service CodeStore) :
    ∃ journal, cleanup.perform s =
      (.ok (s.state.entries.filter fun e => e.2.isExpired s.now).length,
        { s with state := s.state.prune s.now, journal }) := by
  simp only [cleanup, Action.perform_bind, Action.perform_now, Action.perform_state,
    Action.andThen_ok, Action.perform_setState]
  split
  · exact ⟨_, rfl⟩
  · exact ⟨s.journal, rfl⟩

/-- Issuing prunes the store and draws a code, also when no record can be made. -/
theorem perform_issue (clientId scopes redirectUri : Value) (s : Service CodeStore) :
    ∃ journal, (issue clientId scopes redirectUri).perform s =
      match CodeRecord.new s.state.lifetime s.now (nextCode s) clientId scopes redirectUri with
      | .ok r => (.ok (nextCode s),
          { s with state := (s.state.prune s.now).put r, drawn := s.drawn + 1, journal })
      | .error f => (.error f,
          { s with state := s.state.prune s.now, drawn := s.drawn + 1, journal }) := by
  obtain ⟨journal, hc⟩ := perform_cleanup s
  simp only [issue, Action.perform_bind, hc, Action.andThen_ok, Action.perform_draw,
    Action.perform_now, Action.perform_state, Action.perform_lift, lifetime_prune]
  change ∃ journal', Action.andThen _ (CodeRecord.new s.state.lifetime s.now (nextCode s) clientId scopes
    redirectUri, _) = _
  cases CodeRecord.new s.state.lifetime s.now (nextCode s) clientId scopes redirectUri with
  | error f => exact ⟨journal, rfl⟩
  | ok r => exact ⟨_, rfl⟩

theorem perform_consume (code : String) (s : Service CodeStore) :
    ∃ journal, (consume code).perform s =
      (.ok (s.state.live? s.now code), { s with state := s.state.erase code, journal }) := by
  simp only [consume, live?, Action.perform_bind, Action.perform_now, Action.perform_state,
    Action.andThen_ok, Action.perform_setState]
  cases s.state.find? code with
  | none => exact ⟨_, rfl⟩
  | some r =>
      by_cases h : r.isExpired s.now = true
      · simp only [h, if_true, Option.filter_some, Bool.not_true, Bool.false_eq_true, if_false]
        exact ⟨_, rfl⟩
      · simp only [h, Bool.false_eq_true, if_false, Option.filter_some, Bool.not_false, if_true]
        exact ⟨_, rfl⟩

end CodeStore

namespace InMemoryAuthority

/-- The token that is made of a value at an instant, if its lifetime fits. -/
def tokenOf (a : InMemoryAuthority) (now : Int) (value : String) (scopes : ScopeSet) :
    Except Failure AccessToken :=
  match (Timestamp.utc now).later? a.lifetime with
  | none => .error .dateOutOfRange
  | some expiresAt => AccessToken.bearer? value (Timestamp.utc now) expiresAt scopes

theorem perform_reject {σ α : Type} (client : ClientIdentity) (code : ErrorCode)
    (description : String) (s : Service σ) :
    ∃ journal, (reject client code description : Action σ α).perform s =
      (.error (.refused (.byAuthority code description)), { s with journal }) :=
  ⟨_, rfl⟩

theorem perform_requireGrant {σ : Type} (client : ClientIdentity) (grant : GrantType)
    (s : Service σ) :
    (requireGrant client grant).perform s =
      if client.grants.permits grant then (.ok (), s)
      else (reject client .unauthorizedClient
        ("Client is not authorized for the " ++ grant.name ++ " grant")).perform s := by
  rw [requireGrant, Action.perform_ite]
  rfl

/-- A token value is drawn also when no token can be made of it. -/
theorem perform_issue {σ : Type} (a : InMemoryAuthority) (client : ClientIdentity)
    (scopes : ScopeSet) (s : Service σ) :
    ∃ journal, (a.issue client scopes).perform s =
      (a.tokenOf s.now (s.random tokenBytes (s.drawn + 1)) scopes,
        { s with drawn := s.drawn + 1, journal }) := by
  simp only [issue, Action.perform_bind, Action.perform_now, Action.andThen_ok,
    Action.perform_draw, tokenOf]
  cases (Timestamp.utc s.now).later? a.lifetime with
  | none => exact ⟨s.journal, rfl⟩
  | some expiresAt =>
      simp only [Action.perform_bind, Action.perform_lift]
      cases AccessToken.bearer? (s.random tokenBytes (s.drawn + 1)) (Timestamp.utc s.now) expiresAt
        scopes with
      | error f => exact ⟨s.journal, rfl⟩
      | ok token => exact ⟨_, rfl⟩

/-- All that can come of the redemption of a code: what is answered and the service that is left behind.
A permitted client always uses the code up, whether it is given a token or not. -/
inductive Redemption (a : InMemoryAuthority) (grant : CodeGrant) (s : Service CodeStore) :
    Except Failure AccessToken × Service CodeStore → Prop
  | notPermitted (journal : Log.Journal)
      (denied : grant.client.grants.permits .authorizationCode = false) :
      Redemption a grant s
        (.error (.refused (.byAuthority .unauthorizedClient
          "Client is not authorized for the authorization_code grant")), { s with journal })
  | notLive (journal : Log.Journal)
      (permitted : grant.client.grants.permits .authorizationCode = true)
      (dead : s.state.live? s.now grant.code = none) :
      Redemption a grant s
        (.error (.refused (.byAuthority .invalidGrant "Invalid authorization code")),
          { s with state := s.state.erase grant.code, journal })
  | otherClient (journal : Log.Journal) (record : CodeRecord)
      (permitted : grant.client.grants.permits .authorizationCode = true)
      (live : s.state.live? s.now grant.code = some record)
      (other : record.clientId ≠ grant.client.clientId) :
      Redemption a grant s
        (.error (.refused (.byAuthority .invalidGrant
          "Authorization code was not issued to this client")),
          { s with state := s.state.erase grant.code, journal })
  | otherUri (journal : Log.Journal) (record : CodeRecord)
      (permitted : grant.client.grants.permits .authorizationCode = true)
      (live : s.state.live? s.now grant.code = some record)
      (same : record.clientId = grant.client.clientId)
      (other : record.redirectUri ≠ none ∧ record.redirectUri ≠ grant.redirectUri) :
      Redemption a grant s
        (.error (.refused (.byAuthority .invalidGrant "Redirect URI mismatch")),
          { s with state := s.state.erase grant.code, journal })
  | redeemed (journal : Log.Journal) (record : CodeRecord)
      (permitted : grant.client.grants.permits .authorizationCode = true)
      (live : s.state.live? s.now grant.code = some record)
      (same : record.clientId = grant.client.clientId)
      (fits : ¬ (record.redirectUri ≠ none ∧ record.redirectUri ≠ grant.redirectUri)) :
      Redemption a grant s
        (a.tokenOf s.now (s.random tokenBytes (s.drawn + 1)) record.scopes,
          { s with state := s.state.erase grant.code, drawn := s.drawn + 1, journal })

/-- Nothing else comes of a redemption. -/
theorem perform_redeem (a : InMemoryAuthority) (grant : CodeGrant) (s : Service CodeStore) :
    Redemption a grant s ((a.redeem grant).perform s) := by
  rw [redeem, Action.perform_bind, perform_requireGrant]
  cases permitted : grant.client.grants.permits .authorizationCode with
  | false =>
      obtain ⟨journal, hr⟩ := perform_reject (σ := CodeStore) (α := Unit) grant.client
        .unauthorizedClient ("Client is not authorized for the " ++ GrantType.authorizationCode.name ++
          " grant") s
      rw [if_neg Bool.false_ne_true, hr]
      exact .notPermitted journal permitted
  | true =>
      obtain ⟨journal, hc⟩ := CodeStore.perform_consume grant.code s
      rw [if_pos rfl, Action.andThen_ok, Action.perform_bind, hc, Action.andThen_ok]
      cases live : s.state.live? s.now grant.code with
      | none =>
          obtain ⟨journal', hr⟩ := perform_reject (α := AccessToken) grant.client .invalidGrant
            "Invalid authorization code" { s with state := s.state.erase grant.code, journal }
          dsimp only
          rw [hr]
          exact .notLive journal' permitted live
      | some record =>
          dsimp only
          rw [Action.perform_ite, Action.perform_ite]
          by_cases same : record.clientId = grant.client.clientId
          · rw [if_neg (not_not_intro same)]
            by_cases other : record.redirectUri ≠ none ∧ record.redirectUri ≠ grant.redirectUri
            · obtain ⟨journal', hr⟩ := perform_reject (α := AccessToken) grant.client .invalidGrant
                "Redirect URI mismatch" { s with state := s.state.erase grant.code, journal }
              rw [if_pos other, hr]
              exact .otherUri journal' record permitted live same other
            · obtain ⟨journal', hi⟩ := perform_issue a grant.client record.scopes
                { s with state := s.state.erase grant.code, journal }
              rw [if_neg other, hi]
              exact .redeemed journal' record permitted live same other
          · obtain ⟨journal', hr⟩ := perform_reject (α := AccessToken) grant.client .invalidGrant
              "Authorization code was not issued to this client"
              { s with state := s.state.erase grant.code, journal }
            rw [if_pos same, hr]
            exact .otherClient journal' record permitted live same

/-- All that can come of a request in a client's own name. The store is not touched. -/
inductive Entitlement {σ : Type} (a : InMemoryAuthority) (grant : CredentialsGrant) (s : Service σ) :
    Except Failure AccessToken × Service σ → Prop
  | notPermitted (journal : Log.Journal)
      (denied : grant.client.grants.permits .clientCredentials = false) :
      Entitlement a grant s
        (.error (.refused (.byAuthority .unauthorizedClient
          "Client is not authorized for the client_credentials grant")), { s with journal })
  | unregistered (journal : Log.Journal)
      (permitted : grant.client.grants.permits .clientCredentials = true)
      (excess : ((grantedScopes grant).diff grant.client.scopes).isEmpty = false) :
      Entitlement a grant s
        (.error (.refused (.byAuthority .invalidScope ("Scope not registered for this client: " ++
          ((grantedScopes grant).diff grant.client.scopes).text))), { s with journal })
  | granted (journal : Log.Journal)
      (permitted : grant.client.grants.permits .clientCredentials = true)
      (registered : ((grantedScopes grant).diff grant.client.scopes).isEmpty = true) :
      Entitlement a grant s
        (a.tokenOf s.now (s.random tokenBytes (s.drawn + 1)) (grantedScopes grant),
          { s with drawn := s.drawn + 1, journal })

/-- Nothing else comes of such a request. -/
theorem perform_grantScopes {σ : Type} (a : InMemoryAuthority) (grant : CredentialsGrant)
    (s : Service σ) : Entitlement a grant s ((a.grantScopes grant).perform s) := by
  rw [grantScopes, Action.perform_bind, perform_requireGrant]
  cases permitted : grant.client.grants.permits .clientCredentials with
  | false =>
      obtain ⟨journal, hr⟩ := perform_reject (σ := σ) (α := Unit) grant.client .unauthorizedClient
        ("Client is not authorized for the " ++ GrantType.clientCredentials.name ++ " grant") s
      rw [if_neg Bool.false_ne_true, hr]
      exact .notPermitted journal permitted
  | true =>
      rw [if_pos rfl, Action.andThen_ok, Action.perform_ite]
      cases registered : ((grantedScopes grant).diff grant.client.scopes).isEmpty with
      | false =>
          obtain ⟨journal, hr⟩ := perform_reject (α := AccessToken) grant.client .invalidScope
            ("Scope not registered for this client: " ++
              ((grantedScopes grant).diff grant.client.scopes).text) s
          rw [if_neg Bool.false_ne_true, hr]
          exact .unregistered journal permitted registered
      | true =>
          obtain ⟨journal, hi⟩ := perform_issue a grant.client (grantedScopes grant) s
          rw [if_pos rfl, hi]
          exact .granted journal permitted registered

end InMemoryAuthority
end OAuthGrant

import OAuthGrant.Proofs.EndpointAnswer
import OAuthGrant.Proofs.StoreSteps

/-!
# Redemptions that fail on the way

A token is made after the code has been used up, and making it can fail: its lifetime may end after the
last date of the calendar. Such a failure is not told to the client, and the code stays used up. A failure
on a request in a client's own name leaves the store as it was.
-/

namespace OAuthGrant
open Time (Timestamp)

namespace AccessToken

/-- That there is no token is never told as a refusal. -/
theorem toProtocolError_of_bearer? {value : String} {issuedAt expiresAt : Timestamp} {scopes : ScopeSet}
    {f : Failure} (h : bearer? value issuedAt expiresAt scopes = .error f) :
    f.toProtocolError = .ok .unexpected := by
  unfold bearer? check at h
  split at h
  · cases h; rfl
  · split at h
    · split at h <;> cases h
      rfl
    · cases h; rfl

end AccessToken

namespace InMemoryAuthority

variable {a : InMemoryAuthority} {f : Failure}

theorem toProtocolError_of_tokenOf {now : Int} {value : String} {scopes : ScopeSet}
    (h : a.tokenOf now value scopes = .error f) : f.toProtocolError = .ok .unexpected := by
  unfold tokenOf at h
  split at h
  · cases h; rfl
  · exact AccessToken.toProtocolError_of_bearer? h

/-- A code that is not stored cannot be redeemed. -/
theorem result_redeem_of_absent {grant : CodeGrant} {s : Service CodeStore}
    (permitted : grant.client.grants.permits .authorizationCode = true)
    (absent : grant.code ∉ s.state.codes) :
    ((a.redeem grant).perform s).1 =
      .error (.refused (.byAuthority .invalidGrant "Invalid authorization code")) := by
  have hdead : s.state.live? s.now grant.code = none := CodeStore.live?_eq_none absent
  have h := a.perform_redeem grant s
  generalize (a.redeem grant).perform s = result at h
  cases h with
  | notPermitted _ denied => rw [permitted] at denied; cases denied
  | notLive => rfl
  | otherClient _ record _ live => rw [hdead] at live; cases live
  | otherUri _ record _ live => rw [hdead] at live; cases live
  | redeemed _ record _ live => rw [hdead] at live; cases live

/-- A redemption that fails for another cause than a refusal has found its code and used it up. -/
theorem state_redeem_of_failed {grant : CodeGrant} {s : Service CodeStore}
    (failed : ((a.redeem grant).perform s).1 = .error f) (internal : f.name ≠ "OAuth2AuthenticationError") :
    f.toProtocolError = .ok .unexpected ∧ grant.client.grants.permits .authorizationCode = true ∧
      (∃ record, s.state.live? s.now grant.code = some record ∧
        record.clientId = grant.client.clientId) ∧
      ((a.redeem grant).perform s).2.state = s.state.erase grant.code := by
  have h := a.perform_redeem grant s
  generalize (a.redeem grant).perform s = result at h failed ⊢
  cases h with
  | redeemed journal record permitted live same fits =>
      exact ⟨toProtocolError_of_tokenOf failed, permitted, ⟨record, live, same⟩, rfl⟩
  | _ => cases failed; exact absurd rfl internal

/-- A request in a client's own name that fails for another cause than a refusal leaves the store as it
was. -/
theorem state_grantScopes_of_failed {grant : CredentialsGrant} {s : Service CodeStore}
    (failed : ((a.grantScopes grant).perform s).1 = .error f)
    (internal : f.name ≠ "OAuth2AuthenticationError") :
    f.toProtocolError = .ok .unexpected ∧ ((a.grantScopes grant).perform s).2.state = s.state := by
  have h := a.perform_grantScopes grant s
  generalize (a.grantScopes grant).perform s = result at h failed ⊢
  cases h with
  | granted => exact ⟨toProtocolError_of_tokenOf failed, rfl⟩
  | _ => cases failed; exact absurd rfl internal

/-- When verifying a grant fails for a cause that the client is not told, it is told of a server error
only. A request in a client's own name leaves the store as it was. A code that was presented was alive
and issued to the client; it is gone from the store, which otherwise is as it was, and presenting it again
is refused at any time. -/
theorem internal_failure_uses_code_up (a : InMemoryAuthority) (grant : GrantRequest)
    (s : Service CodeStore) {f : Failure} (failed : ((a.verify grant).perform s).1 = .error f)
    (internal : f.name ≠ "OAuth2AuthenticationError") :
    f.toProtocolError = .ok .unexpected ∧
    (∀ g, grant = .clientCredentials g → ((a.verify grant).perform s).2.state = s.state) ∧
    (∀ g, grant = .authorizationCode g →
      (∃ record, s.state.live? s.now g.code = some record ∧ record.clientId = g.client.clientId) ∧
      ((a.verify grant).perform s).2.state = s.state.erase g.code ∧
      ∀ t, t.state = ((a.verify grant).perform s).2.state → ((a.verify grant).perform t).1 =
        .error (.refused (.byAuthority .invalidGrant "Invalid authorization code"))) := by
  cases grant with
  | clientCredentials g =>
      obtain ⟨htold, hstate⟩ := state_grantScopes_of_failed failed internal
      exact ⟨htold, fun _ _ => hstate, nofun⟩
  | authorizationCode g =>
      obtain ⟨htold, permitted, hlive, hstate⟩ := state_redeem_of_failed failed internal
      refine ⟨htold, nofun, ?_⟩
      rintro g' ⟨⟩
      refine ⟨hlive, hstate, fun t ht => result_redeem_of_absent permitted ?_⟩
      rw [ht.trans hstate]
      exact fun hmem => (CodeStore.mem_codes_erase.mp hmem).2 rfl

/-- A service half an hour before the end of the calendar, with one code that has just been issued. -/
def lastService : Service CodeStore :=
  ((CodeStore.issue (.text "app") (.list [.text "read"]) .null).perform
    { now := Time.dayCount * Time.perDay - 1800 * Time.perSecond
      random := fun _ n => String.ofList (List.replicate n 'a')
      state := .empty (600 * Time.perSecond) }).2

/-- The client of the code redeems it. -/
def lastGrant : GrantRequest := .authorizationCode ⟨"a", none, ⟨"app", .empty, [], .every⟩⟩

theorem last_verify_fails :
    ((InMemoryAuthority.verify ⟨3600 * Time.perSecond⟩ lastGrant).perform lastService).1 =
      .error .dateOutOfRange := by
  with_unfolding_all rfl

/-- The code is used up although no token could be made, and is refused when it is presented again. -/
theorem last_code_used_up :
    ((InMemoryAuthority.verify ⟨3600 * Time.perSecond⟩ lastGrant).perform lastService).2.state =
        lastService.state.erase "a" ∧
      ((InMemoryAuthority.verify ⟨3600 * Time.perSecond⟩ lastGrant).perform
        ((InMemoryAuthority.verify ⟨3600 * Time.perSecond⟩ lastGrant).perform lastService).2).1 =
          .error (.refused (.byAuthority .invalidGrant "Invalid authorization code")) := by
  have h := (internal_failure_uses_code_up ⟨3600 * Time.perSecond⟩ lastGrant lastService last_verify_fails
    (by decide)).2.2 _ rfl
  exact ⟨h.2.1, h.2.2 _ rfl⟩

/-- An authority with a lifetime of one hour loses the code of a redemption that fails internally. -/
theorem last_code_lost :
    ((create (.int 3600) : Action CodeStore _).perform lastService).1 =
        .ok ⟨3600 * Time.perSecond⟩ ∧
      ((InMemoryAuthority.verify ⟨3600 * Time.perSecond⟩ lastGrant).perform lastService).1 =
        .error .dateOutOfRange ∧
      Failure.dateOutOfRange.name = "OverflowError" ∧
      lastService.state.codes = ["a"] ∧
      ((InMemoryAuthority.verify ⟨3600 * Time.perSecond⟩ lastGrant).perform lastService).2.state.codes =
        [] := by
  refine ⟨?_, last_verify_fails, rfl, ?_, ?_⟩ <;> with_unfolding_all rfl

end InMemoryAuthority
end OAuthGrant

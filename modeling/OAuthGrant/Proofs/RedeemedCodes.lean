import OAuthGrant.Proofs.IssuedTokens
import OAuthGrant.Proofs.Verdicts

/-!
# When a code is redeemed

A code buys a token exactly if the client may use the grant, the code is stored and has not expired, it was
issued to the client, and it is free of a redirect URI or presented with the same one. The decision is
compared with these conditions here; what the authority does follows from the decision.
-/

namespace OAuthGrant.InMemoryAuthority
open CodeStore (live?_eq_some_iff)

variable {store : CodeStore} {now : Int} {grant : CodeGrant} {record : CodeRecord} {scopes : ScopeSet}
  {f : Failure}

/-- That the redirect URI of a record, if it has one, is the one that is presented. An empty URI is one. -/
def UriFits (record : CodeRecord) (grant : CodeGrant) : Prop :=
  record.redirectUri = none ∨ record.redirectUri = grant.redirectUri

/-- That a grant can be redeemed by the record of its code. -/
structure Redeemable (store : CodeStore) (now : Int) (grant : CodeGrant) (record : CodeRecord) : Prop where
  permitted : grant.client.grants.permits .authorizationCode = true
  stored : store.find? grant.code = some record
  alive : now ≤ record.expiresAt.instant
  sameClient : record.clientId = grant.client.clientId
  sameUri : UriFits record grant

theorem not_uriFits_iff :
    ¬ UriFits record grant ↔ record.redirectUri ≠ none ∧ record.redirectUri ≠ grant.redirectUri :=
  not_or

theorem verdict_eq_ok_iff {found : Option CodeRecord} : verdict grant found = .ok scopes ↔
    ∃ record, found = some record ∧ record.clientId = grant.client.clientId ∧ UriFits record grant ∧
      record.scopes = scopes := by
  cases found with
  | none => simp [verdict]
  | some record =>
      rw [verdict]
      by_cases hclient : record.clientId = grant.client.clientId
      · by_cases huri : UriFits record grant
        · rw [if_neg (not_not_intro hclient), if_neg fun h => not_uriFits_iff.mpr h huri]
          simp [hclient, huri]
        · rw [if_neg (not_not_intro hclient), if_pos (not_uriFits_iff.mp huri)]
          simp [huri]
      · simp [hclient]

theorem verdict_eq_error {found : Option CodeRecord} (h : verdict grant found = .error f) :
    ∃ description, f = .refused (.byAuthority .invalidGrant description) := by
  cases found with
  | none => cases h; exact ⟨_, rfl⟩
  | some record =>
      rw [verdict] at h
      split at h
      · cases h; exact ⟨_, rfl⟩
      · split at h
        · cases h; exact ⟨_, rfl⟩
        · cases h

/-- Scopes are granted exactly for a record by which the grant can be redeemed. -/
theorem decision_eq_ok_iff : decision store now (.authorizationCode grant) = .ok scopes ↔
    ∃ record, Redeemable store now grant record ∧ record.scopes = scopes := by
  rw [decision]
  split
  · next permitted =>
      rw [verdict_eq_ok_iff]
      constructor
      · rintro ⟨record, hlive, hclient, huri, hscopes⟩
        obtain ⟨hstored, halive⟩ := live?_eq_some_iff.mp hlive
        exact ⟨record, ⟨permitted, hstored, halive, hclient, huri⟩, hscopes⟩
      · rintro ⟨record, h, hscopes⟩
        exact ⟨record, live?_eq_some_iff.mpr ⟨h.stored, h.alive⟩, h.sameClient, h.sameUri, hscopes⟩
  · next denied =>
      constructor
      · intro h
        cases h
      · rintro ⟨record, h, -⟩
        exact absurd h.permitted denied

theorem decision_eq_error (h : decision store now (.authorizationCode grant) = .error f) :
    ∃ code description, f = .refused (.byAuthority code description) ∧
      code = if grant.client.grants.permits .authorizationCode then .invalidGrant
        else .unauthorizedClient := by
  rw [decision] at h
  split at h
  · next permitted =>
      obtain ⟨description, hf⟩ := verdict_eq_error h
      exact ⟨_, description, hf, (if_pos permitted).symm⟩
  · next denied =>
      cases h
      exact ⟨_, _, rfl, (if_neg denied).symm⟩

theorem find?_storeAfter (store : CodeStore) (grant : CodeGrant) (c : String) :
    (storeAfter store (.authorizationCode grant)).find? c =
      if grant.client.grants.permits .authorizationCode ∧ c = grant.code then none else store.find? c := by
  rw [storeAfter]
  by_cases permitted : grant.client.grants.permits .authorizationCode = true
  · rw [if_pos permitted]
    by_cases hcode : c = grant.code
    · rw [if_pos ⟨permitted, hcode⟩, hcode, CodeStore.find?_erase_self]
    · rw [if_neg (fun h => hcode h.2), CodeStore.find?_erase_of_ne store hcode]
  · rw [if_neg permitted, if_neg (fun h => permitted h.1)]

/-- Verifying a code gives a token exactly if the grant can be redeemed by the record of the code, and the
token is for the scopes of the record. All else is a refusal: of a client that may not use the grant, or of
a grant that is not valid. In any case the code that a permitted client presents is gone from the store,
and nothing else is changed there. -/
theorem redemption_decided (a : InMemoryAuthority) (grant : CodeGrant) (s : Service CodeStore)
    (able : a.CanIssue s) :
    ∃ out after, (a.verify (.authorizationCode grant)).perform s = (out, after) ∧
      ((∃ token, out = .ok token) ↔ ∃ record, Redeemable s.state s.now grant record) ∧
      (∀ token, out = .ok token → ∃ record, Redeemable s.state s.now grant record ∧
        token.IsIssued (nextToken s) s.now a.lifetime record.scopes) ∧
      (∀ f, out = .error f → ∃ code description, f = .refused (.byAuthority code description) ∧
        code = if grant.client.grants.permits .authorizationCode then .invalidGrant
          else .unauthorizedClient) ∧
      after.state = (if grant.client.grants.permits .authorizationCode then s.state.erase grant.code
        else s.state) ∧
      ∀ c, after.state.find? c =
        if grant.client.grants.permits .authorizationCode ∧ c = grant.code then none
        else s.state.find? c := by
  obtain ⟨drawn, journal, -, hverify⟩ := a.perform_verify (.authorizationCode grant) s
  refine ⟨_, _, hverify, ?_⟩
  have hstore := find?_storeAfter s.state grant
  cases hdecision : decision s.state s.now (.authorizationCode grant) with
  | error f =>
      refine ⟨⟨?_, ?_⟩, nofun, ?_, rfl, hstore⟩
      · rintro ⟨token, ⟨⟩⟩
      · rintro ⟨record, h⟩
        have hgranted := decision_eq_ok_iff.mpr ⟨record, h, rfl⟩
        rw [hdecision] at hgranted
        cases hgranted
      · rintro _ ⟨⟩
        exact decision_eq_error hdecision
  | ok scopes =>
      obtain ⟨record, h, rfl⟩ := decision_eq_ok_iff.mp hdecision
      obtain ⟨token, htoken, hissued⟩ := able.tokenOf_eq_ok record.scopes
      have hout : (Except.ok record.scopes).bind
          (a.tokenOf s.now (s.random tokenBytes (s.drawn + 1))) = .ok token := htoken
      rw [hout]
      refine ⟨⟨fun _ => ⟨record, h⟩, fun _ => ⟨token, rfl⟩⟩, ?_, nofun, rfl, hstore⟩
      rintro _ ⟨⟩
      exact ⟨record, h, hissued⟩

/-- The record of a code that has been issued for an empty redirect URI. -/
def blankUriRecord : CodeRecord :=
  ⟨"a", "app", .ofList ["read"], some "", .utc 0, .utc (600 * Time.perSecond)⟩

/-- A service at the instant at which that code expires. -/
def blankUriService : Service CodeStore where
  now := 600 * Time.perSecond
  random := fun _ n => String.ofList (List.replicate n 'b')
  state := ⟨600 * Time.perSecond, [("a", blankUriRecord)]⟩

/-- A client presents that code, perhaps with a redirect URI. -/
def blankUriGrant (redirectUri : Option String) : CodeGrant :=
  ⟨"a", redirectUri, ⟨"app", .empty, [], .every⟩⟩

theorem blankUriService_canIssue : CanIssue ⟨3600 * Time.perSecond⟩ blankUriService :=
  ⟨⟨by decide, by decide +kernel⟩, by decide⟩

/-- The code is redeemed at the very instant of its expiry. Without the empty redirect URI it is refused,
and used up. -/
theorem blankUri_redemption_decided :
    (∃ token, ((verify ⟨3600 * Time.perSecond⟩ (.authorizationCode (blankUriGrant (some "")))).perform
      blankUriService).1 = .ok token) ∧
    (∃ description, ((verify ⟨3600 * Time.perSecond⟩ (.authorizationCode (blankUriGrant none))).perform
      blankUriService).1 = .error (.refused (.byAuthority .invalidGrant description))) ∧
    ((verify ⟨3600 * Time.perSecond⟩ (.authorizationCode (blankUriGrant none))).perform
      blankUriService).2.state.find? "a" = none := by
  obtain ⟨out, after, hverify, hiff, -⟩ :=
    redemption_decided ⟨3600 * Time.perSecond⟩ (blankUriGrant (some "")) _ blankUriService_canIssue
  obtain ⟨out', after', hverify', hiff', -, herror, -, hfind⟩ :=
    redemption_decided ⟨3600 * Time.perSecond⟩ (blankUriGrant none) _ blankUriService_canIssue
  rw [hverify, hverify']
  refine ⟨hiff.mpr ⟨blankUriRecord, rfl, rfl, Int.le_refl _, rfl, .inr rfl⟩, ?_, ?_⟩
  · cases hout : out' with
    | ok token =>
        obtain ⟨record, h⟩ := hiff'.mp ⟨token, hout⟩
        obtain rfl : blankUriRecord = record := Option.some.inj h.stored
        rcases h.sameUri with huri | huri <;> cases huri
    | error f =>
        obtain ⟨_, description, rfl, rfl⟩ := herror f hout
        exact ⟨description, rfl⟩
  · rw [hfind "a"]
    exact if_pos ⟨rfl, rfl⟩

end OAuthGrant.InMemoryAuthority

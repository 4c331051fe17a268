import OAuthGrant.Proofs.EndpointAnswer
import OAuthGrant.Proofs.IssuedTokens

/-!
# Replies up to the value of a token

A token is made of a value that is drawn, and the response for it holds that value. Two tokens that are
made of different values at the same instant for the same scopes have responses that differ in nothing
else; and if one of them has no response, because a scope has a surrogate, neither has the other.
-/

namespace OAuthGrant
open Http (Response)
open Text (isWhole)

/-- Two replies that are the same, apart from the value of a token. -/
inductive SameReply : Except Failure Response → Except Failure Response → Prop
  | same (reply : Except Failure Response) : SameReply reply reply
  | token (value value' : String) (rest : Fields) :
      SameReply (.ok (noStoreResponse 200 (("access_token", .text value) :: rest)))
        (.ok (noStoreResponse 200 (("access_token", .text value') :: rest)))
  | unsent (characters characters' : Text.Unencodable) :
      SameReply (.error (.unencodable characters)) (.error (.unencodable characters'))

theorem SameReply.eq_of_status {r r' : Response} (h : SameReply (.ok r) (.ok r')) (hstatus : r.status ≠ 200) :
    r = r' := by
  cases h with
  | same => rfl
  | token => exact absurd rfl hstatus

namespace AccessToken

/-- What the response for a token holds besides its value, if the token has no extensions. -/
def plainRest (t : AccessToken) : Fields :=
  ("token_type", .text t.tokenType.name) :: ("expires_in", .int t.expiresIn) ::
    if t.scopes.text = "" then [] else [("scope", .text t.scopes.text)]

/-- What a response holds besides the value does not depend on the value. -/
theorem IsIssued.plainRest_eq {t t' : AccessToken} {value value' : String} {now lifetime : Int}
    {scopes : ScopeSet} (h : t.IsIssued value now lifetime scopes)
    (h' : t'.IsIssued value' now lifetime scopes) : t'.plainRest = t.plainRest := by
  have hexpires : t'.expiresIn = t.expiresIn := by
    rw [expiresIn, expiresIn, lifetimeSeconds, lifetimeSeconds, AccessToken.lifetime,
      AccessToken.lifetime, h.issuedAt, h'.issuedAt, h.expiresAt, h'.expiresAt]
  rw [plainRest, plainRest, hexpires, h.tokenType, h.scopes, h'.scopes]

theorem tokenResponseBody_of_plain {t : AccessToken} (h : t.extensions = []) :
    tokenResponseBody t = .ok (("access_token", .text t.value) :: t.plainRest) := by
  rw [tokenResponseBody, TokenResponse.body, TokenResponse.entries, TokenResponse.standardEntries,
    TokenResponse.ofToken, h, plainRest]
  by_cases hscope : t.scopes.text = ""
  · rw [if_pos hscope, if_pos hscope]
    rfl
  · rw [if_neg hscope, if_neg hscope]
    rfl

theorem tokenResponse_of_plain {t : AccessToken} (h : t.extensions = []) :
    tokenResponse t = Response.ofJson 200 (lowerNames noStoreHeaders)
      (.object (("access_token", .text t.value) :: t.plainRest)) := by
  rw [tokenResponse, tokenResponseBody_of_plain h]

end AccessToken

theorem sameReply_sendable {value value' : String} (h : isWhole value = true) (h' : isWhole value' = true)
    (rest : Fields) :
    SameReply (noStoreResponse 200 (("access_token", .text value) :: rest)).sendable
      (noStoreResponse 200 (("access_token", .text value') :: rest)).sendable := by
  have hname : isWhole "access_token" = true := by decide
  have hsendable : ∀ v, isWhole v = true →
      isWhole (noStoreResponse 200 (("access_token", .text v) :: rest)).body = Value.wholeFields rest := by
    intro v hv
    have hbody : (noStoreResponse 200 (("access_token", .text v) :: rest)).body =
        (Value.object (("access_token", .text v) :: rest)).json := rfl
    rw [hbody, Value.isWhole_json, Value.wholeTexts, Value.wholeFields, Value.wholeTexts, hname, hv]
    rfl
  have hchars := Text.Unencodable.inUtf8?_eq_none_iff
    (s := (noStoreResponse 200 (("access_token", .text value) :: rest)).body)
  have hchars' := Text.Unencodable.inUtf8?_eq_none_iff
    (s := (noStoreResponse 200 (("access_token", .text value') :: rest)).body)
  rw [hsendable value h] at hchars
  rw [hsendable value' h'] at hchars'
  unfold Response.sendable
  cases hsend : Value.wholeFields rest with
  | true =>
      rw [hchars.mpr hsend, hchars'.mpr hsend]
      exact .token value value' rest
  | false =>
      have hnone : Value.wholeFields rest ≠ true := by rw [hsend]; exact Bool.false_ne_true
      cases hc : Text.Unencodable.inUtf8?
          (noStoreResponse 200 (("access_token", .text value) :: rest)).body with
      | none => exact absurd (hchars.mp hc) hnone
      | some characters =>
          cases hc' : Text.Unencodable.inUtf8?
              (noStoreResponse 200 (("access_token", .text value') :: rest)).body with
          | none => exact absurd (hchars'.mp hc') hnone
          | some characters' => exact .unsent characters characters'

theorem sameReply_ofJson {value value' : String} (h : isWhole value = true) (h' : isWhole value' = true)
    (rest : Fields) :
    SameReply
      (Response.ofJson 200 (lowerNames noStoreHeaders) (.object (("access_token", .text value) :: rest)))
      (Response.ofJson 200 (lowerNames noStoreHeaders)
        (.object (("access_token", .text value') :: rest))) := by
  have hwritable : ∀ v, Value.haveWritable (("access_token", .text v) :: rest) = Value.haveWritable rest :=
    fun _ => rfl
  rw [ofJson_eq, ofJson_eq, hwritable, hwritable]
  split
  · exact sameReply_sendable h h' rest
  · exact .same _

namespace InMemoryAuthority

/-- Two values that are not empty both make a token for some scopes, or neither does. The tokens differ in
these values only. -/
theorem tokenOf_congr (a : InMemoryAuthority) (now : Int) {value value' : String} (h : value ≠ "")
    (h' : value' ≠ "") (scopes : ScopeSet) :
    (∃ f, a.tokenOf now value scopes = .error f ∧ a.tokenOf now value' scopes = .error f) ∨
      ∃ t t', a.tokenOf now value scopes = .ok t ∧ a.tokenOf now value' scopes = .ok t' ∧
        t.value = value ∧ t'.value = value' ∧ t.extensions = [] ∧ t'.extensions = [] ∧
        t'.plainRest = t.plainRest := by
  by_cases fits : a.Fits now
  · obtain ⟨t, ht, hissued⟩ := fits.tokenOf_eq_ok h scopes
    obtain ⟨t', ht', hissued'⟩ := fits.tokenOf_eq_ok h' scopes
    exact .inr ⟨t, t', ht, ht', hissued.value, hissued'.value, hissued.extensions, hissued'.extensions,
      hissued.plainRest_eq hissued'⟩
  · obtain ⟨f, hf⟩ := tokenOf_eq_error fits scopes
    exact .inl ⟨f, hf value h, hf value' h'⟩

/-- The answers for tokens that are made of different values differ in nothing else. -/
theorem sameReply_tokenOf (a : InMemoryAuthority) (now : Int) {value value' : String} (h : value ≠ "")
    (h' : value' ≠ "") (hwhole : isWhole value = true) (hwhole' : isWhole value' = true)
    (scopes : ScopeSet) (client : ClientIdentity) :
    SameReply (Endpoint.answer ((a.tokenOf now value scopes).map fun t => (client, t)))
      (Endpoint.answer ((a.tokenOf now value' scopes).map fun t => (client, t))) := by
  rcases a.tokenOf_congr now h h' scopes with ⟨f, hf, hf'⟩ | ⟨t, t', ht, ht', rfl, rfl, hext, hext', hrest⟩
  · rw [hf, hf']
    exact .same _
  · rw [ht, ht']
    change SameReply (tokenResponse t) (tokenResponse t')
    rw [AccessToken.tokenResponse_of_plain hext, AccessToken.tokenResponse_of_plain hext', hrest]
    exact sameReply_ofJson hwhole hwhole' t.plainRest

end InMemoryAuthority
end OAuthGrant

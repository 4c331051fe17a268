import OAuthGrant.Proofs.EndpointCourse
import OAuthGrant.Proofs.IgnoredStores
import OAuthGrant.Proofs.IssuedTokens
import OAuthGrant.Proofs.PairedReplies
import OAuthGrant.Proofs.Verdicts
import OAuthGrant.Proofs.WordsOfText

/-!
# The scopes a client is entitled to

A request in a client's own name asks for the words of its scope parameter, however they are set apart from
each other. It is granted exactly if the client has been registered for all of them, and one that asks for
nothing is granted everything that is registered. Otherwise the refusal names what is not registered. Either
is answered with if no surrogate stands in the texts that have to be told.
-/

namespace OAuthGrant
open Text (isWhole)

theorem ScopeSet.isWhole_text_iff {set : ScopeSet} :
    isWhole set.text = true ↔ ∀ x, x ∈ set → isWhole x = true := by
  rw [ScopeSet.text, Text.isWhole_intercalate (by decide), List.all_eq_true]
  rfl

theorem ScopeSet.isEmpty_iff {set : ScopeSet} : set.isEmpty = true ↔ ∀ x, ¬ x ∈ set := by
  rw [isEmpty, List.isEmpty_iff, List.eq_nil_iff_forall_not_mem]
  rfl

/-- Whether a request asks for a scope: it is a word of the scope parameter. -/
def TokenRequest.Asks (request : TokenRequest) (w : String) : Prop :=
  Text.IsWord w (request.scope.getD "")

theorem TokenRequest.mem_ofText_scope {request : TokenRequest} {w : String} :
    w ∈ ScopeSet.ofText (request.scope.getD "") ↔ request.Asks w :=
  ScopeSet.mem_ofText.trans Text.mem_words

namespace InMemoryAuthority

variable {grant : CredentialsGrant} {request : TokenRequest} {client : ClientIdentity}
  {store : CodeStore} {now : Int} {x : String}

theorem grantedScopes_of_asked (h : ∃ x, x ∈ grant.scopes) : grantedScopes grant = grant.scopes := by
  obtain ⟨x, hx⟩ := h
  rw [grantedScopes, if_neg fun hempty => ScopeSet.isEmpty_iff.mp hempty x hx]

theorem grantedScopes_of_unasked (h : ¬ ∃ x, x ∈ grant.scopes) :
    grantedScopes grant = grant.client.scopes := by
  rw [grantedScopes, if_pos (ScopeSet.isEmpty_iff.mpr (not_exists.mp h))]

/-- The scopes that a client would be granted although they are not registered. -/
def excess (grant : CredentialsGrant) : ScopeSet := (grantedScopes grant).diff grant.client.scopes

theorem mem_excess : x ∈ excess grant ↔ x ∈ grant.scopes ∧ ¬ x ∈ grant.client.scopes := by
  rw [excess, ScopeSet.mem_diff]
  by_cases hasked : ∃ y, y ∈ grant.scopes
  · rw [grantedScopes_of_asked hasked]
  · -- All that is registered is granted, and nothing of it is in excess.
    rw [grantedScopes_of_unasked hasked]
    constructor
    · rintro ⟨hregistered, hunregistered⟩
      exact absurd hregistered hunregistered
    · rintro ⟨hx, -⟩
      exact absurd ⟨x, hx⟩ hasked

theorem isEmpty_excess_iff :
    (excess grant).isEmpty = true ↔ ∀ x, x ∈ grant.scopes → x ∈ grant.client.scopes := by
  rw [ScopeSet.isEmpty_iff]
  constructor
  · intro h x hx
    by_cases hregistered : x ∈ grant.client.scopes
    · exact hregistered
    · exact absurd (mem_excess.mpr ⟨hx, hregistered⟩) (h x)
  · intro h x hx
    obtain ⟨hasked, hunregistered⟩ := mem_excess.mp hx
    exact hunregistered (h x hasked)

/-- What a client is told that asks for scopes it has not been registered for. -/
def unregisteredText (words : List String) : String :=
  "Scope not registered for this client: " ++ " ".intercalate words

theorem isWhole_unregisteredText_iff {words : List String} :
    isWhole (unregisteredText words) = true ↔ ∀ w ∈ words, isWhole w = true := by
  have hopen : isWhole "Scope not registered for this client: " = true := by decide +kernel
  have hparts : isWhole (unregisteredText words) =
      (isWhole "Scope not registered for this client: " && isWhole (" ".intercalate words)) :=
    Text.isWhole_append _ _
  rw [hparts, hopen, Text.isWhole_intercalate (by decide), Bool.true_and, List.all_eq_true]

theorem decision_of_denied (denied : grant.client.grants.permits .clientCredentials = false) :
    decision store now (.clientCredentials grant) = .error (notPermitted .clientCredentials) := by
  rw [decision, if_neg (Bool.eq_false_iff.mp denied)]

theorem decision_of_permitted (permitted : grant.client.grants.permits .clientCredentials = true) :
    decision store now (.clientCredentials grant) =
      if (excess grant).isEmpty then .ok (grantedScopes grant)
      else .error (.refused (.byAuthority .invalidScope (unregisteredText (excess grant).toList))) := by
  rw [decision, if_pos permitted]
  rfl

/-- That scopes are those a request asks for, or all that are registered if it asks for none. -/
structure IsGranted (request : TokenRequest) (client : ClientIdentity) (scopes : ScopeSet) : Prop where
  asked : (∃ w, request.Asks w) → ∀ x, x ∈ scopes ↔ request.Asks x
  unasked : (¬ ∃ w, request.Asks w) → scopes = client.scopes
  registered : ∀ x, x ∈ scopes → x ∈ client.scopes

/-- That a list has the words that a request asks for and that are not registered, each once and in the
order of their code points. -/
structure IsExcess (request : TokenRequest) (client : ClientIdentity) (words : List String) : Prop where
  ascending : words.Pairwise Text.Precedes
  mem_iff : ∀ w, w ∈ words ↔ request.Asks w ∧ ¬ w ∈ client.scopes

/-- The grant that a request asks for in the name of a client. -/
def credentialsOf (request : TokenRequest) (client : ClientIdentity) : CredentialsGrant :=
  ⟨.ofText (request.scope.getD ""), client⟩

theorem isGranted_grantedScopes (registered : ∀ w, request.Asks w → w ∈ client.scopes) :
    IsGranted request client (grantedScopes (credentialsOf request client)) := by
  have hmem : ∀ w, w ∈ (credentialsOf request client).scopes ↔ request.Asks w :=
    fun w => TokenRequest.mem_ofText_scope
  have hsome : (∃ w, w ∈ (credentialsOf request client).scopes) ↔ ∃ w, request.Asks w :=
    exists_congr hmem
  by_cases hasked : ∃ w, request.Asks w
  · rw [grantedScopes_of_asked (hsome.mpr hasked)]
    exact ⟨fun _ => hmem, absurd hasked, fun x hx => registered x ((hmem x).mp hx)⟩
  · rw [grantedScopes_of_unasked (mt hsome.mp hasked)]
    exact ⟨fun h => absurd h hasked, fun _ => rfl, fun _ hx => hx⟩

theorem isExcess_excess :
    IsExcess request client (excess (credentialsOf request client)).toList where
  ascending := (excess (credentialsOf request client)).sorted
  mem_iff w := by
    have hmem : w ∈ (credentialsOf request client).scopes ↔ request.Asks w :=
      TokenRequest.mem_ofText_scope
    rw [← hmem]
    exact mem_excess

theorem isEmpty_excess_credentialsOf : (excess (credentialsOf request client)).isEmpty = true ↔
    ∀ w, request.Asks w → w ∈ client.scopes := by
  rw [isEmpty_excess_iff]
  exact forall_congr' fun w => imp_congr_left TokenRequest.mem_ofText_scope

/-- A client that may make the request gets a token if it is registered for all words that it asks for. -/
theorem tokenOf_of_registered {a : InMemoryAuthority} {s : Service CodeStore} (able : a.CanIssue s)
    (permitted : client.grants.permits .clientCredentials = true)
    (registered : ∀ w, request.Asks w → w ∈ client.scopes) :
    ∃ token, (decision s.state s.now (.clientCredentials (credentialsOf request client))).bind
        (a.tokenOf s.now (nextToken s)) = .ok token ∧
      IsGranted request client token.scopes ∧
      token.IsIssued (nextToken s) s.now a.lifetime token.scopes := by
  obtain ⟨token, htoken, hissued⟩ := able.tokenOf_eq_ok (grantedScopes (credentialsOf request client))
  refine ⟨token, ?_, ?_, ?_⟩
  · rw [decision_of_permitted permitted, if_pos (isEmpty_excess_credentialsOf.mpr registered)]
    exact htoken
  · rw [hissued.scopes]
    exact isGranted_grantedScopes registered
  · rw [hissued.scopes]
    exact hissued

/-- A client that asks for more is refused, and the refusal names what it is not registered for. -/
theorem decision_of_unregistered (permitted : client.grants.permits .clientCredentials = true)
    (unregistered : ¬ ∀ w, request.Asks w → w ∈ client.scopes) :
    ∃ words, IsExcess request client words ∧
      decision store now (.clientCredentials (credentialsOf request client)) =
        .error (.refused (.byAuthority .invalidScope (unregisteredText words))) := by
  refine ⟨_, isExcess_excess, ?_⟩
  rw [decision_of_permitted permitted, if_neg (mt isEmpty_excess_credentialsOf.mp unregistered)]

/-- A token without extensions is answered with exactly if its value and its scopes are whole. -/
theorem answer_issued_eq_ok_iff {token : AccessToken} (h : token.extensions = [])
    {response : Http.Response} :
    Endpoint.answer (.ok (client, token)) = .ok response ↔
      (isWhole token.value = true ∧ ∀ x, x ∈ token.scopes → isWhole x = true) ∧
        response = noStoreResponse 200 (("access_token", .text token.value) :: token.plainRest) := by
  have hsendable : token.isSendable = true ↔
      isWhole token.value = true ∧ ∀ x, x ∈ token.scopes → isWhole x = true := by
    have hnone : Value.haveSendable maxNesting (TokenResponse.nonStandard token.extensions) = true := by
      rw [h]
      rfl
    rw [AccessToken.isSendable, hnone, Bool.and_true, Bool.and_eq_true, ScopeSet.isWhole_text_iff]
  rw [Endpoint.answer, tokenResponse_eq_ok_iff, hsendable, AccessToken.tokenResponseBody_of_plain h]
  simp

theorem dispatch_credentials (ownName : request.grantType = .clientCredentials) (a : InMemoryAuthority)
    (s : Service CodeStore) :
    (dispatch a.toAuthority request client).perform s =
      (submit a.toAuthority (.clientCredentials (credentialsOf request client))).perform s := by
  have hwhole : request.hasWholeCode = true := by rw [TokenRequest.hasWholeCode, ownName]
  have hrequest : GrantRequest.ofTokenRequest request client =
      .clientCredentials (credentialsOf request client) := by
    rw [GrantRequest.ofTokenRequest, ownName]
    rfl
  rw [Endpoint.dispatch_of_hasWholeCode hwhole, hrequest]

/-- What comes of a request in a client's own name. A client that may not make one is told so, whatever
scope it asks for. For any other client a token is issued exactly if all words of the scope parameter are
registered; it is for these words, or for all that is registered if there is none, and there is a body for
its response, which is sent exactly if the value and the scopes of the token are whole. Otherwise the client
is told the words that are not registered, again exactly if they are whole (see `Text.isStandIn` for texts
this says nothing of). The store of codes has no part in this: with another one everything else is the same,
and it stays as it is. -/
theorem entitlement_decided (a : InMemoryAuthority) (request : TokenRequest) (client : ClientIdentity)
    (s : Service CodeStore) (ownName : request.grantType = .clientCredentials) (able : a.CanIssue s) :
    ∃ out after, (dispatch a.toAuthority request client).perform s = (out, after) ∧
      (client.grants.permits .clientCredentials = false →
        out = .error (notPermitted .clientCredentials) ∧
        Endpoint.answer (out.map fun token => (client, token)) =
          .ok (noStoreResponse 400 (refusalBody .unauthorizedClient
            "Client is not authorized for the client_credentials grant"))) ∧
      (client.grants.permits .clientCredentials = true →
        ((∃ token, out = .ok token) ↔ ∀ w, request.Asks w → w ∈ client.scopes) ∧
        (∀ token, out = .ok token →
          IsGranted request client token.scopes ∧
          token.IsIssued (nextToken s) s.now a.lifetime token.scopes ∧
          tokenResponseBody token = .ok (("access_token", .text token.value) :: token.plainRest) ∧
          ∀ response, Endpoint.answer (out.map fun token => (client, token)) = .ok response ↔
            (isWhole token.value = true ∧ ∀ x, x ∈ token.scopes → isWhole x = true) ∧
              response = noStoreResponse 200 (("access_token", .text token.value) :: token.plainRest)) ∧
        ∀ f, out = .error f → ∃ words, IsExcess request client words ∧
          f = .refused (.byAuthority .invalidScope (unregisteredText words)) ∧
          f.toProtocolError = .ok ⟨.invalidScope, some (unregisteredText words), none⟩ ∧
          ∀ response, Endpoint.answer (out.map fun token => (client, token)) = .ok response ↔
            (∀ w ∈ words, isWhole w = true) ∧
              response = noStoreResponse 400 (refusalBody .invalidScope (unregisteredText words))) ∧
      (∀ store, (dispatch a.toAuthority request client).perform (s.withState store) =
        (out, after.withState store)) ∧
      after.state = s.state := by
  obtain ⟨drawn, journal, -, hsubmit⟩ :=
    a.perform_submit (.clientCredentials (credentialsOf request client)) s
  refine ⟨_, _, (dispatch_credentials ownName a s).trans hsubmit, ?_, ?_, ?_, rfl⟩
  · intro denied
    have hdecision : decision s.state s.now (.clientCredentials (credentialsOf request client)) =
        .error (notPermitted .clientCredentials) := decision_of_denied denied
    rw [hdecision]
    exact ⟨rfl, Endpoint.answer_byAuthority_of_isWhole .unauthorizedClient (by decide +kernel)⟩
  · intro permitted
    by_cases hall : ∀ w, request.Asks w → w ∈ client.scopes
    · obtain ⟨token, hout, hgranted, hissued⟩ := tokenOf_of_registered able permitted hall
      rw [nextToken] at hout
      rw [hout]
      refine ⟨⟨fun _ => hall, fun _ => ⟨token, rfl⟩⟩, ?_, nofun⟩
      rintro _ ⟨⟩
      exact ⟨hgranted, hissued, AccessToken.tokenResponseBody_of_plain hissued.extensions,
        fun response => answer_issued_eq_ok_iff hissued.extensions⟩
    · obtain ⟨words, hexcess, hdecision⟩ := decision_of_unregistered permitted hall
      rw [hdecision]
      refine ⟨⟨?_, fun h => absurd h hall⟩, nofun, ?_⟩
      · rintro ⟨token, ⟨⟩⟩
      · rintro _ ⟨⟩
        refine ⟨words, hexcess, rfl, toProtocolError_byAuthority _ _, fun response => ?_⟩
        rw [← isWhole_unregisteredText_iff]
        exact Endpoint.answer_byAuthority_eq_ok_iff .invalidScope
  · intro store
    rw [dispatch_credentials ownName, a.ignoresState_submit _ s store, hsubmit]

def idleService : Service CodeStore where
  now := 0
  random := fun _ n => String.ofList (List.replicate n 'a')
  state := .empty (600 * Time.perSecond)

def readWriteClient : ClientIdentity := ⟨"app", .ofList ["write", "read"], [], .every⟩

/-- A request in a client's own name with a scope parameter. -/
def askingFor (scope : String) : TokenRequest where
  grantType := .clientCredentials
  scope := some scope
  codeRule := fun h => absurd h (by decide)

theorem idleService_canIssue : CanIssue ⟨3600 * Time.perSecond⟩ idleService :=
  ⟨⟨by decide, by decide +kernel⟩, by decide⟩

theorem askingFor_asks_iff {scope w : String} : (askingFor scope).Asks w ↔ w ∈ Text.words scope :=
  Text.mem_words.symm

/-- A scope parameter of separators only is granted all that is registered. One with words that are not
registered is refused for these, each of which is named once. -/
theorem blank_entitlement_decided :
    (∃ token, ((dispatch (toAuthority ⟨3600 * Time.perSecond⟩) (askingFor "\u2003\u001c")
        readWriteClient).perform idleService).1 = .ok token ∧ token.scopes = readWriteClient.scopes) ∧
    ((dispatch (toAuthority ⟨3600 * Time.perSecond⟩) (askingFor "write\u00a0admin read\u2003admin Drop")
        readWriteClient).perform idleService).1 =
      .error (.refused (.byAuthority .invalidScope "Scope not registered for this client: Drop admin")) := by
  obtain ⟨out, after, hdispatch, -, hpermitted, -⟩ := entitlement_decided ⟨3600 * Time.perSecond⟩
    (askingFor "\u2003\u001c") readWriteClient _ rfl idleService_canIssue
  obtain ⟨out', after', hdispatch', -, hpermitted', -⟩ := entitlement_decided ⟨3600 * Time.perSecond⟩
    (askingFor "write\u00a0admin read\u2003admin Drop") readWriteClient _ rfl idleService_canIssue
  rw [hdispatch, hdispatch']
  constructor
  · have hblank : ∀ w, ¬ (askingFor "\u2003\u001c").Asks w := by
      intro w
      rw [askingFor_asks_iff, show Text.words "\u2003\u001c" = [] by decide +kernel]
      exact List.not_mem_nil
    obtain ⟨hiff, hissued, -⟩ := hpermitted rfl
    obtain ⟨token, rfl⟩ := hiff.mpr fun w h => absurd h (hblank w)
    exact ⟨token, rfl, (hissued token rfl).1.unasked fun ⟨w, h⟩ => hblank w h⟩
  · have hasks : ∀ w, (askingFor "write\u00a0admin read\u2003admin Drop").Asks w ↔
        w ∈ ["write", "admin", "read", "admin", "Drop"] := by
      intro w
      rw [askingFor_asks_iff, show Text.words "write\u00a0admin read\u2003admin Drop" =
        ["write", "admin", "read", "admin", "Drop"] by decide +kernel]
    obtain ⟨hiff, -, hrefused⟩ := hpermitted' rfl
    cases hout : out' with
    | ok token =>
        have hadmin := hiff.mp ⟨token, hout⟩ "admin" ((hasks "admin").mpr (by decide))
        exact absurd hadmin (by decide +kernel)
    | error f =>
        obtain ⟨words, hwords, rfl, -⟩ := hrefused f hout
        have hlist : words = ["Drop", "admin"] := by
          refine ScopeSet.eq_of_sorted hwords.ascending (by decide +kernel) fun w => ?_
          rw [hwords.mem_iff, hasks]
          constructor
          · rintro ⟨hw, hunregistered⟩
            simp only [List.mem_cons, List.not_mem_nil, or_false] at hw
            rcases hw with rfl | rfl | rfl | rfl | rfl
            all_goals revert hunregistered; decide +kernel
          · intro hw
            simp only [List.mem_cons, List.not_mem_nil, or_false] at hw
            rcases hw with rfl | rfl <;> decide +kernel
        rw [hlist]
        rfl

/-- Nothing is told of a word that is not registered and has a surrogate: there is no response. -/
theorem surrogate_scope_unanswered :
    (askingFor loneSurrogate).grantType = .clientCredentials ∧
    CanIssue ⟨3600 * Time.perSecond⟩ idleService ∧
    ∃ out after, (dispatch (toAuthority ⟨3600 * Time.perSecond⟩) (askingFor loneSurrogate)
        readWriteClient).perform idleService = (out, after) ∧
      out = .error (.refused (.byAuthority .invalidScope (unregisteredText [loneSurrogate]))) ∧
      ∀ response, Endpoint.answer (out.map fun token => (readWriteClient, token)) ≠ .ok response := by
  have hout : ((dispatch (toAuthority ⟨3600 * Time.perSecond⟩) (askingFor loneSurrogate)
      readWriteClient).perform idleService).1 =
        .error (.refused (.byAuthority .invalidScope (unregisteredText [loneSurrogate]))) := by
    with_unfolding_all rfl
  refine ⟨rfl, idleService_canIssue, _, _, Prod.ext hout rfl, rfl, ?_⟩
  intro response hanswer
  obtain ⟨hwhole, -⟩ := (Endpoint.answer_byAuthority_eq_ok_iff .invalidScope).mp hanswer
  have hword := isWhole_unregisteredText_iff.mp hwhole loneSurrogate List.mem_cons_self
  exact absurd hword (by decide)

end InMemoryAuthority
end OAuthGrant

import OAuthGrant.Proofs.PairedRequests

/-!
# Dispatch of grants

A token request is put to the authority if there is a grant request for it, and then once. Which requests
have one is said here for those that nobody has checked, `LooseTokenRequest.Grants`, and for validated ones,
`TokenRequest.StandsFor`: every validated request has its grant request, unless its code has a surrogate.
`Dispatched` lists the ends of a dispatch with the calls that have been made.
-/

namespace OAuthGrant
open Log (Component Message)
open Text (isWhole)

/-- The grant request of a token request that nobody has checked, for a client that may be missing. -/
inductive LooseTokenRequest.Grants (request : LooseTokenRequest) :
    Option ClientIdentity → GrantRequest → Prop
  | code {client : ClientIdentity} {code : String} {redirectUri : Option String}
      (type : request.grantType = some (.text GrantType.authorizationCode.name))
      (given : request.code = .text code) (nonempty : code ≠ "") (whole : isWhole code = true)
      (redirection : request.redirectUri = .ofOption redirectUri) :
      Grants request (some client) (.authorizationCode ⟨code, redirectUri, client⟩)
  | credentials {client : ClientIdentity} {scopes : ScopeSet}
      (type : request.grantType = some (.text GrantType.clientCredentials.name))
      (words : scopesOf? request.scope = .ok scopes) :
      Grants request (some client) (.clientCredentials ⟨scopes, client⟩)

/-- The grant request that a validated request stands for. It carries the code and the redirect URI as they
are, or the words of the scope. -/
inductive TokenRequest.StandsFor (request : TokenRequest) (client : ClientIdentity) :
    GrantRequest → Prop
  | code {code : String} (type : request.grantType = .authorizationCode)
      (given : request.code = some code) :
      StandsFor request client (.authorizationCode ⟨code, request.redirectUri, client⟩)
  | credentials {scopes : ScopeSet} (type : request.grantType = .clientCredentials)
      (words : ∀ word, word ∈ scopes ↔ word ∈ Text.words (request.scope.getD "")) :
      StandsFor request client (.clientCredentials ⟨scopes, client⟩)

namespace Reader

theorem grantType_eq_valid_iff {v : Value} {g : GrantType} :
    grantType v = .valid g ↔ v = .text g.name := by
  constructor
  · intro h
    cases v with
    | text s =>
        rw [grantType, spelled] at h
        obtain ⟨-, hspelled⟩ := whole_eq_valid_iff.mp h
        cases hname : GrantType.ofName? s with
        | none =>
            rw [hname] at hspelled
            cases hspelled
        | some g' =>
            rw [hname] at hspelled
            cases hspelled
            rw [GrantType.ofName?_eq_some_iff.mp hname]
    | _ => cases h
  · rintro rfl
    exact grantType_name g

theorem nonEmptyText_eq_valid_iff {v : Value} {s : String} :
    nonEmptyText v = .valid s ↔ v = .text s ∧ s ≠ "" ∧ isWhole s = true := by
  constructor
  · intro h
    obtain ⟨⟨s, hne⟩, hread, rfl⟩ := Checked.map_eq_valid_iff.mp h
    obtain ⟨htext, hwhole⟩ := nonEmpty_eq_valid_iff.mp hread
    exact ⟨htext, hne, hwhole⟩
  · rintro ⟨rfl, hne, hwhole⟩
    exact nonEmptyText_of_isWhole hne hwhole

end Reader

theorem presentClient_eq_valid_iff {client : Option ClientIdentity} {c : ClientIdentity} :
    presentClient client = .valid c ↔ client = some c := by
  cases client with
  | none => simp [presentClient, Checked.fault, Checked.within]
  | some c' => simp [presentClient]

theorem TokenRequest.exists_code (request : TokenRequest) (h : request.grantType = .authorizationCode) :
    ∃ code, request.code = some code := by
  cases hcode : request.code with
  | some code => exact ⟨code, rfl⟩
  | none => exact absurd (congrArg (Option.getD · "") hcode) (request.codeRule h)

namespace GrantRequest

variable {request : LooseTokenRequest} {client : Option ClientIdentity} {grant : GrantRequest}

/-- There is a grant request exactly for a client that is known and a request of a known grant type whose
parameters for this grant are usable. -/
theorem ofLoose?_eq_ok_iff : ofLoose? request client = .ok grant ↔ request.Grants client grant := by
  constructor
  · intro h
    unfold ofLoose? at h
    split at h
    · cases h
    · next tag htag =>
        split at h
        · next htype =>
            have htext := Reader.grantType_eq_valid_iff.mp htype
            obtain ⟨_, c, ⟨_, redirectUri, ⟨code, hcode, rfl⟩, huri, rfl⟩, hclient, rfl⟩ := by
              simpa only [Checked.toExcept_eq_ok_iff, Checked.seq_eq_valid_iff,
                Checked.map_eq_valid_iff, Checked.within_eq_valid_iff] using h
            obtain ⟨hgiven, hne, hwhole⟩ := Reader.nonEmptyText_eq_valid_iff.mp hcode
            rw [presentClient_eq_valid_iff.mp hclient]
            exact .code (htag.trans (congrArg some htext)) hgiven hne hwhole
              (Reader.optionalText_eq_valid_iff.mp huri)
        · next htype =>
            have htext := Reader.grantType_eq_valid_iff.mp htype
            split at h
            · next scopes hscopes =>
                obtain ⟨c, hclient, rfl⟩ :=
                  Checked.map_eq_valid_iff.mp (Checked.toExcept_eq_ok_iff.mp h)
                rw [presentClient_eq_valid_iff.mp hclient]
                exact .credentials (htag.trans (congrArg some htext)) hscopes
            · cases h
        · cases h
  · intro h
    unfold ofLoose?
    cases h with
    | code type given nonempty whole redirection =>
        rw [type]
        dsimp only
        rw [Reader.grantType_name, given, Reader.nonEmptyText_of_isWhole nonempty whole, redirection,
          Reader.optionalText_eq_valid_iff.mpr rfl]
        rfl
    | credentials type words =>
        rw [type]
        dsimp only
        rw [Reader.grantType_name]
        dsimp only
        rw [words]
        rfl

theorem exists_standsFor {request : TokenRequest} (h : request.hasWholeCode = true)
    (client : ClientIdentity) :
    ∃ grant, ofLoose? request.loose (some client) = .ok grant ∧ request.StandsFor client grant := by
  refine ⟨_, ofLoose?_loose h client, ?_⟩
  unfold ofTokenRequest
  cases htype : request.grantType with
  | authorizationCode =>
      obtain ⟨code, hcode⟩ := request.exists_code htype
      rw [hcode]
      exact .code htype hcode
  | clientCredentials =>
      apply TokenRequest.StandsFor.credentials htype
      intro word
      exact ScopeSet.mem_ofText

theorem ofLoose?_of_hasWholeCode_eq_false {request : TokenRequest} (h : request.hasWholeCode = false)
    (client : ClientIdentity) :
    ofLoose? request.loose (some client) = .error (.invalid [⟨[Param.code], .notUnicode⟩]) := by
  unfold TokenRequest.hasWholeCode at h
  cases htype : request.grantType with
  | authorizationCode =>
      obtain ⟨code, hcode⟩ := request.exists_code htype
      rw [htype, hcode] at h
      exact ofLoose?_of_not_isWhole htype hcode h client
  | clientCredentials =>
      rw [htype] at h
      cases h

end GrantRequest

variable {σ : Type}

/-- The service with a grant announced in its journal. -/
def Service.announcing (s : Service σ) (grant : GrantRequest) : Service σ :=
  { s with
    journal := s.journal.write .tokenEndpoint
      (Message.exchange Component.tokenEndpoint.name Component.authority.name "GRANT-DISPATCH"
        [("grant_type", .text grant.grantType.name), ("client_id", .text grant.client.clientId)]
        .information s.now) }

def dispatchCalls (authority : Authority σ) (request : LooseTokenRequest)
    (client : Option ClientIdentity) (s : Service σ) : List Call :=
  ((dispatchLoose authority.recorded request client).perform s.recording).2.state.2

/-- The ends of a dispatch, with the calls made, the result and the service that is left. The authority
finds the service as it was, with the grant announced in the journal. -/
inductive Dispatched (authority : Authority σ) (request : LooseTokenRequest)
    (client : Option ClientIdentity) (s : Service σ) :
    List Call → Except Failure AccessToken × Service σ → Prop
  | ungranted {f : Failure} (fault : GrantRequest.ofLoose? request client = .error f) :
      Dispatched authority request client s [] (.error f, s)
  | issued {grant : GrantRequest} {u : Service σ} {token : AccessToken}
      (built : GrantRequest.ofLoose? request client = .ok grant)
      (called : (authority grant).perform (s.announcing grant) = (.ok (.token token), u)) :
      Dispatched authority request client s [.verify grant (.ok (.token token))] (.ok token, u)
  | noToken {grant : GrantRequest} {u : Service σ} {v : Value} {f : Failure}
      (built : GrantRequest.ofLoose? request client = .ok grant)
      (called : (authority grant).perform (s.announcing grant) = (.ok (.other v), u))
      (name : f.name = "TypeError")
      (text : f.text = "Authentication authority returned " ++ v.kind ++ ", expected AccessTokenResult") :
      Dispatched authority request client s [.verify grant (.ok (.other v))] (.error f, u)
  | rejected {grant : GrantRequest} {u : Service σ} {f : Failure}
      (built : GrantRequest.ofLoose? request client = .ok grant)
      (called : (authority grant).perform (s.announcing grant) = (.error f, u)) :
      Dispatched authority request client s [.verify grant (.error f)] (.error f, u)

theorem tracks_dispatchLoose (authority : Authority σ) (request : LooseTokenRequest)
    (client : Option ClientIdentity) :
    Action.Tracks (dispatchLoose authority.recorded request client)
      (dispatchLoose authority request client) :=
  (Action.tracks_lift _).bind fun grant => Endpoint.tracks_submit authority grant

/-- Dispatching a request without a grant request calls nobody and leaves the service as it is. -/
theorem dispatchLoose_of_error {authority : Authority σ} {request : LooseTokenRequest}
    {client : Option ClientIdentity} {f : Failure}
    (h : GrantRequest.ofLoose? request client = .error f) (s : Service σ) :
    (dispatchLoose authority request client).perform s = (.error f, s) := by
  rw [dispatchLoose, h]
  rfl

theorem dispatchLoose_of_ok {authority : Authority σ} {request : LooseTokenRequest}
    {client : Option ClientIdentity} {grant : GrantRequest}
    (h : GrantRequest.ofLoose? request client = .ok grant) (s : Service σ) :
    (dispatchLoose authority request client).perform s = (submit authority grant).perform s := by
  rw [dispatchLoose, h, Action.perform_bind, Action.perform_lift, Action.andThen_ok]

theorem perform_submit (authority : Authority σ) (grant : GrantRequest) (s : Service σ) :
    (submit authority grant).perform s =
      (((authority grant).perform (s.announcing grant)).1.bind Reply.token?,
        ((authority grant).perform (s.announcing grant)).2) := by
  rw [submit, Action.perform_bind, Action.perform_log, Action.andThen_ok, Action.perform_bind]
  change Action.andThen _ ((authority grant).perform (s.announcing grant)) = _
  rcases (authority grant).perform (s.announcing grant) with ⟨_ | reply, u⟩
  · rfl
  · rfl

theorem calls_submit (authority : Authority σ) (grant : GrantRequest) (s : Service σ) :
    ((submit authority.recorded grant).perform s.recording).2.state.2 =
      [.verify grant ((authority grant).perform (s.announcing grant)).1] := by
  rw [perform_submit, Authority.recorded, Action.perform_entered]
  rfl

/-- Every dispatch comes to one of its ends. -/
theorem dispatched_dispatchLoose (authority : Authority σ) (request : LooseTokenRequest)
    (client : Option ClientIdentity) (s : Service σ) :
    Dispatched authority request client s (dispatchCalls authority request client s)
      ((dispatchLoose authority request client).perform s) := by
  cases built : GrantRequest.ofLoose? request client with
  | error f =>
      rw [dispatchCalls, dispatchLoose_of_error built, dispatchLoose_of_error built]
      exact .ungranted built
  | ok grant =>
      rw [dispatchCalls, dispatchLoose_of_ok built, dispatchLoose_of_ok built, calls_submit, perform_submit]
      rcases called : (authority grant).perform (s.announcing grant) with ⟨_ | _ | v, u⟩
      · exact .rejected built called
      · exact .issued built called
      · exact .noToken built called rfl rfl

/-- A validated request has exactly the grant request it stands for, unless its code has a surrogate, which
the grant request cannot hold (see `Text.isStandIn` for codes this says nothing of). Any request at all has
one under the conditions of `LooseTokenRequest.Grants`. The authority is called once, with the grant
request, if there is one, and not at all otherwise; its token is returned, any other value is a `TypeError`
and its failure is raised as it is. Recording the calls changes nothing. -/
theorem authority_called_iff_grant (authority : Authority σ) (s : Service σ) :
    (∀ (p : Parameters) (request : TokenRequest), TokenRequest.ofParameters p = .ok request →
      ∀ client : ClientIdentity,
        (request.hasWholeCode = true →
          ∃ grant, GrantRequest.ofLoose? request.loose (some client) = .ok grant ∧
            request.StandsFor client grant) ∧
        (request.hasWholeCode = false →
          GrantRequest.ofLoose? request.loose (some client) =
            .error (.invalid [⟨[Param.code], .notUnicode⟩]))) ∧
    ∀ (request : LooseTokenRequest) (client : Option ClientIdentity),
      (∀ grant, GrantRequest.ofLoose? request client = .ok grant ↔ request.Grants client grant) ∧
      (((dispatchLoose authority.recorded request client).perform s.recording).1 =
          ((dispatchLoose authority request client).perform s).1 ∧
        ((dispatchLoose authority.recorded request client).perform s.recording).2.erase =
          ((dispatchLoose authority request client).perform s).2) ∧
      Dispatched authority request client s (dispatchCalls authority request client s)
        ((dispatchLoose authority request client).perform s) := by
  refine ⟨?_, ?_⟩
  · intro p request _ client
    constructor
    · intro hwhole
      exact GrantRequest.exists_standsFor hwhole client
    · intro hsurrogate
      exact GrantRequest.ofLoose?_of_hasWholeCode_eq_false hsurrogate client
  · intro request client
    refine ⟨?_, tracks_dispatchLoose authority request client s.recording,
      dispatched_dispatchLoose authority request client s⟩
    intro grant
    exact GrantRequest.ofLoose?_eq_ok_iff

/-- Parameters that present a code together with an empty redirect URI. -/
def codeParameters (code : String) : Parameters :=
  .pairs [("grant_type", .text "authorization_code"), ("code", .text code), ("redirect_uri", .text "")]

def grantedClient : ClientIdentity := ⟨"app", .empty, [], .every⟩

/-- A code is put to the authority with the empty redirect URI it comes with, one with a surrogate has no
grant request, and nobody is called when no client is known. -/
theorem codeParameters_dispatched :
    (∃ request, TokenRequest.ofParameters (codeParameters "c") = .ok request ∧
      GrantRequest.ofLoose? request.loose (some grantedClient) =
        .ok (.authorizationCode ⟨"c", some "", grantedClient⟩)) ∧
    (∃ request, TokenRequest.ofParameters (codeParameters loneSurrogate) = .ok request ∧
      GrantRequest.ofLoose? request.loose (some grantedClient) =
        .error (.invalid [⟨["code"], .notUnicode⟩])) ∧
    ∀ (authority : Authority Unit) (request : LooseTokenRequest),
      dispatchCalls authority request none Endpoint.sampleService = [] := by
  have hvalidated := (authority_called_iff_grant (fun _ => throw .noAuthority) Endpoint.sampleService).1
  refine ⟨?_, ?_, ?_⟩
  · have hread : TokenRequest.ofParameters (codeParameters "c") =
        .ok ⟨.authorizationCode, some "c", some "", none, none, by decide⟩ := by rfl
    obtain ⟨grant, hgrant, hstands⟩ := (hvalidated _ _ hread grantedClient).1 (by decide)
    refine ⟨_, hread, ?_⟩
    cases hstands with
    | code type given =>
        cases given
        exact hgrant
    | credentials type words => cases type
  · have hread : TokenRequest.ofParameters (codeParameters loneSurrogate) =
        .ok ⟨.authorizationCode, some loneSurrogate, some "", none, none, by decide⟩ := by rfl
    exact ⟨_, hread, (hvalidated _ _ hread grantedClient).2 (by decide)⟩
  · intro authority request
    obtain ⟨hgranted, -, hend⟩ :=
      (authority_called_iff_grant authority Endpoint.sampleService).2 request none
    -- Every grant request names its client.
    have hnone : ∀ grant, GrantRequest.ofLoose? request none ≠ .ok grant := by
      intro grant hgrant
      cases (hgranted grant).mp hgrant
    generalize dispatchCalls authority request none Endpoint.sampleService = calls at hend ⊢
    generalize (dispatchLoose authority request none).perform Endpoint.sampleService = result at hend
    cases hend with
    | ungranted fault => rfl
    | issued built called => exact absurd built (hnone _)
    | noToken built called name text => exact absurd built (hnone _)
    | rejected built called => exact absurd built (hnone _)

/-- A code with a surrogate is validated, but its request has no grant request and the authority is not
called. -/
theorem surrogate_code_not_dispatched :
    ∃ request, TokenRequest.ofParameters (codeParameters loneSurrogate) = .ok request ∧
      (∀ grant, GrantRequest.ofLoose? request.loose (some grantedClient) ≠ .ok grant) ∧
      dispatchCalls (fun _ => pure (.other .null)) request.loose (some grantedClient)
        Endpoint.sampleService = [] := by
  refine ⟨⟨.authorizationCode, some loneSurrogate, some "", none, none, by decide⟩, by rfl, ?_, by rfl⟩
  intro grant hgrant
  cases hgrant

end OAuthGrant

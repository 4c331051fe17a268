import OAuthGrant.Proofs.EntitledScopes
import OAuthGrant.Proofs.StandardEntries

/-!
# Scopes that are read back

The scopes of a token are emitted as one text, which joins them by spaces, and a scope parameter is split at
every blank. The two agree on all sets whose elements are words, and on no others. Whatever has been read from
a parameter is such a set, so that a client can ask again for what it has been granted.
-/

namespace OAuthGrant

/-- That a text is one word: it is not empty, and no character in it is blank. -/
structure Text.IsSolid (s : String) : Prop where
  ne_empty : s ≠ ""
  solid : ∀ c ∈ s.toList, isBlank c = false

namespace Text

theorem IsWord.isSolid {w s : String} (h : IsWord w s) : IsSolid w where
  ne_empty := by
    rintro rfl
    exact h.ne_nil rfl
  solid := h.solid

theorem isWord_of_isSolid {w s : String} (h : IsSolid s) : IsWord w s ↔ w = s := by
  rw [IsWord, isRun_of_solid h.solid, String.toList_inj]
  have hne : s.toList ≠ [] := by simpa using h.ne_empty
  exact and_iff_right hne

theorem not_isWord_empty (w : String) : ¬ IsWord w "" := by
  rw [← mem_words, words_empty]
  exact List.not_mem_nil

theorem isWord_append {w s t : String} :
    IsWord w (s ++ " " ++ t) ↔ IsWord w s ∨ IsWord w t := by
  have hblank : isBlank ' ' = true := by decide
  have hlist : (s ++ " " ++ t).toList = s.toList ++ ' ' :: t.toList := by simp
  rw [IsWord, hlist]
  exact ⟨IsRun.in_part hblank, IsRun.of_parts hblank⟩

/-- The words of texts that are joined by spaces are the words of these texts. -/
theorem isWord_intercalate {w : String} {texts : List String} :
    IsWord w (" ".intercalate texts) ↔ ∃ s ∈ texts, IsWord w s := by
  induction texts with
  | nil => simpa using not_isWord_empty w
  | cons s texts ih =>
      cases texts with
      | nil => simp
      | cons t texts =>
          rw [String.intercalate_cons_cons, isWord_append, ih]
          simp

end Text

namespace ScopeSet

variable {set : ScopeSet} {s : String}

theorem mem_ofText_text {x : String} : x ∈ ofText set.text ↔ ∃ y ∈ set, Text.IsWord x y := by
  rw [mem_ofText, Text.mem_words, text, Text.isWord_intercalate]
  rfl

/-- A set is read back from its text exactly if all its elements are words. -/
theorem ofText_text_iff : ofText set.text = set ↔ ∀ x, x ∈ set → Text.IsSolid x := by
  constructor
  · intro h x hx
    rw [← h, mem_ofText_text] at hx
    obtain ⟨y, -, hword⟩ := hx
    exact hword.isSolid
  · intro h
    apply ext
    intro x
    rw [mem_ofText_text]
    constructor
    · rintro ⟨y, hy, hword⟩
      rw [Text.isWord_of_isSolid (h y hy)] at hword
      exact hword ▸ hy
    · intro hx
      exact ⟨x, hx, (Text.isWord_of_isSolid (h x hx)).mpr rfl⟩

theorem isSolid_of_mem_ofText {x : String} (h : x ∈ ofText s) : Text.IsSolid x :=
  (Text.mem_words.mp (mem_ofText.mp h)).isSolid

/-- The text that is emitted for a set: none if it is empty. -/
def emitted (set : ScopeSet) : Option String := if set.text = "" then none else some set.text

theorem scopesOf?_emitted : scopesOf? (.ofOption set.emitted) = .ok (ofText set.text) := by
  have hget : set.emitted.getD "" = set.text := by
    unfold emitted
    split
    · next h => rw [h]; rfl
    · rfl
  rw [scopesOf?_ofOption, hget]

theorem emitted_of_mem {x : String} (hx : x ∈ set) (h : Text.IsSolid x) : set.emitted = some set.text := by
  have hword : x ∈ ofText set.text := mem_ofText_text.mpr ⟨x, hx, (Text.isWord_of_isSolid h).mpr rfl⟩
  have hne : set.text ≠ "" := by
    intro hempty
    rw [hempty, mem_ofText] at hword
    exact List.not_mem_nil hword
  rw [emitted, if_neg hne]

end ScopeSet

namespace InMemoryAuthority

variable {a : InMemoryAuthority} {request again : TokenRequest} {client : ClientIdentity}
  {token : AccessToken} {now : Int} {value : String} {scopes : ScopeSet}

theorem fits_of_tokenOf (h : a.tokenOf now value scopes = .ok token) :
    a.Fits now ∧ token.IsIssued value now a.lifetime scopes := by
  have hvalue : value ≠ "" := by
    rintro rfl
    rw [tokenOf] at h
    split at h
    · cases h
    · rw [AccessToken.bearer?, dif_pos rfl] at h
      cases h
  by_cases fits : a.Fits now
  · obtain ⟨token', htoken', hissued⟩ := fits.tokenOf_eq_ok hvalue scopes
    rw [htoken'] at h
    cases h
    exact ⟨fits, hissued⟩
  · obtain ⟨f, hf⟩ := tokenOf_eq_error fits scopes
    rw [hf value hvalue] at h
    cases h

theorem decision_of_granted {s after : Service CodeStore} (ownName : request.grantType = .clientCredentials)
    (granted : (dispatch a.toAuthority request client).perform s = (.ok token, after)) :
    decision s.state s.now (.clientCredentials (credentialsOf request client)) = .ok token.scopes ∧
      a.Fits s.now ∧ token.extensions = [] := by
  obtain ⟨drawn, journal, -, hsubmit⟩ :=
    a.perform_submit (.clientCredentials (credentialsOf request client)) s
  rw [dispatch_credentials ownName, hsubmit, Prod.mk.injEq] at granted
  obtain ⟨hout, -⟩ := granted
  cases hdecision : decision s.state s.now (.clientCredentials (credentialsOf request client)) with
  | error f =>
      rw [hdecision] at hout
      cases hout
  | ok scopes =>
      rw [hdecision] at hout
      obtain ⟨fits, hissued⟩ := fits_of_tokenOf hout
      exact ⟨by rw [hissued.scopes], fits, hissued.extensions⟩

theorem granted_of_decision {s : Service CodeStore} (ownName : request.grantType = .clientCredentials)
    (able : a.CanIssue s)
    (h : decision s.state s.now (.clientCredentials (credentialsOf request client)) = .ok scopes) :
    ∃ token after, (dispatch a.toAuthority request client).perform s = (.ok token, after) ∧
      token.scopes = scopes ∧ token.extensions = [] := by
  obtain ⟨drawn, journal, -, hsubmit⟩ :=
    a.perform_submit (.clientCredentials (credentialsOf request client)) s
  obtain ⟨token, htoken, hissued⟩ := able.tokenOf_eq_ok scopes
  have hperform : (dispatch a.toAuthority request client).perform s = _ :=
    (dispatch_credentials ownName a s).trans hsubmit
  have hout : (Except.ok scopes : Except Failure ScopeSet).bind
      (a.tokenOf s.now (s.random tokenBytes (s.drawn + 1))) = .ok token := htoken
  rw [h, hout] at hperform
  exact ⟨token, _, hperform, hissued.scopes, hissued.extensions⟩

theorem scopes_of_decision {store : CodeStore} (asked : ∃ w, request.Asks w)
    (h : decision store now (.clientCredentials (credentialsOf request client)) = .ok scopes) :
    scopes = .ofText (request.scope.getD "") := by
  have hasked : ∃ x, x ∈ (credentialsOf request client).scopes := by
    obtain ⟨w, hw⟩ := asked
    exact ⟨w, TokenRequest.mem_ofText_scope.mpr hw⟩
  cases permitted : client.grants.permits .clientCredentials with
  | false =>
      rw [decision_of_denied permitted] at h
      cases h
  | true =>
      rw [decision_of_permitted permitted] at h
      split at h
      · rw [grantedScopes_of_asked hasked] at h
        cases h
        rfl
      · cases h

theorem credentialsOf_resent (h : again.scope = some (ScopeSet.ofText (request.scope.getD "")).text) :
    credentialsOf again client = credentialsOf request client := by
  have hsame : ScopeSet.ofText (ScopeSet.ofText (request.scope.getD "")).text =
      .ofText (request.scope.getD "") :=
    ScopeSet.ofText_text_iff.mpr fun x hx => ScopeSet.isSolid_of_mem_ofText hx
  rw [credentialsOf, h, Option.getD_some, hsame]
  rfl

theorem find?_scope_of_body {body : Fields} (h : tokenResponseBody token = .ok body) :
    body.find? "scope" = token.scopes.emitted.map .text := by
  rw [(TokenResponse.hasStandard_of_body h).scope]
  unfold ScopeSet.emitted
  split <;> rfl

/-- The text that is emitted for the scopes of a token is read back as these scopes exactly if each of them is
a word, and what has been read from a text is emitted and read back as it is. So a client that was granted the
scopes it asked for in its own name can ask for the scope in the response at any time: the same scopes are
granted again and the same scope is in the response, if a token can be issued at all at that time. -/
theorem emitted_scopes_read_back :
    (∀ t body, tokenResponseBody t = .ok body →
      body.find? "scope" = t.scopes.emitted.map .text) ∧
    (∀ scopes : ScopeSet, scopesOf? (.ofOption scopes.emitted) = .ok scopes ↔
      ∀ x, x ∈ scopes → Text.IsSolid x) ∧
    (∀ s, ∃ scopes, scopesOf? (.text s) = .ok scopes ∧
      scopesOf? (.ofOption scopes.emitted) = .ok scopes) ∧
    ∀ (a : InMemoryAuthority) (request : TokenRequest) (client : ClientIdentity)
      (s after : Service CodeStore) (token : AccessToken),
      request.grantType = .clientCredentials → (∃ w, request.Asks w) →
      (dispatch a.toAuthority request client).perform s = (.ok token, after) →
      ∃ body scope, tokenResponseBody token = .ok body ∧ body.find? "scope" = some (.text scope) ∧
        ∀ (again : TokenRequest) (s' : Service CodeStore),
          again.grantType = .clientCredentials → again.scope = some scope →
          Time.Timestamp.inRange (s'.now + a.lifetime) = true → nextToken s' ≠ "" →
          ∃ token' after' body',
            (dispatch a.toAuthority again client).perform s' = (.ok token', after') ∧
            token'.scopes = token.scopes ∧ tokenResponseBody token' = .ok body' ∧
            body'.find? "scope" = some (.text scope) := by
  have hread : ∀ scopes : ScopeSet, scopesOf? (.ofOption scopes.emitted) = .ok scopes ↔
      ∀ x, x ∈ scopes → Text.IsSolid x := by
    intro scopes
    rw [ScopeSet.scopesOf?_emitted, Except.ok.injEq, ScopeSet.ofText_text_iff]
  refine ⟨?_, hread, ?_, ?_⟩
  · intro t body h
    exact find?_scope_of_body h
  · intro s
    exact ⟨_, scopesOf?_text s, (hread _).mpr fun x hx => ScopeSet.isSolid_of_mem_ofText hx⟩
  · intro a request client s after token ownName asked granted
    obtain ⟨hdecision, fits, hplain⟩ := decision_of_granted ownName granted
    have hscopes := scopes_of_decision asked hdecision
    obtain ⟨w, hw⟩ := asked
    have hmem : w ∈ token.scopes := by
      rw [hscopes]
      exact TokenRequest.mem_ofText_scope.mpr hw
    have hemitted := ScopeSet.emitted_of_mem hmem hw.isSolid
    have hbody := AccessToken.tokenResponseBody_of_plain hplain
    have hfind := find?_scope_of_body hbody
    rw [hemitted] at hfind
    refine ⟨_, token.scopes.text, hbody, hfind, ?_⟩
    intro again s' ownName' hagain dated drawn
    rw [hscopes] at hagain
    -- The decision on a request in a client's own name looks at neither the clock nor the store.
    have hdecision' : decision s'.state s'.now (.clientCredentials (credentialsOf again client)) =
        .ok token.scopes := by
      rw [credentialsOf_resent hagain]
      exact hdecision
    obtain ⟨token', after', hgranted', hscopes', hplain'⟩ :=
      granted_of_decision ownName' ⟨⟨fits.positive, dated⟩, drawn⟩ hdecision'
    have hbody' := AccessToken.tokenResponseBody_of_plain hplain'
    have hfind' := find?_scope_of_body hbody'
    rw [hscopes', hemitted] at hfind'
    exact ⟨token', after', _, hgranted', hscopes', hbody', hfind'⟩

/-- Words that were set apart by several kinds of blanks, one of them twice, are granted again to a client
that asks for the scope in the response. -/
theorem emitted_scopes_granted_again :
    ∃ token body scope,
      ((dispatch (toAuthority ⟨3600 * Time.perSecond⟩) (askingFor "write\u2003read\u001cwrite")
        readWriteClient).perform idleService).1 = .ok token ∧
      tokenResponseBody token = .ok body ∧ body.find? "scope" = some (.text scope) ∧
      ∃ token', ((dispatch (toAuthority ⟨3600 * Time.perSecond⟩) (askingFor scope)
        readWriteClient).perform idleService).1 = .ok token' ∧ token'.scopes = token.scopes := by
  have hasked : (askingFor "write\u2003read\u001cwrite").Asks "read" := by
    rw [askingFor_asks_iff]
    decide +kernel
  have hdecision : decision idleService.state idleService.now (.clientCredentials
      (credentialsOf (askingFor "write\u2003read\u001cwrite") readWriteClient)) =
        .ok (grantedScopes (credentialsOf (askingFor "write\u2003read\u001cwrite") readWriteClient)) := by
    rw [decision_of_permitted rfl, if_pos (by decide +kernel)]
  obtain ⟨token, after, hgranted, -⟩ := granted_of_decision rfl idleService_canIssue hdecision
  obtain ⟨-, -, -, hagain⟩ := emitted_scopes_read_back
  obtain ⟨body, scope, hbody, hfind, hgrant⟩ := hagain ⟨3600 * Time.perSecond⟩
    (askingFor "write\u2003read\u001cwrite") readWriteClient idleService after token rfl ⟨_, hasked⟩
    hgranted
  obtain ⟨token', after', body', hgranted', hscopes, -⟩ := hgrant (askingFor scope) idleService rfl rfl
    (by decide +kernel) idleService_canIssue.drawn
  exact ⟨token, body, scope, by rw [hgranted], hbody, hfind, token', by rw [hgranted'], hscopes⟩

end InMemoryAuthority
end OAuthGrant

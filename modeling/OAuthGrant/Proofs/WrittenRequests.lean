import OAuthGrant.Proofs.ParameterRules

/-!
# Requests that are written out and read again

A token request is written out as parameters, each with its one value. Reading them gives the request
back without the fields that its grant has no use for. A request that has been read has none of these,
so that writing it out and reading it again changes nothing.
-/

namespace OAuthGrant

theorem GrantType.name_injective {g g' : GrantType} (h : g.name = g'.name) : g = g' :=
  Option.some.inj ((ofName?_name g).symm.trans ((congrArg ofName? h).trans (ofName?_name g')))

namespace TokenRequest

theorem IsMadeOf.unique {r r' : TokenRequest} {values : String → List String}
    (h : r.IsMadeOf values) (h' : r'.IsMadeOf values) : r = r' := by
  have hgrant : r.grantType = r'.grantType :=
    GrantType.name_injective (List.singleton_inj.mp (h.grantType.symm.trans h'.grantType))
  have hcode : r.code = r'.code := by rw [h.code, h'.code, hgrant]
  have huri : r.redirectUri = r'.redirectUri := by rw [h.redirectUri, h'.redirectUri, hgrant]
  have hscope : r.scope = r'.scope := by rw [h.scope, h'.scope, hgrant]
  have hclient : r.clientId = r'.clientId := by rw [h.clientId, h'.clientId]
  cases r
  cases r'
  simp only [mk.injEq]
  exact ⟨hgrant, hcode, huri, hscope, hclient⟩

/-- The request without the fields that its grant has no use for. -/
def ofItsGrant (r : TokenRequest) : TokenRequest where
  grantType := r.grantType
  code := if r.grantType = .authorizationCode then r.code else none
  redirectUri := if r.grantType = .authorizationCode then r.redirectUri else none
  scope := if r.grantType = .clientCredentials then r.scope else none
  clientId := r.clientId
  codeRule := by
    intro hgrant
    rw [if_pos hgrant]
    exact r.codeRule hgrant

def given (r : TokenRequest) : List (String × Option String) :=
  [(Param.grantType, some r.grantType.name), (Param.code, r.code),
   (Param.redirectUri, r.redirectUri), (Param.scope, r.scope), (Param.clientId, r.clientId)]

def writtenOut (r : TokenRequest) : TextParameters :=
  .mapping (r.toParameters.map fun e => (e.1, .several e.2))

variable {r : TokenRequest} {name : String}

theorem toParameters_writtenOut (r : TokenRequest) :
    r.writtenOut.toParameters = .ofLists r.toParameters := by
  rw [writtenOut, TextParameters.toParameters, Parameters.ofLists, List.map_map]
  rfl

theorem values_writtenOut (value : Option String) (h : r.given.lookup name = some value) :
    r.writtenOut.values name = value.toList := by
  have hnames : r.given.map Prod.fst =
      [Param.grantType, Param.code, Param.redirectUri, Param.scope, Param.clientId] := rfl
  have hnodup : (r.given.map Prod.fst).Nodup := by
    rw [hnames]
    decide
  have hlookup : r.toParameters.lookup name = value.map fun v => [v] := by
    rw [toParameters, ← given, lookup_filterMap_snd _ hnodup, h, Option.join_some]
  rw [writtenOut, TextParameters.values, lookup_map_snd, hlookup]
  cases value <;> rfl

theorem isTokenRequest_writtenOut (r : TokenRequest) :
    IsTokenRequest r.writtenOut.values r.grantType where
  grantType := values_writtenOut (some r.grantType.name) rfl
  unrepeated := by
    have hlength : ∀ {name : String} (value : Option String), r.given.lookup name = some value →
        (r.writtenOut.values name).length ≤ 1 := by
      intro name value h
      rw [values_writtenOut value h]
      cases value <;> simp
    intro name hname
    simp only [List.mem_cons, List.not_mem_nil, or_false] at hname
    rcases hname with rfl | rfl | rfl | rfl
    · exact hlength r.clientId rfl
    · exact hlength r.code rfl
    · exact hlength r.redirectUri rfl
    · exact hlength r.scope rfl
  code := by
    intro hgrant
    have hne := r.codeRule hgrant
    rw [values_writtenOut r.code rfl]
    cases hcode : r.code with
    | none => rw [hcode] at hne; exact absurd rfl hne
    | some s => rw [hcode] at hne; exact ⟨s, rfl, hne⟩

/-- What is written out makes the request without the fields that its grant has no use for. -/
theorem isMadeOf_writtenOut (r : TokenRequest) : r.ofItsGrant.IsMadeOf r.writtenOut.values where
  grantType := values_writtenOut (some r.grantType.name) rfl
  clientId := by rw [values_writtenOut r.clientId rfl, Option.head?_toList]; rfl
  code := by rw [values_writtenOut r.code rfl, Option.head?_toList]; rfl
  redirectUri := by rw [values_writtenOut r.redirectUri rfl, Option.head?_toList]; rfl
  scope := by rw [values_writtenOut r.scope rfl, Option.head?_toList]; rfl

theorem ofParameters_writtenOut (r : TokenRequest) :
    ofParameters (.ofLists r.toParameters) = .ok r.ofItsGrant := by
  have hgives := r.writtenOut.gives_toParameters
  rw [toParameters_writtenOut] at hgives
  obtain ⟨r', hr'⟩ := (ofParameters_eq_ok_iff hgives).mpr ⟨_, r.isTokenRequest_writtenOut⟩
  rw [hr', (isMadeOf_of_ofParameters hgives hr').unique r.isMadeOf_writtenOut]

theorem ofItsGrant_of_ofCodeParameters {p : Parameters} {clientId : Option String}
    (h : ofCodeParameters p clientId = .ok r) : r.ofItsGrant = r := by
  rw [ofCodeParameters] at h
  cases hcode : p.exactlyOne Param.code with
  | error f => rw [hcode] at h; cases h
  | ok code =>
      cases huri : p.atMostOne Param.redirectUri with
      | error f => rw [hcode, huri] at h; cases h
      | ok redirectUri =>
          cases hrest : p.rejectRepeated [Param.scope] with
          | error f => rw [hcode, huri, hrest] at h; cases h
          | ok _ => rw [hcode, huri, hrest] at h; cases h; rfl

theorem ofItsGrant_of_ofCredentialsParameters {p : Parameters} {clientId : Option String}
    (h : ofCredentialsParameters p clientId = .ok r) : r.ofItsGrant = r := by
  rw [ofCredentialsParameters] at h
  cases hscope : p.atMostOne Param.scope with
  | error f => rw [hscope] at h; cases h
  | ok scope =>
      cases hrest : p.rejectRepeated [Param.code, Param.redirectUri] with
      | error f => rw [hscope, hrest] at h; cases h
      | ok _ => rw [hscope, hrest] at h; cases h; rfl

/-- A request that has been read, from whatever container, has no field that its grant has no use for. -/
theorem ofItsGrant_of_ofParameters {p : Parameters} (h : ofParameters p = .ok r) : r.ofItsGrant = r := by
  rw [ofParameters] at h
  cases hgrant : p.exactlyOne Param.grantType with
  | error f => rw [hgrant] at h; cases h
  | ok name =>
      rw [hgrant] at h
      dsimp only [bind, Except.bind] at h
      cases hname : GrantType.ofName? name.1 with
      | none => rw [hname] at h; cases h
      | some grant =>
          rw [hname] at h
          dsimp only at h
          cases hclient : p.atMostOne Param.clientId with
          | error f => rw [hclient] at h; cases h
          | ok clientId =>
              rw [hclient] at h
              cases grant with
              | authorizationCode => exact ofItsGrant_of_ofCodeParameters h
              | clientCredentials => exact ofItsGrant_of_ofCredentialsParameters h

/-- Every request is valid by its own rules, and writing it out and reading it again never fails and only
clears the fields that its grant has no use for. So it changes nothing in a request that has been read, and
these are the only requests in which it changes nothing. -/
theorem reading_written_out :
    (∀ r : TokenRequest, ofFields r.toFields = .valid r ∧
      ofParameters (.ofLists r.toParameters) = .ok r.ofItsGrant) ∧
    (∀ (p : Parameters) (r : TokenRequest), ofParameters p = .ok r →
      ofParameters (.ofLists r.toParameters) = .ok r) ∧
    (∀ r : TokenRequest, ofParameters (.ofLists r.toParameters) = .ok r ↔
      ∃ p, ofParameters p = .ok r) := by
  have hread : ∀ (p : Parameters) (r : TokenRequest), ofParameters p = .ok r →
      ofParameters (.ofLists r.toParameters) = .ok r := by
    intro p r h
    rw [ofParameters_writtenOut, ofItsGrant_of_ofParameters h]
  refine ⟨fun r => ⟨r.ofFields_toFields, r.ofParameters_writtenOut⟩, hread, fun r => ⟨?_, ?_⟩⟩
  · intro h
    exact ⟨_, h⟩
  · rintro ⟨p, h⟩
    exact hread p r h

/-- A request of a client in its own name that also has a code, an empty redirect URI and a scope. -/
def sampleWithCode : TokenRequest where
  grantType := .clientCredentials
  code := some "c"
  redirectUri := some ""
  scope := some "read"
  codeRule := nofun

/-- The code and the redirect URI are cleared, and after that nothing changes. -/
theorem sample_reading_written_out :
    ofParameters (.ofLists sampleWithCode.toParameters) =
        .ok { grantType := .clientCredentials, scope := some "read", codeRule := nofun } ∧
      ofParameters (.ofLists sampleWithCode.ofItsGrant.toParameters) = .ok sampleWithCode.ofItsGrant := by
  have h := (reading_written_out.1 sampleWithCode).2
  exact ⟨h, reading_written_out.2.1 _ _ h⟩

end TokenRequest
end OAuthGrant

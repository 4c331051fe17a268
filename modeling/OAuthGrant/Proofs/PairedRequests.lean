import Mathlib.Data.List.Forall2
import OAuthGrant.Proofs.EndpointCourse
import OAuthGrant.Proofs.NamedCodes
import OAuthGrant.Proofs.PairedActions
import OAuthGrant.Proofs.ParameterRules

/-!
# One request with the codes of two runs

A request that names its codes is sent in two runs, where the same calls have issued codes. Whether the
parameters are read, and what they are read as, depends on a code only by whether it is empty; whether
there is a grant request, only by whether it is whole. So the grant requests of the two runs go together,
and a code in them is the one that the request presents.
-/

namespace OAuthGrant
open Text (isWhole)

/-- Values that differ only in those of the parameter `code`, where the same ones are empty. -/
structure SameBesidesCode (values values' : String → List String) : Prop where
  other : ∀ name, name ≠ Param.code → values name = values' name
  empty : (values Param.code).map (· == "") = (values' Param.code).map (· == "")

namespace ParameterRule

variable {values values' : String → List String}

theorem isObeyed_given_eq (name : String) :
    (given name).isObeyed values = ((values name).map (· == "") == [false]) := by
  rw [isObeyed]
  rcases values name with _ | ⟨s, _ | ⟨t, rest⟩⟩
  · rfl
  · rw [Bool.eq_iff_iff]
    simp
  · simp

theorem isObeyed_unrepeated_eq (name : String) :
    (unrepeated name).isObeyed values = decide (((values name).map (· == "")).length ≤ 1) := by
  rw [isObeyed, List.length_map]

variable (h : SameBesidesCode values values')

include h

theorem map_isEmpty_congr (name : String) :
    (values name).map (· == "") = (values' name).map (· == "") := by
  by_cases hcode : name = Param.code
  · rw [hcode, h.empty]
  · rw [h.other name hcode]

theorem grantOf?_congr : grantOf? values = grantOf? values' := by
  have hne : Param.grantType ≠ Param.code := by decide
  rw [grantOf?, grantOf?, h.other _ hne]

theorem isObeyed_congr (rule : ParameterRule) : rule.isObeyed values = rule.isObeyed values' := by
  cases rule with
  | given name => rw [isObeyed_given_eq, isObeyed_given_eq, map_isEmpty_congr h]
  | supported => rw [isObeyed, isObeyed, grantOf?_congr h]
  | unrepeated name => rw [isObeyed_unrepeated_eq, isObeyed_unrepeated_eq, map_isEmpty_congr h]

theorem refusal_congr (rule : ParameterRule) : rule.refusal values = rule.refusal values' := by
  cases rule with
  | given name => rfl
  | supported =>
      have hne : Param.grantType ≠ Param.code := by decide
      rw [refusal, refusal, h.other _ hne]
  | unrepeated name => rfl

theorem firstBroken?_congr :
    firstBroken? values (all values) = firstBroken? values' (all values') := by
  have hall : all values = all values' := by rw [all, all, grantOf?_congr h]
  rw [hall, firstBroken?, firstBroken?]
  congr 1
  funext rule
  rw [isObeyed_congr h]

end ParameterRule

structure TokenRequest.IsReadFrom (request : TokenRequest) (values : String → List String) : Prop where
  grammar : IsTokenRequest values request.grantType
  made : request.IsMadeOf values

section Reading

variable {p p' : Parameters} {values values' : String → List String}

theorem isReadFrom_of_ofParameters (hp : p.Gives values) {request : TokenRequest}
    (h : TokenRequest.ofParameters p = .ok request) : request.IsReadFrom values := by
  have hmade := isMadeOf_of_ofParameters hp h
  obtain ⟨grant, hgrammar⟩ := (ofParameters_eq_ok_iff hp).mp ⟨request, h⟩
  have hgrant : grant = request.grantType :=
    Option.some.inj ((grantOf?_eq_some_of hgrammar.grantType).symm.trans
      (grantOf?_eq_some_of hmade.grantType))
  exact ⟨hgrant ▸ hgrammar, hmade⟩

/-- Of values that differ only in codes, either both are read or both are refused for the same rule. -/
theorem sameOutcome_ofParameters (hp : p.Gives values) (hp' : p'.Gives values')
    (h : SameBesidesCode values values') :
    SameOutcome (fun request request' => request.IsReadFrom values ∧ request'.IsReadFrom values')
      (TokenRequest.ofParameters p) (TokenRequest.ofParameters p') := by
  have hbroken := ParameterRule.firstBroken?_congr h
  cases hread : TokenRequest.ofParameters p with
  | error f =>
      obtain ⟨rule, hrule, rfl⟩ := (ofParameters_eq_error_iff hp).mp hread
      rw [ParameterRule.refusal_congr h rule,
        (ofParameters_eq_error_iff hp').mpr ⟨rule, hbroken ▸ hrule, rfl⟩]
      exact .error _
  | ok request =>
      have hnone := firstBroken?_all_eq_none_iff.mpr ((ofParameters_eq_ok_iff hp).mp ⟨request, hread⟩)
      obtain ⟨request', hread'⟩ :=
        (ofParameters_eq_ok_iff hp').mpr (firstBroken?_all_eq_none_iff.mp (hbroken ▸ hnone))
      rw [hread']
      exact .ok ⟨isReadFrom_of_ofParameters hp hread, isReadFrom_of_ofParameters hp' hread'⟩

end Reading

/-- Grant requests of a client that are the same, apart from a code. -/
inductive PairedGrants (R : String → String → Prop) (client : ClientIdentity) :
    GrantRequest → GrantRequest → Prop
  | code {c c' : String} (related : R c c') (redirectUri : Option String) :
      PairedGrants R client (.authorizationCode ⟨c, redirectUri, client⟩)
        (.authorizationCode ⟨c', redirectUri, client⟩)
  | credentials (scopes : ScopeSet) :
      PairedGrants R client (.clientCredentials ⟨scopes, client⟩) (.clientCredentials ⟨scopes, client⟩)

theorem PairedGrants.mono {R R' : String → String → Prop} {client : ClientIdentity}
    {grant grant' : GrantRequest} (h : PairedGrants R client grant grant') (himp : ∀ c c', R c c' → R' c c') :
    PairedGrants R' client grant grant' := by
  cases h with
  | code related redirectUri => exact .code (himp _ _ related) redirectUri
  | credentials scopes => exact .credentials scopes

theorem Reader.nonEmptyText_of_not_isWhole {s : String} (h : isWhole s = false) :
    Reader.nonEmptyText (.text s) = Checked.fault .notUnicode := by
  simp [Reader.nonEmptyText, Reader.nonEmpty, Reader.whole, h, Checked.fault]

theorem GrantRequest.ofLoose?_of_not_isWhole {request : TokenRequest} {c : String}
    (hgrant : request.grantType = .authorizationCode) (hcode : request.code = some c)
    (h : isWhole c = false) (client : ClientIdentity) :
    ofLoose? request.loose (some client) = .error (.invalid [⟨[Param.code], .notUnicode⟩]) := by
  have huri : Reader.optionalText (.ofOption request.redirectUri) = .valid request.redirectUri :=
    Reader.optionalText_eq_valid_iff.mpr rfl
  unfold ofLoose? TokenRequest.loose
  dsimp only
  rw [hgrant, Reader.grantType_name, hcode]
  dsimp only [Value.ofOption] at huri ⊢
  rw [Reader.nonEmptyText_of_not_isWhole h, huri]
  rfl

section Granting

variable {values values' : String → List String} {request request' : TokenRequest}

/-- A request for the authorization code grant has exactly one code, and it is not empty. -/
theorem TokenRequest.IsReadFrom.code (h : request.IsReadFrom values)
    (hgrant : request.grantType = .authorizationCode) :
    ∃ c, values Param.code = [c] ∧ c ≠ "" ∧ request.code = some c := by
  obtain ⟨c, hvalues, hne⟩ := h.grammar.code hgrant
  refine ⟨c, hvalues, hne, ?_⟩
  rw [h.made.code, if_pos hgrant, hvalues]
  rfl

theorem grantType_eq_of_isReadFrom (h : SameBesidesCode values values')
    (hread : request.IsReadFrom values) (hread' : request'.IsReadFrom values') :
    request'.grantType = request.grantType := by
  have hne : Param.grantType ≠ Param.code := by decide
  have hname := grantOf?_eq_some_of hread.made.grantType
  rw [ParameterRule.grantOf?_congr h, grantOf?_eq_some_of hread'.made.grantType] at hname
  exact Option.some.inj hname

/-- The grant requests of token requests that differ only in a code go together, if both codes are whole
or neither is. -/
theorem sameOutcome_ofLoose? (h : SameBesidesCode values values')
    (hwhole : (values Param.code).map isWhole = (values' Param.code).map isWhole)
    (hread : request.IsReadFrom values) (hread' : request'.IsReadFrom values')
    (client : ClientIdentity) :
    SameOutcome (PairedGrants (fun c c' =>
        values Param.grantType = [GrantType.authorizationCode.name] ∧
          values Param.code = [c] ∧ values' Param.code = [c']) client)
      (GrantRequest.ofLoose? request.loose (some client))
      (GrantRequest.ofLoose? request'.loose (some client)) := by
  have hgrant := grantType_eq_of_isReadFrom h hread hread'
  have huri : request'.redirectUri = request.redirectUri := by
    rw [hread'.made.redirectUri, hread.made.redirectUri, hgrant, h.other _ (by decide)]
  have hscope : request'.scope = request.scope := by
    rw [hread'.made.scope, hread.made.scope, hgrant, h.other _ (by decide)]
  cases hg : request.grantType with
  | clientCredentials =>
      have hcode : request.hasWholeCode = true := by rw [TokenRequest.hasWholeCode, hg]
      have hcode' : request'.hasWholeCode = true := by rw [TokenRequest.hasWholeCode, hgrant, hg]
      rw [GrantRequest.ofLoose?_loose hcode, GrantRequest.ofLoose?_loose hcode',
        GrantRequest.ofTokenRequest, GrantRequest.ofTokenRequest, hgrant, hg, hscope]
      exact .ok (.credentials _)
  | authorizationCode =>
      obtain ⟨c, hc, hne, hcode⟩ := hread.code hg
      obtain ⟨c', hc', hne', hcode'⟩ := hread'.code (hgrant.trans hg)
      have hcc : isWhole c = isWhole c' := by
        rw [hc, hc'] at hwhole
        exact (List.cons.inj hwhole).1
      cases hw : isWhole c with
      | true =>
          have hcode₁ : request.hasWholeCode = true := by
            rw [TokenRequest.hasWholeCode, hg, hcode]
            exact hw
          have hcode₂ : request'.hasWholeCode = true := by
            rw [TokenRequest.hasWholeCode, hgrant, hg, hcode']
            exact hcc ▸ hw
          rw [GrantRequest.ofLoose?_loose hcode₁, GrantRequest.ofLoose?_loose hcode₂,
            GrantRequest.ofTokenRequest, GrantRequest.ofTokenRequest, hgrant, hg, huri, hcode, hcode']
          exact .ok (.code ⟨by rw [hread.made.grantType, hg], hc, hc'⟩ _)
      | false =>
          rw [GrantRequest.ofLoose?_of_not_isWhole hg hcode hw,
            GrantRequest.ofLoose?_of_not_isWhole (hgrant.trans hg) hcode' (hcc ▸ hw)]
          exact .error _

end Granting

/-- What the same call has issued in two runs: no code in either, or a legible code in both. -/
def IssuedInBoth (Legible : String → Prop) (c c' : String) : Prop :=
  (c = "" ∧ c' = "") ∨ (Legible c ∧ Legible c')

/-- A legible code is not empty and has no surrogates. -/
def IsReadable (Legible : String → Prop) : Prop := ∀ c, Legible c → c ≠ "" ∧ isWhole c = true

section Codes

variable {Legible : String → Prop} {codes codes' : List String}

theorem forall₂_getD {α β : Type} {R : α → β → Prop} {l : List α} {l' : List β} {a : α} {b : β}
    (h : List.Forall₂ R l l') (hab : R a b) (n : Nat) : R (l.getD n a) (l'.getD n b) := by
  induction h generalizing n with
  | nil => exact hab
  | cons hhead _ ih =>
      cases n with
      | zero => exact hhead
      | succ n => exact ih n

theorem IssuedInBoth.isEmpty (hread : IsReadable Legible) {c c' : String}
    (h : IssuedInBoth Legible c c') : (c == "") = (c' == "") := by
  rcases h with ⟨rfl, rfl⟩ | ⟨hc, hc'⟩
  · rfl
  · rw [beq_false_of_ne (hread c hc).1, beq_false_of_ne (hread c' hc').1]

theorem IssuedInBoth.isWhole (hread : IsReadable Legible) {c c' : String}
    (h : IssuedInBoth Legible c c') : isWhole c = isWhole c' := by
  rcases h with ⟨rfl, rfl⟩ | ⟨hc, hc'⟩
  · rfl
  · rw [(hread c hc).2, (hread c' hc').2]

/-- A property of texts that cannot tell issued codes apart cannot tell apart what a name stands for. -/
theorem CodeName.text_congr {β : Type} {f : String → β}
    (hf : ∀ c c', IssuedInBoth Legible c c' → f c = f c')
    (h : List.Forall₂ (IssuedInBoth Legible) codes codes') (name : CodeName) :
    f (name.text codes) = f (name.text codes') := by
  cases name with
  | fixed text => rfl
  | issued call => exact hf _ _ (forall₂_getD h (.inl ⟨rfl, rfl⟩) call)

theorem NamedForm.map_values_code {β : Type} {f : String → β}
    (hf : ∀ c c', IssuedInBoth Legible c c' → f c = f c')
    (h : List.Forall₂ (IssuedInBoth Legible) codes codes') (form : NamedForm) :
    (form.values codes Param.code).map f = (form.values codes' Param.code).map f := by
  rw [values_code, values_code, List.map_map, List.map_map]
  exact List.map_congr_left fun name _ => CodeName.text_congr hf h name

theorem NamedForm.sameBesidesCode (hread : IsReadable Legible)
    (h : List.Forall₂ (IssuedInBoth Legible) codes codes') (form : NamedForm) :
    SameBesidesCode (form.values codes) (form.values codes') :=
  ⟨fun _ hne => values_of_ne hne, map_values_code (fun _ _ => IssuedInBoth.isEmpty hread) h form⟩

theorem IssuedInBoth.left (h : List.Forall₂ (IssuedInBoth Legible) codes codes') :
    ∀ c ∈ codes, c = "" ∨ Legible c := by
  induction h with
  | nil => exact fun c hc => nomatch hc
  | cons hhead _ ih =>
      intro c hc
      rcases List.mem_cons.mp hc with rfl | hc
      · exact hhead.imp And.left And.left
      · exact ih c hc

theorem IssuedInBoth.right (h : List.Forall₂ (IssuedInBoth Legible) codes codes') :
    ∀ c ∈ codes', c = "" ∨ Legible c :=
  left (h.flip.imp fun _ _ hc => hc.imp And.symm And.symm)

end Codes

section Submitting

variable {Legible : String → Prop} {codes codes' : List String}

theorem NamedForm.sameOutcome_ofParameters (hread : IsReadable Legible)
    (h : List.Forall₂ (IssuedInBoth Legible) codes codes') (form : NamedForm) :
    SameOutcome (fun request request' =>
        request.IsReadFrom (form.values codes) ∧ request'.IsReadFrom (form.values codes'))
      (TokenRequest.ofParameters (.pairs (form.fill codes)))
      (TokenRequest.ofParameters (.pairs (form.fill codes'))) :=
  OAuthGrant.sameOutcome_ofParameters (fun _ => rfl) (fun _ => rfl) (form.sameBesidesCode hread h)

theorem NamedForm.sameOutcome_ofLoose? (hread : IsReadable Legible)
    (h : List.Forall₂ (IssuedInBoth Legible) codes codes') {form : NamedForm}
    {request request' : TokenRequest} (hrequest : request.IsReadFrom (form.values codes))
    (hrequest' : request'.IsReadFrom (form.values codes')) (client : ClientIdentity) :
    SameOutcome (PairedGrants (fun c c' =>
        ∃ name, form.presented? = some name ∧ c = name.text codes ∧ c' = name.text codes') client)
      (GrantRequest.ofLoose? request.loose (some client))
      (GrantRequest.ofLoose? request'.loose (some client)) := by
  refine (OAuthGrant.sameOutcome_ofLoose? (form.sameBesidesCode hread h)
    (map_values_code (fun _ _ => IssuedInBoth.isWhole hread) h form) hrequest hrequest' client).mono ?_
  intro grant grant' hgrants
  refine hgrants.mono ?_
  rintro c c' ⟨hgrant, hc, hc'⟩
  rw [values_code] at hc hc'
  obtain ⟨name, hnames, rfl⟩ := List.map_eq_singleton_iff.mp hc
  rw [hnames] at hc'
  exact ⟨name, presented?_eq_some hnames hgrant, rfl, (List.cons.inj hc').1.symm⟩

end Submitting
end OAuthGrant

import OAuthGrant.Proofs.PairedRequests
import OAuthGrant.Proofs.TwinServices

/-!
# Requests to services that differ only in their secrets

What the authority and the endpoint do keeps two services twins when the codes that are presented are used
in the same place. Every value that is drawn goes to the journal under the name of a token or a code, where
only its beginning is shown, and no failure that is reported there tells of one.
-/

namespace OAuthGrant
open OAuthGrant.Action (Alike Keeps)
open CodeStore (codeBytes)
open Http (Form Request)
open Log (Component Message)

/-- Two tokens that differ in nothing but their value, as far as the journal is concerned. -/
structure SameToken (t t' : AccessToken) : Prop where
  tokenType : t.tokenType = t'.tokenType
  expiresIn : t.expiresIn = t'.expiresIn
  scopes : t.scopes = t'.scopes

theorem AccessToken.sameOutcome_bearer? {value value' : String} (h : SameBeginning value value')
    {issuedAt expiresAt : Time.Timestamp} (hcomparable : issuedAt.comparable expiresAt = true)
    (hlater : issuedAt.instant < expiresAt.instant) (scopes : ScopeSet) :
    SameOutcome (fun t t' => SameToken t t' ∧ SameBeginning t.value t'.value)
      (bearer? value issuedAt expiresAt scopes) (bearer? value' issuedAt expiresAt scopes) := by
  rw [bearer?, bearer?, dif_neg h.ne_empty.1, dif_neg h.ne_empty.2, check, check, dif_pos hcomparable,
    dif_pos hcomparable, dif_pos hlater, dif_pos hlater]
  exact .ok ⟨⟨rfl, rfl, rfl⟩, h⟩

namespace InMemoryAuthority

variable {first second : Nat → Nat → String} {issued issued' : List String}

theorem alike_reject {α β : Type} {R : α → β → Prop} (client : ClientIdentity) (code : ErrorCode)
    (description : String) :
    Alike (Twins first second issued issued') R (reject client code description)
      (reject client code description) := by
  unfold reject
  exact (Twins.alike_log _ rfl).bind fun _ _ _ => Action.alike_throw _

theorem alike_requireGrant (client : ClientIdentity) (grant : GrantType) :
    Alike (Twins first second issued issued') Eq (requireGrant client grant)
      (requireGrant client grant) := by
  unfold requireGrant
  split
  · exact Action.alike_pure rfl
  · exact alike_reject client _ _

theorem alike_issue (hv : TwinValues first second) {a : InMemoryAuthority} (ha : 0 < a.lifetime)
    (client : ClientIdentity) (scopes : ScopeSet) :
    Alike (Twins first second issued issued') SameToken (a.issue client scopes) (a.issue client scopes) := by
  unfold issue
  refine Twins.alike_now.bind fun now now' hnow => ?_
  subst hnow
  refine (Twins.alike_draw tokenBytes).bind fun value value' hvalue => ?_
  obtain ⟨n, rfl, rfl⟩ := hvalue
  cases hexpires : (Time.Timestamp.utc now).later? a.lifetime with
  | none => exact Action.alike_throw _
  | some expiresAt =>
      obtain ⟨-, rfl⟩ := Time.Timestamp.later?_eq_some_iff.mp hexpires
      have hbeginning := hv.alike tokenBytes n
      have hlater : (Time.Timestamp.utc now).instant < (Time.Timestamp.utc (now + a.lifetime)).instant := by
        rw [Time.Timestamp.instant_utc, Time.Timestamp.instant_utc]
        omega
      have houtcome := AccessToken.sameOutcome_bearer? hbeginning (Time.Timestamp.comparable_utc _ _) hlater
        scopes
      refine (Action.alike_lift houtcome).bind fun token token' htoken => ?_
      have hsanitized :
          Log.sanitize [("client_id", .text client.clientId), ("access_token", .text token.value),
            ("scope", .text scopes.text), ("expires_in", .int token.expiresIn)] =
          Log.sanitize [("client_id", .text client.clientId), ("access_token", .text token'.value),
            ("scope", .text scopes.text), ("expires_in", .int token'.expiresIn)] := by
        rw [Log.sanitize_cons "client_id", Log.sanitize_cons "client_id", htoken.1.expiresIn,
          sanitize_shortened exposure_accessToken htoken.2.cutText_eq]
      exact (Twins.alike_log _ (Message.exchange_congr hsanitized _ _ _ _)).bind fun _ _ _ =>
        Action.alike_pure htoken.1

/-- Codes that are used in the same place are redeemed with the same success. -/
theorem alike_redeem (hv : TwinValues first second) {a : InMemoryAuthority} (ha : 0 < a.lifetime)
    {c c' : String} (hc : SameCode first second issued issued' c c') (redirectUri : Option String)
    (client : ClientIdentity) :
    Alike (Twins first second issued issued') SameToken (a.redeem ⟨c, redirectUri, client⟩)
      (a.redeem ⟨c', redirectUri, client⟩) := by
  unfold redeem
  refine (alike_requireGrant client _).bind fun _ _ _ => ?_
  refine (Twins.alike_consume hv hc).bind fun found found' hfound => ?_
  obtain ⟨d, rfl⟩ := hfound
  cases found with
  | none => exact alike_reject client _ _
  | some record =>
      dsimp only [Option.map]
      split
      · exact alike_reject client _ _
      · split
        · exact alike_reject client _ _
        · exact alike_issue hv ha client _

theorem alike_grantScopes (hv : TwinValues first second) {a : InMemoryAuthority} (ha : 0 < a.lifetime)
    (grant : CredentialsGrant) :
    Alike (Twins first second issued issued') SameToken (a.grantScopes grant) (a.grantScopes grant) := by
  unfold grantScopes
  refine (alike_requireGrant grant.client _).bind fun _ _ _ => ?_
  dsimp only
  split
  · exact alike_issue hv ha grant.client _
  · exact alike_reject grant.client _ _

/-- Grants that are the same, apart from codes which are used in the same place, are verified with the same
success. -/
theorem alike_submit (hv : TwinValues first second) {a : InMemoryAuthority} (ha : 0 < a.lifetime)
    {client : ClientIdentity} {grant grant' : GrantRequest}
    (hgrants : PairedGrants (SameCode first second issued issued') client grant grant') :
    Alike (Twins first second issued issued') SameToken (submit a.toAuthority grant)
      (submit a.toAuthority grant') := by
  have hverify : Alike (Twins first second issued issued') SameToken (a.verify grant) (a.verify grant') := by
    cases hgrants with
    | code hc redirectUri => exact alike_redeem hv ha hc redirectUri client
    | credentials scopes => exact alike_grantScopes hv ha _
  have hreply : Alike (Twins first second issued issued')
      (fun reply reply' => SameOutcome SameToken reply.token? reply'.token?)
      (a.toAuthority grant) (a.toAuthority grant') :=
    hverify.bind fun token token' htoken => Action.alike_pure (.ok htoken)
  unfold submit
  have hmessage : grant.grantType = grant'.grantType ∧ grant.client = grant'.client := by
    cases hgrants <;> exact ⟨rfl, rfl⟩
  rw [hmessage.1, hmessage.2]
  refine (Twins.alike_log _ rfl).bind fun _ _ _ => ?_
  exact hreply.bind fun reply reply' hsame => Action.alike_lift hsame

end InMemoryAuthority

namespace NamedForm

theorem names_fill (codes codes' : List String) (form : NamedForm) :
    Form.names (form.fill codes) = Form.names (form.fill codes') := by
  unfold Form.names fill
  rw [List.foldl_map, List.foldl_map]
  simp only [NamedEntry.fst_fill]

theorem valuesOf_fill (codes : List String) (form : NamedForm) (name : String) :
    Form.valuesOf (form.fill codes) name =
      (form.filter fun e => e.name == name).map fun e => (e.fill codes).2 := by
  unfold Form.valuesOf fill
  rw [List.filter_map, List.map_map]
  simp only [Function.comp_def, NamedEntry.fst_fill]

theorem apply_valuesOf {codes codes' : List String}
    (h : ∀ call, Log.cutText (codes.getD call "") = Log.cutText (codes'.getD call "")) (form : NamedForm)
    (name : String) :
    (Log.exposure name).apply (.list (Form.valuesOf (form.fill codes) name)) =
      (Log.exposure name).apply (.list (Form.valuesOf (form.fill codes') name)) := by
  rw [valuesOf_fill, valuesOf_fill]
  by_cases hcode : name = Param.code
  · have hcut : ∀ e : NamedEntry, Log.cut (e.fill codes).2 = Log.cut (e.fill codes').2 := by
      intro e
      cases e with
      | fixed name value => rfl
      | issued call => rw [NamedEntry.fill, NamedEntry.fill, Log.cut_text, Log.cut_text, h call]
    have hshortened : Log.exposure name = .shortened := hcode ▸ exposure_code
    rw [hshortened, Log.Exposure.apply, Log.Exposure.apply, Log.cut_list, Log.cut_list, Log.cutItems_eq_map,
      Log.cutItems_eq_map, List.map_map, List.map_map]
    exact congrArg Value.list (List.map_congr_left fun e _ => hcut e)
  · have hsame : ∀ e ∈ form.filter fun e => e.name == name, (e.fill codes).2 = (e.fill codes').2 := by
      intro e he
      have hname : e.name = name := beq_iff_eq.mp (List.mem_filter.mp he).2
      rw [NamedEntry.fill_of_name_ne (hname ▸ hcode) codes codes']
    rw [List.map_congr_left hsame]

theorem sanitize_grouped {codes codes' : List String}
    (h : ∀ call, Log.cutText (codes.getD call "") = Log.cutText (codes'.getD call "")) (form : NamedForm) :
    Log.sanitize (Form.grouped (form.fill codes)) = Log.sanitize (Form.grouped (form.fill codes')) := by
  unfold Log.sanitize Form.grouped
  rw [List.map_map, List.map_map, names_fill codes codes']
  exact List.map_congr_left fun name _ => congrArg (Prod.mk name) (apply_valuesOf h form name)

end NamedForm

namespace Deployment

variable {d : Deployment} {Legible : String → Prop} {first second : Nat → Nat → String}
  {codes codes' : List String}

/-- A client is found in the same way, and finding it changes nothing. -/
theorem alike_identify {r r' : Request} (h : r.bodiless = r'.bodiless) :
    Alike (Twins first second codes codes') Eq (d.identify r) (d.identify r') := by
  intro s t hs
  rw [d.perform_identify, d.perform_identify, h]
  exact ⟨.same _, hs⟩

theorem alike_dispatch (hv : TwinValues first second) (ha : 0 < d.authority.lifetime)
    {request request' : TokenRequest} {client : ClientIdentity}
    (h : SameOutcome (PairedGrants (SameCode first second codes codes') client)
      (GrantRequest.ofLoose? request.loose (some client))
      (GrantRequest.ofLoose? request'.loose (some client))) :
    Alike (Twins first second codes codes') SameToken (dispatch d.authority.toAuthority request client)
      (dispatch d.authority.toAuthority request' client) := by
  unfold dispatch dispatchLoose
  exact (Action.alike_lift h).bind fun grant grant' hgrants => InMemoryAuthority.alike_submit hv ha hgrants

theorem alike_process (hv : TwinValues first second) (ha : 0 < d.authority.lifetime)
    (hread : IsReadable Legible) (hissued : List.Forall₂ (IssuedInBoth Legible) codes codes')
    (hcut : ∀ call, Log.cutText (codes.getD call "") = Log.cutText (codes'.getD call ""))
    (s : Submission d.hosted Legible)
    (hpresented : ∀ name, s.presented? = some name →
      SameCode first second codes codes' (name.text codes) (name.text codes')) :
    Alike (Twins first second codes codes') (fun out out' => out.1 = out'.1 ∧ SameToken out.2 out'.2)
      (d.endpoint.process (s.request codes)) (d.endpoint.process (s.request codes')) := by
  have hform : SameOutcome (fun form form' => ∃ named : NamedForm, s.form = .ok named ∧
      form = named.fill codes ∧ form' = named.fill codes')
      (Form.ofRequest d.hosted (s.request codes)) (Form.ofRequest d.hosted (s.request codes')) := by
    rw [Submission.request, Submission.request, s.reads codes (IssuedInBoth.left hissued),
      s.reads codes' (IssuedInBoth.right hissued)]
    cases s.form with
    | error f => exact .error f
    | ok named => exact .ok ⟨named, rfl, rfl, rfl⟩
  unfold Endpoint.process
  refine (Action.alike_lift hform).bind fun form form' hforms => ?_
  obtain ⟨named, hnamed, rfl, rfl⟩ := hforms
  have hmessage : Message.httpRequest .tokenEndpoint (.text (s.request codes).method)
        (.text (s.request codes).addressPath) (Form.grouped (named.fill codes)) [] =
      Message.httpRequest .tokenEndpoint (.text (s.request codes').method)
        (.text (s.request codes').addressPath) (Form.grouped (named.fill codes')) [] :=
    Message.httpRequest_congr (NamedForm.sanitize_grouped hcut named) rfl _ _ _
  refine (Twins.alike_log _ hmessage).bind fun _ _ _ => ?_
  refine (Action.alike_lift (named.sameOutcome_ofParameters hread hissued)).bind
    fun request request' hrequests => ?_
  have hidentify : Alike (Twins first second codes codes') Eq (d.endpoint.identify (s.request codes))
      (d.endpoint.identify (s.request codes')) := alike_identify rfl
  refine hidentify.bind fun found found' hfound => ?_
  subst hfound
  cases found with
  | none => exact Action.alike_throw _
  | some client =>
      have hgrants := NamedForm.sameOutcome_ofLoose? hread hissued hrequests.1 hrequests.2 client
      have hdispatch := alike_dispatch hv ha (hgrants.mono fun grant grant' hpaired =>
        hpaired.mono fun c c' ⟨name, hname, hc, hc'⟩ =>
          hc ▸ hc' ▸ hpresented name (by rw [Submission.presented?, hnamed]; exact hname))
      exact hdispatch.bind fun token token' htoken => Action.alike_pure ⟨rfl, htoken⟩

/-- What a client is told of a failure is the same in both runs, and so is what the journal shows of it. -/
theorem alike_report {issued issued' : List String} (f : Failure) :
    Alike (Twins first second issued issued') Eq f.report f.report := by
  unfold Failure.report
  cases f.refusal? with
  | some r => exact Action.alike_lift (.same _)
  | none =>
      refine (Action.alike_lift (.same f.tell)).bind fun text text' htext => ?_
      subst htext
      exact (Twins.alike_log _ rfl).bind fun _ _ _ => Action.alike_pure rfl

theorem keeps_handle (hv : TwinValues first second) (ha : 0 < d.authority.lifetime)
    (hread : IsReadable Legible) (hissued : List.Forall₂ (IssuedInBoth Legible) codes codes')
    (hcut : ∀ call, Log.cutText (codes.getD call "") = Log.cutText (codes'.getD call ""))
    (s : Submission d.hosted Legible)
    (hpresented : ∀ name, s.presented? = some name →
      SameCode first second codes codes' (name.text codes) (name.text codes')) :
    Keeps (Twins first second codes codes') (d.endpoint.handle (s.request codes))
      (d.endpoint.handle (s.request codes')) := by
  unfold Endpoint.handle
  refine (alike_process hv ha hread hissued hcut s hpresented).attempt.bind_keeps fun out out' hout => ?_
  cases hout with
  | @ok issued issued' hsame =>
      obtain ⟨client, token⟩ := issued
      obtain ⟨client', token'⟩ := issued'
      obtain ⟨rfl, htoken⟩ := hsame
      dsimp only at htoken ⊢
      unfold Endpoint.answerToken
      rw [htoken.tokenType, htoken.expiresIn, htoken.scopes]
      exact (Twins.alike_log _ rfl).bind_keeps fun _ _ _ => Action.keeps_lift _ _
  | error f =>
      dsimp only
      split
      · exact ((Twins.alike_log _ rfl).bind fun _ _ _ => Action.alike_throw (R := Eq) f).keeps
      · unfold Endpoint.answerFailure
        refine (alike_report f).bind_keeps fun error error' herror => ?_
        subst herror
        exact (Twins.alike_log _ rfl).bind_keeps fun _ _ _ => Action.keeps_lift _ _

end Deployment
end OAuthGrant

import OAuthGrant.Proofs.AppRuns
import OAuthGrant.Proofs.HandledRequests
import OAuthGrant.Proofs.ParameterRules

/-!
# Untrusted headers

An application that does not trust the identity header knows the client of a request only if an earlier
layer has attached one. All other requests go the same way: once the form has been read it is validated,
and a valid one is refused because there is no client. Nothing but the form has a say in that, and nothing
but the journal is changed.
-/

namespace OAuthGrant
open Http (Form Request Response)
open Text (isWhole)

variable {σ τ : Type} {form : Form} {r : Request}

def ParameterRule.parameter : ParameterRule → String
  | given name => name
  | supported => Param.grantType
  | unrepeated name => name

theorem ParameterRule.isReportable_refusal (values : String → List String) (rule : ParameterRule) :
    (rule.refusal values).isReportable =
      isWhole (Refusal.parameterDescription ++ rule.parameter) := by
  cases rule <;> simp only [refusal, Refusal.parameter, Refusal.unsupportedGrantType, parameter,
    Refusal.isReportable, Value.isWholeOption, Bool.and_true]

theorem ParameterRule.parameter_mem {values : String → List String} {rule : ParameterRule}
    (h : rule ∈ all values) : rule.parameter ∈
      [Param.grantType, Param.clientId, Param.code, Param.redirectUri, Param.scope] := by
  have hgrant : ∀ grant, ∀ rule ∈ ofGrant grant, rule.parameter ∈
      [Param.grantType, Param.clientId, Param.code, Param.redirectUri, Param.scope] := by
    intro grant
    cases grant <;> decide
  rw [all, List.mem_cons, List.mem_cons, List.mem_cons] at h
  rcases h with rfl | rfl | rfl | h
  · exact List.mem_cons_self
  · exact List.mem_cons_self
  · exact List.mem_cons_of_mem _ List.mem_cons_self
  · cases hasked : grantOf? values with
    | none => rw [hasked] at h; cases h
    | some grant => rw [hasked] at h; exact hgrant grant rule h

theorem isReportable_of_ofParameters {f : Failure}
    (h : TokenRequest.ofParameters (.pairs form) = .error f) : f.isReportable = true := by
  have hgives : (Parameters.pairs form).Gives fun name =>
      (form.filter fun e => e.1 == name).map fun e => e.2.shown := fun _ => rfl
  obtain ⟨rule, hrule, rfl⟩ := (ofParameters_eq_error_iff hgives).mp h
  have hnames : ∀ name ∈ [Param.grantType, Param.clientId, Param.code, Param.redirectUri, Param.scope],
      isWhole (Refusal.parameterDescription ++ name) = true := by decide +kernel
  have hparameter := ParameterRule.parameter_mem (List.mem_of_find?_eq_some hrule)
  exact (ParameterRule.isReportable_refusal _ rule).trans (hnames _ hparameter)

/-- What a request without a client is told, by its form. -/
inductive AnonymousError (form : Form) : ProtocolError → Prop
  | invalid {f : Failure} {error : ProtocolError}
      (fault : TokenRequest.ofParameters (.pairs form) = .error f)
      (told : f.toProtocolError = .ok error) : AnonymousError form error
  | noClient {request : TokenRequest}
      (valid : TokenRequest.ofParameters (.pairs form) = .ok request) :
      AnonymousError form ⟨.invalidClient, some "Client authentication required", none⟩

/-- The form alone determines what is told. -/
theorem AnonymousError.unique {error error' : ProtocolError} (h : AnonymousError form error)
    (h' : AnonymousError form error') : error = error' := by
  cases h with
  | invalid fault told =>
      cases h' with
      | invalid fault' told' =>
          cases fault.symm.trans fault'
          exact Except.ok.inj (told.symm.trans told')
      | noClient valid => cases fault.symm.trans valid
  | noClient valid =>
      cases h' with
      | invalid fault => cases valid.symm.trans fault
      | noClient => rfl

/-- How a request without a client fails, by its form. -/
def anonymousFailure (form : Form) : Failure :=
  match TokenRequest.ofParameters (.pairs form) with
  | .error f => f
  | .ok _ => .refused .missingClient

theorem answer_anonymousFailure (form : Form) :
    ∃ error, AnonymousError form error ∧
      Endpoint.answer (.error (anonymousFailure form)) = .ok (noStoreResponse 400 error.body) := by
  unfold anonymousFailure
  cases hread : TokenRequest.ofParameters (.pairs form) with
  | error f =>
      obtain ⟨error, herror, hresponse⟩ :=
        Endpoint.answer_of_isReportable (isReportable_of_ofParameters hread)
      exact ⟨error, .invalid hread herror, hresponse⟩
  | ok request =>
      have hreportable : (Failure.refused .missingClient).isReportable = true := by decide +kernel
      obtain ⟨error, herror, hresponse⟩ := Endpoint.answer_of_isReportable hreportable
      have htold : (Failure.refused .missingClient).toProtocolError =
          .ok ⟨.invalidClient, some "Client authentication required", none⟩ := rfl
      obtain rfl := Except.ok.inj (htold.symm.trans herror)
      exact ⟨_, .noClient hread, hresponse⟩

namespace Endpoint

variable {e : Endpoint σ}

/-- A request without a client fails as its form determines, and only the journal is changed. -/
theorem perform_process_of_anonymous (read : Form.ofRequest e.hosted r = .ok form)
    (noClient : e.identify r = pure none) (s : Service σ) :
    ∃ journal, (e.process r).perform s = (.error (anonymousFailure form), { s with journal }) := by
  rw [process, Action.perform_bind, Action.perform_lift, read, Action.andThen_ok, Action.perform_bind,
    Action.perform_log, Action.andThen_ok, Action.perform_bind, Action.perform_lift, anonymousFailure]
  cases TokenRequest.ofParameters (.pairs form) with
  | error f => exact ⟨_, rfl⟩
  | ok request =>
      rw [Action.andThen_ok, Action.perform_bind, noClient]
      exact ⟨_, rfl⟩

/-- Nobody but the resolver is called for such a request. -/
theorem calls_process_of_anonymous (read : Form.ofRequest e.hosted r = .ok form)
    (noClient : e.identify r = pure none) (s : Service (σ × List Call)) :
    ∃ calls, ((e.recorded.process r).perform s).2.state.2 = s.state.2 ++ calls ∧
      ∀ call ∈ calls, call.isVerify = false := by
  have hread : Form.ofRequest e.recorded.hosted r = .ok form := read
  rw [process, Action.perform_bind, Action.perform_lift, hread, Action.andThen_ok, Action.perform_bind,
    Action.perform_log, Action.andThen_ok, Action.perform_bind, Action.perform_lift]
  cases TokenRequest.ofParameters (.pairs form) with
  | error f => exact ⟨[], (List.append_nil _).symm, fun _ hcall => absurd hcall List.not_mem_nil⟩
  | ok request =>
      -- The resolver is called and finds nobody, which ends the request before the authority is reached.
      have hidentify : e.recorded.identify r = (e.identify r).entered (.identify r) := rfl
      rw [Action.andThen_ok, Action.perform_bind, hidentify, Action.perform_entered, noClient]
      refine ⟨[.identify r (.ok none)], rfl, ?_⟩
      intro call hcall
      rw [List.mem_singleton.mp hcall]
      rfl

theorem calls_of_accepts {next : Request → Action σ Response} (h : e.accepts r = true) (s : Service σ) :
    e.calls next r s = ((e.recorded.process r).perform s.recording).2.state.2 := by
  have haccepts : e.recorded.accepts r = true := h
  rw [calls, around, if_pos haccepts, state_handle]

theorem calls_of_not_accepts {next : Request → Action σ Response} (h : ¬ e.accepts r = true)
    (s : Service σ) : e.calls next r s = [] := by
  have haccepts : ¬ e.recorded.accepts r = true := h
  rw [calls, around, if_neg haccepts]
  rfl

end Endpoint

theorem Http.Response.status_setDefault (response : Response) (header : String × String) :
    (response.setDefault header).status = response.status := by
  unfold setDefault
  split <;> rfl

theorem status_secured (response : Response) : (secured response).status = response.status := by
  unfold secured
  generalize lowerNames securityHeaders = headers
  induction headers generalizing response with
  | nil => rfl
  | cons header rest ih => rw [List.foldl_cons, ih, Response.status_setDefault]

/-- That no earlier layer has attached a client to a request, and its form can be read. -/
structure IsAnonymous (r : Request) : Prop where
  unattached : r.attachedClient = none
  readable : ∃ form, Form.ofRequest true r = .ok form

namespace App

variable {app : App τ} {settings : Settings} {s t : Service (CodeStore × τ)} {steps : List Step}

theorem IsOwn.identify_of_unattached (own : app.IsOwn settings)
    (untrusted : settings.trustIdentityHeader = false) (unattached : r.attachedClient = none) :
    app.endpoint.identify r = pure none := by
  obtain ⟨registry, hidentify⟩ := own.identify
  rw [hidentify, ownResolver, untrusted, if_neg Bool.false_ne_true, IdentityResolver.attached, unattached]

section Untrusted

variable (own : app.IsOwn settings) (untrusted : settings.trustIdentityHeader = false)
include own untrusted

/-- A request without a client changes nothing but the journal. -/
theorem sameBesidesJournal_exchange (anonymous : IsAnonymous r) (s : Service (CodeStore × τ)) :
    s.SameBesidesJournal (app.exchange r s).after := by
  have hafter : (app.exchange r s).after =
      ((app.endpoint.around (fun r => pure (Site.respond app.settings r)) r).perform s).2 := by
    rw [exchange, perform_respond]
  rw [hafter, Endpoint.around]
  split
  · obtain ⟨form, read⟩ := anonymous.readable
    have noClient := own.identify_of_unattached untrusted anonymous.unattached
    obtain ⟨journal, hprocess⟩ :=
      Endpoint.perform_process_of_anonymous (own.hosted ▸ read) noClient s
    obtain ⟨journal', hhandle⟩ := app.endpoint.perform_handle r s
    rw [hhandle, hprocess]
    exact ⟨journal', rfl⟩
  · exact .refl s

theorem isVerify_exchange (anonymous : IsAnonymous r) (s : Service (CodeStore × τ)) :
    ∀ call ∈ (app.exchange r s).calls, call.isVerify = false := by
  rw [exchange]
  by_cases haccepts : app.endpoint.accepts r = true
  · obtain ⟨form, read⟩ := anonymous.readable
    have noClient := own.identify_of_unattached untrusted anonymous.unattached
    obtain ⟨calls, hcalls, hverify⟩ :=
      Endpoint.calls_process_of_anonymous (own.hosted ▸ read) noClient s.recording
    dsimp only
    rw [Endpoint.calls_of_accepts haccepts, hcalls]
    exact hverify
  · dsimp only
    rw [Endpoint.calls_of_not_accepts haccepts]
    exact fun call hcall => absurd hcall List.not_mem_nil

/-- A request for the token endpoint without a client is told what its form determines. -/
theorem answer_exchange (unattached : r.attachedClient = none) (posted : settings.IsTokenPost r)
    (read : Form.ofRequest true r = .ok form) (s : Service (CodeStore × τ)) :
    ∃ error, AnonymousError form error ∧
      (app.exchange r s).answer = .ok (secured (noStoreResponse 400 error.body)) := by
  have noClient := own.identify_of_unattached untrusted unattached
  obtain ⟨_, hprocess⟩ := Endpoint.perform_process_of_anonymous (own.hosted ▸ read) noClient s
  obtain ⟨error, herror, hanswer⟩ := answer_anonymousFailure form
  refine ⟨error, herror, ?_⟩
  rw [exchange, perform_respond, Endpoint.around, if_pos (own.accepts_iff.mpr posted),
    Endpoint.result_handle, hprocess, hanswer]
  rfl

/-- A run without clients leaves behind what is left without its requests, apart from the journal. -/
theorem sameBesidesJournal_after (anonymous : ∀ r, .request r ∈ steps → IsAnonymous r)
    (h : s.SameBesidesJournal t) :
    (app.after steps s).SameBesidesJournal
      (app.after (steps.filter fun step => step.request?.isNone) t) := by
  induction steps generalizing s t with
  | nil => exact h
  | cons step rest ih =>
      have hrest := fun r hr => anonymous r (List.mem_cons_of_mem step hr)
      cases step with
      | request r =>
          -- The other run does not take this step, and the two keep differing in their journals only.
          have hstep := sameBesidesJournal_exchange own untrusted (anonymous r List.mem_cons_self) s
          exact ih hrest (hstep.symm.trans h)
      | issue clientId scopes redirectUri => exact ih hrest (sameBesidesJournal_next rfl h)
      | advance micros => exact ih hrest (sameBesidesJournal_next rfl h)

end Untrusted

/-- Without trust in the identity header and without attached clients an application grants nothing,
whatever requests it receives while codes are issued and the clock moves. The authority is never called
and no request changes anything but the journal, so that the run leaves the same stores behind as one
without requests. What is posted to the token endpoint is told the error of its form, or that a client is
required if the form is valid; nothing else of a request has a say in that. -/
theorem untrusted_headers_grant_nothing {authority : Option (Authority (CodeStore × τ))}
    {start opened : Service τ} {store : CodeStore} (untrusted : settings.trustIdentityHeader = false)
    (created : (create settings authority none).perform start = (.ok (app, store), opened))
    (anonymous : ∀ r, .request r ∈ steps → IsAnonymous r) :
    (∀ x ∈ app.exchanges steps (opened.withState (store, opened.state)),
      (∀ call ∈ x.calls, call.isVerify = false) ∧ x.before.SameBesidesJournal x.after ∧
      (settings.IsTokenPost x.request →
        (∀ form, Form.ofRequest true x.request = .ok form → ∃ error, AnonymousError form error ∧
          x.answer = .ok (secured (noStoreResponse 400 error.body))) ∧
        ∃ response, x.answer = .ok response ∧ response.status = 400)) ∧
    (∀ x ∈ app.exchanges steps (opened.withState (store, opened.state)),
      ∀ y ∈ app.exchanges steps (opened.withState (store, opened.state)),
        settings.IsTokenPost x.request → settings.IsTokenPost y.request →
        Form.ofRequest true x.request = Form.ofRequest true y.request → x.answer = y.answer) ∧
    (app.after steps (opened.withState (store, opened.state))).state =
      (app.after (steps.filter fun step => step.request?.isNone)
        (opened.withState (store, opened.state))).state := by
  have own := isOwn_of_create created
  refine ⟨?_, ?_, (sameBesidesJournal_after own untrusted anonymous (.refl _)).state_eq.symm⟩
  · intro x hx
    obtain ⟨r, s, hr, rfl⟩ := exists_of_mem_exchanges hx
    have hanonymous := anonymous r hr
    refine ⟨isVerify_exchange own untrusted hanonymous s,
      sameBesidesJournal_exchange own untrusted hanonymous s, fun posted => ?_⟩
    have htold : ∀ form, Form.ofRequest true r = .ok form → ∃ error, AnonymousError form error ∧
        (app.exchange r s).answer = .ok (secured (noStoreResponse 400 error.body)) :=
      fun form read => answer_exchange own untrusted hanonymous.unattached posted read s
    obtain ⟨form, read⟩ := hanonymous.readable
    obtain ⟨error, -, hanswer⟩ := htold form read
    exact ⟨htold, _, hanswer, status_secured _⟩
  · intro x hx y hy posted posted' hform
    obtain ⟨r, s, hr, rfl⟩ := exists_of_mem_exchanges hx
    obtain ⟨r', s', hr', rfl⟩ := exists_of_mem_exchanges hy
    obtain ⟨form, read⟩ := (anonymous r hr).readable
    obtain ⟨error, herror, hanswer⟩ := answer_exchange own untrusted (anonymous r hr).unattached
      posted read s
    obtain ⟨error', herror', hanswer'⟩ := answer_exchange own untrusted (anonymous r' hr').unattached
      posted' (hform.symm.trans read) s'
    rw [hanswer, hanswer', herror.unique herror']

def cautiousSettings : Settings where
  tokenEndpointUri := "/token"
  accessTokenTtlSeconds := 3600
  authorizationCodeTtlSeconds := 600
  identityHeader := "x-client"
  trustIdentityHeader := false
  host := "localhost"
  port := 8081
  logLevel := "INFO"

def requestWith (headers : List (String × String)) : Request where
  method := "POST"
  path := "/token"
  headers := ("content-type", "application/x-www-form-urlencoded") :: headers
  chunks := ["grant_type=client_credentials".toUTF8.toList]

/-- A service that has not been opened yet. -/
def idleStart : Service Unit := { now := 0, random := fun _ _ => "", state := () }

/-- Two requests, of which the first names a registered client in the identity header. -/
def headerSteps : List Step :=
  [.request (requestWith [("x-client", "service-client")]), .advance 1, .request (requestWith [])]

theorem exists_of_mem_headerSteps (h : .request r ∈ headerSteps) : ∃ headers, r = requestWith headers := by
  simp only [headerSteps, List.mem_cons, List.not_mem_nil, or_false, Step.request.injEq] at h
  rcases h with rfl | h | rfl
  · exact ⟨_, rfl⟩
  · cases h
  · exact ⟨_, rfl⟩

theorem isTokenPost_requestWith (headers : List (String × String)) :
    cautiousSettings.IsTokenPost (requestWith headers) := by
  have hpath : (requestWith headers).addressPath = (requestWith []).addressPath := rfl
  refine ⟨rfl, ?_⟩
  rw [hpath]
  decide +kernel

/-- Of several headers with a content type only the first one counts. -/
theorem ofRequest_requestWith (headers : List (String × String)) :
    Form.ofRequest true (requestWith headers) = Form.ofRequest true (requestWith []) := by
  have hheader : (requestWith headers).header? "content-type" =
      (requestWith []).header? "content-type" := by
    simp [Request.header?, requestWith]
  unfold Form.ofRequest
  rw [hheader]
  rfl

theorem isAnonymous_requestWith (headers : List (String × String)) :
    IsAnonymous (requestWith headers) := by
  refine ⟨rfl, ?_⟩
  rw [ofRequest_requestWith]
  have hread : (Form.ofRequest true (requestWith [])).isOk = true := by decide +kernel
  cases hform : Form.ofRequest true (requestWith []) with
  | ok form => exact ⟨form, rfl⟩
  | error f => rw [hform] at hread; cases hread

/-- The first request is answered like the second one, and neither is granted anything. -/
theorem cautious_headers_grant_nothing : ∃ app store opened,
    (create cautiousSettings none none).perform idleStart = (.ok (app, store), opened) ∧
    (app.exchanges headerSteps (opened.withState (store, opened.state))).length = 2 ∧
    ∀ x ∈ app.exchanges headerSteps (opened.withState (store, opened.state)),
      ∀ y ∈ app.exchanges headerSteps (opened.withState (store, opened.state)),
        x.answer = y.answer ∧ ∃ response, x.answer = .ok response ∧ response.status = 400 := by
  have hcreated : ((create cautiousSettings none none).perform idleStart).1.isOk = true := by
    decide +kernel
  rcases created : (create cautiousSettings none none).perform idleStart with ⟨_ | ⟨app, store⟩, opened⟩
  · rw [created] at hcreated
    cases hcreated
  have anonymous : ∀ r, .request r ∈ headerSteps → IsAnonymous r := by
    intro r hr
    obtain ⟨headers, rfl⟩ := exists_of_mem_headerSteps hr
    exact isAnonymous_requestWith headers
  obtain ⟨hsingle, hpair, -⟩ := untrusted_headers_grant_nothing rfl created anonymous
  refine ⟨app, store, opened, rfl, rfl, fun x hx y hy => ?_⟩
  obtain ⟨r, s, hr, hxr⟩ := exists_of_mem_exchanges hx
  obtain ⟨r', s', hr', hyr⟩ := exists_of_mem_exchanges hy
  obtain ⟨headers, rfl⟩ := exists_of_mem_headerSteps hr
  obtain ⟨headers', rfl⟩ := exists_of_mem_headerSteps hr'
  have posted : cautiousSettings.IsTokenPost x.request := hxr ▸ isTokenPost_requestWith headers
  have posted' : cautiousSettings.IsTokenPost y.request := hyr ▸ isTokenPost_requestWith headers'
  have hform : Form.ofRequest true x.request = Form.ofRequest true y.request := by
    rw [hxr, hyr]
    exact (ofRequest_requestWith headers).trans (ofRequest_requestWith headers').symm
  exact ⟨hpair x hx y hy posted posted' hform, ((hsingle x hx).2.2 posted).2⟩

end App
end OAuthGrant

import OAuthGrant.Proofs.GrantDispatch
import OAuthGrant.Proofs.JsonReading

/-!
# What is told of a failure

A refusal is told as it is: the body of its response, read back, has its code, its description and its
reference, so that no two refusals that differ are told alike. Nothing is told of any other failure: whoever
fails inside and for whatever cause, the response is the same one, if the failure has a text for the journal.
-/

namespace OAuthGrant
open Http (Form Request Response)
open Log (Message)
open Text (isWhole)

namespace ProtocolError

def texts (error : ProtocolError) : List (String × String) :=
  ("error", error.code.name) ::
    [("error_description", error.description), ("error_uri", error.uri)].filterMap fun (name, value) =>
      value.map fun v => (name, v)

theorem body_eq_ofTexts (error : ProtocolError) : error.body = Value.ofTexts error.texts := by
  obtain ⟨code, description, uri⟩ := error
  cases description <;> cases uri <;> rfl

/-- The error that a body tells of. Entries that are absent are none. -/
def ofBody? (body : String) : Option ProtocolError :=
  match Value.ofJson? body with
  | some (.object fields) => (ofFields fields).toExcept.toOption
  | _ => none

theorem ofFields_body (error : ProtocolError) : ofFields error.body = .valid error := by
  obtain ⟨code, description, uri⟩ := error
  have hcode : Reader.errorCode (.text code.name) = .valid code := by
    cases code <;> rfl
  have htext : ∀ s, Reader.optionalText (.text s) = .valid (some s) :=
    fun s => Reader.optionalText_eq_valid_iff.mpr rfl
  cases description <;> cases uri <;>
    simp [ofFields, body, Reader.required, Reader.withDefault, Fields.find?, List.lookup_cons, hcode, htext]

theorem ofBody?_json (error : ProtocolError) : ofBody? (Value.object error.body).json = some error := by
  have hread : Value.ofJson? (Value.object error.body).json = some (.object error.body) := by
    rw [body_eq_ofTexts]
    exact Value.ofJson?_ofTexts error.texts
  rw [ofBody?, hread]
  dsimp only
  rw [ofFields_body]
  rfl

end ProtocolError

section Refusals

variable {σ τ : Type}

def Failure.respond (f : Failure) : Action σ Response := do
  let error ← f.report
  errorResponse error

theorem Failure.result_respond (f : Failure) (s : Service σ) :
    (f.respond.perform s).1 = f.toProtocolError.bind errorResponse := by
  obtain ⟨journal, hreport⟩ := f.perform_report s
  rw [respond, Action.perform_bind, hreport]
  cases f.toProtocolError with
  | error f' => rfl
  | ok error => rfl

/-- A refusal has a response exactly if its description and its reference are absent or whole texts. -/
theorem Refusal.respond_eq_ok_iff {r : Refusal} {s : Service σ} {response : Response} :
    ((Failure.refused r).respond.perform s).1 = .ok response ↔
      ∃ error : ProtocolError, error.code = r.code ∧ r.description = .ofOption error.description ∧
        r.uri = .ofOption error.uri ∧ (error.description.all isWhole && error.uri.all isWhole) = true ∧
        response = noStoreResponse 400 error.body := by
  rw [Failure.result_respond]
  constructor
  · intro h
    obtain ⟨error, hmapped, hsent⟩ := bind_eq_ok_iff.mp h
    obtain ⟨hcode, hdescription, huri⟩ := Refusal.toProtocolError_eq_ok_iff.mp hmapped
    obtain ⟨hwhole, hresponse⟩ := errorResponse_eq_ok_iff.mp hsent
    exact ⟨error, hcode, hdescription, huri, hwhole, hresponse⟩
  · rintro ⟨error, hcode, hdescription, huri, hwhole, hresponse⟩
    apply bind_eq_ok_iff.mpr
    exact ⟨error, Refusal.toProtocolError_eq_ok_iff.mpr ⟨hcode, hdescription, huri⟩,
      errorResponse_eq_ok_iff.mpr ⟨hwhole, hresponse⟩⟩

/-- With texts or nothing as description and reference, only surrogates are in the way of a response. -/
theorem Refusal.exists_respond_iff {r : Refusal} {description uri : Option String}
    (hdescription : r.description = .ofOption description) (huri : r.uri = .ofOption uri) {s : Service σ} :
    (∃ response, ((Failure.refused r).respond.perform s).1 = .ok response) ↔
      (description.all isWhole && uri.all isWhole) = true := by
  constructor
  · rintro ⟨response, h⟩
    obtain ⟨error, -, hd, hu, hwhole, -⟩ := respond_eq_ok_iff.mp h
    rw [Value.ofOption_injective (hdescription.symm.trans hd), Value.ofOption_injective (huri.symm.trans hu)]
    exact hwhole
  · intro hwhole
    exact ⟨_, respond_eq_ok_iff.mpr
      ⟨⟨r.code, description, uri⟩, rfl, hdescription, huri, hwhole, rfl⟩⟩

/-- The body of a response to a refusal is read back as the code, the description and the reference of the
refusal. -/
theorem Refusal.ofBody?_of_respond {r : Refusal} {s : Service σ} {response : Response}
    (h : ((Failure.refused r).respond.perform s).1 = .ok response) :
    ∃ error, ProtocolError.ofBody? response.body = some error ∧ error.code = r.code ∧
      r.description = .ofOption error.description ∧ r.uri = .ofOption error.uri := by
  obtain ⟨error, hcode, hdescription, huri, -, rfl⟩ := respond_eq_ok_iff.mp h
  exact ⟨error, error.ofBody?_json, hcode, hdescription, huri⟩

theorem Refusal.eq_of_body_eq {r r' : Refusal} {s : Service σ} {s' : Service τ} {response response' : Response}
    (h : ((Failure.refused r).respond.perform s).1 = .ok response)
    (h' : ((Failure.refused r').respond.perform s').1 = .ok response')
    (hbody : response.body = response'.body) :
    r.code = r'.code ∧ r.description = r'.description ∧ r.uri = r'.uri := by
  obtain ⟨error, hread, hcode, hdescription, huri⟩ := ofBody?_of_respond h
  obtain ⟨error', hread', hcode', hdescription', huri'⟩ := ofBody?_of_respond h'
  rw [hbody, hread'] at hread
  cases hread
  refine ⟨hcode.symm.trans hcode', ?_, ?_⟩
  · rw [hdescription, hdescription']
  · rw [huri, huri']

end Refusals

/-- Whether a failure is no business of the client: it is no refusal, and the client is still there. -/
def Failure.isInternal (f : Failure) : Bool := f.refusal?.isNone && !f.isDisconnect

theorem Endpoint.answer_of_isInternal {f : Failure} (h : f.isInternal = true) :
    answer (.error f) = f.tell.map fun _ => noStoreResponse 400 ProtocolError.unexpected.body := by
  obtain ⟨hrefusal, hthere⟩ := Bool.and_eq_true_iff.mp h
  exact answer_of_inside (Option.isNone_iff_eq_none.mp hrefusal) (by simpa using hthere)

variable {σ τ : Type}

/-- The service with the form of a request told in its journal. -/
def Service.reading (s : Service σ) (r : Request) (form : Form) : Service σ :=
  { s with
    journal := s.journal.write .tokenEndpoint
      (Message.httpRequest .tokenEndpoint (.text r.method) (.text r.addressPath) form.grouped [] s.now) }

namespace Endpoint

/-- A token request that is valid at an endpoint. -/
structure Takes (e : Endpoint σ) (r : Request) (form : Form) (request : TokenRequest) : Prop where
  accepted : e.accepts r = true
  read : Form.ofRequest e.hosted r = .ok form
  valid : TokenRequest.ofParameters (.pairs form) = .ok request

/-- The ways in which a valid token request fails inside. The resolver, the building of the grant request or
the authority fails with an internal failure, or the authority returns a value that is no token. -/
inductive FailsInside (e : Endpoint σ) (r : Request) (form : Form) (request : TokenRequest)
    (s : Service σ) : Failure → Prop
  | resolver {f : Failure} {t : Service σ} (internal : f.isInternal = true)
      (raised : (e.identify r).perform (s.reading r form) = (.error f, t)) :
      FailsInside e r form request s f
  | building {client : ClientIdentity} {t : Service σ} {f : Failure}
      (resolved : (e.identify r).perform (s.reading r form) = (.ok (some client), t))
      (internal : f.isInternal = true)
      (fault : GrantRequest.ofLoose? request.loose (some client) = .error f) :
      FailsInside e r form request s f
  | authority {client : ClientIdentity} {t u : Service σ} {grant : GrantRequest} {f : Failure}
      (resolved : (e.identify r).perform (s.reading r form) = (.ok (some client), t))
      (built : GrantRequest.ofLoose? request.loose (some client) = .ok grant)
      (internal : f.isInternal = true)
      (raised : (e.authority grant).perform (t.announcing grant) = (.error f, u)) :
      FailsInside e r form request s f
  | value {client : ClientIdentity} {t u : Service σ} {grant : GrantRequest} {v : Value}
      (resolved : (e.identify r).perform (s.reading r form) = (.ok (some client), t))
      (built : GrantRequest.ofLoose? request.loose (some client) = .ok grant)
      (answered : (e.authority grant).perform (t.announcing grant) = (.ok (.other v), u)) :
      FailsInside e r form request s (.notAToken v.kind)

variable {e : Endpoint σ} {r : Request} {form : Form} {request : TokenRequest} {s : Service σ}

/-- What follows the resolver of a valid token request. -/
def proceed (e : Endpoint σ) (request : TokenRequest) :
    Option ClientIdentity → Action σ (ClientIdentity × AccessToken)
  | none => throw (.refused .missingClient)
  | some client => do
    let token ← dispatch e.authority request client
    return (client, token)

/-- Of a valid token request the form is told to the journal, and its client is resolved. -/
theorem perform_process_of_takes (h : e.Takes r form request) :
    (e.process r).perform s =
      Action.andThen (e.proceed request) ((e.identify r).perform (s.reading r form)) := by
  rw [process, Action.perform_bind, Action.perform_lift, h.read, Action.andThen_ok, Action.perform_bind,
    Action.perform_log, Action.andThen_ok, Action.perform_bind, Action.perform_lift, h.valid,
    Action.andThen_ok, Action.perform_bind]
  change Action.andThen _ ((e.identify r).perform (s.reading r form)) = _
  rcases (e.identify r).perform (s.reading r form) with ⟨_ | _ | client, t⟩
  · rfl
  · rfl
  · rfl

theorem process_of_unresolved (h : e.Takes r form request) {f : Failure} {t : Service σ}
    (hraised : (e.identify r).perform (s.reading r form) = (.error f, t)) :
    ((e.process r).perform s).1 = .error f := by
  rw [perform_process_of_takes h, hraised]
  rfl

theorem process_of_resolved (h : e.Takes r form request) {client : ClientIdentity} {t : Service σ}
    (hresolved : (e.identify r).perform (s.reading r form) = (.ok (some client), t)) :
    ((e.process r).perform s).1 =
      ((dispatchLoose e.authority request.loose (some client)).perform t).1.map
        fun token => (client, token) := by
  rw [perform_process_of_takes h, hresolved, Action.andThen_ok, proceed, Action.perform_bind]
  change (Action.andThen _ ((dispatchLoose e.authority request.loose (some client)).perform t)).1 = _
  rcases (dispatchLoose e.authority request.loose (some client)).perform t with ⟨_ | token, u⟩
  · rfl
  · rfl

/-- A valid token request that fails inside comes to that failure, which is an internal one. -/
theorem FailsInside.result_process (h : e.Takes r form request) {f : Failure}
    (hfails : e.FailsInside r form request s f) :
    ((e.process r).perform s).1 = .error f ∧ f.isInternal = true := by
  cases hfails with
  | resolver internal raised => exact ⟨process_of_unresolved h raised, internal⟩
  | building resolved internal fault =>
      refine ⟨?_, internal⟩
      rw [process_of_resolved h resolved, dispatchLoose_of_error fault]
      rfl
  | authority resolved built internal raised =>
      refine ⟨?_, internal⟩
      rw [process_of_resolved h resolved, dispatchLoose_of_ok built, perform_submit, raised]
      rfl
  | value resolved built answered =>
      refine ⟨?_, rfl⟩
      rw [process_of_resolved h resolved, dispatchLoose_of_ok built, perform_submit, answered]
      rfl

/-- Nothing is told of what has failed inside, and nothing is answered if it has no text for the journal. -/
theorem FailsInside.result_around (h : e.Takes r form request) {f : Failure}
    (hfails : e.FailsInside r form request s f) (next : Request → Action σ Response) :
    ((e.around next r).perform s).1 =
      f.tell.map fun _ => noStoreResponse 400 ProtocolError.unexpected.body := by
  obtain ⟨hfailed, hinternal⟩ := hfails.result_process h
  rw [around, if_pos h.accepted, result_handle, hfailed, answer_of_isInternal hinternal]

/-- A refusal whose description and reference are texts or absent has a response exactly if they have no
surrogate, and its body is then read back as the code, the description and the reference of the refusal. So
refusals with the same body agree on all three. A valid token request that fails inside has a response exactly
if the failure has a text, and whichever endpoint fails and for whichever cause, the response is the same
one. See `Text.isStandIn` for descriptions this says nothing of. -/
theorem told_faithfully_or_not_at_all (s : Service σ) (s' : Service τ) :
    (∀ (r : Refusal) (description uri : Option String), r.description = .ofOption description →
      r.uri = .ofOption uri →
        ((∃ response, ((Failure.refused r).respond.perform s).1 = .ok response) ↔
          (description.all isWhole && uri.all isWhole) = true) ∧
        ∀ response, ((Failure.refused r).respond.perform s).1 = .ok response →
          ProtocolError.ofBody? response.body = some ⟨r.code, description, uri⟩) ∧
    (∀ (r r' : Refusal) (response response' : Response),
      ((Failure.refused r).respond.perform s).1 = .ok response →
      ((Failure.refused r').respond.perform s').1 = .ok response' →
      response.body = response'.body →
        r.code = r'.code ∧ r.description = r'.description ∧ r.uri = r'.uri) ∧
    ∀ (e : Endpoint σ) (e' : Endpoint τ) (next : Request → Action σ Response)
      (next' : Request → Action τ Response) (r : Request) (form form' : Form)
      (request request' : TokenRequest) (f f' : Failure),
      e.Takes r form request → e'.Takes r form' request' →
      e.FailsInside r form request s f → e'.FailsInside r form' request' s' f' →
        (∀ cause, f.tell = .error cause → ((e.around next r).perform s).1 = .error cause) ∧
        (∀ text, f.tell = .ok text →
          ((e.around next r).perform s).1 = .ok (noStoreResponse 400 ProtocolError.unexpected.body)) ∧
        ∀ text text', f.tell = .ok text → f'.tell = .ok text' →
          ((e.around next r).perform s).1 = ((e'.around next' r).perform s').1 := by
  refine ⟨?_, ?_, ?_⟩
  · intro r description uri hdescription huri
    refine ⟨Refusal.exists_respond_iff hdescription huri, ?_⟩
    intro response hresponse
    obtain ⟨⟨code, d, u⟩, hread, hcode, hd, hu⟩ := Refusal.ofBody?_of_respond hresponse
    have hdescriptions : d = description := Value.ofOption_injective (hd.symm.trans hdescription)
    have huris : u = uri := Value.ofOption_injective (hu.symm.trans huri)
    rw [hread, hdescriptions, huris, ← hcode]
  · intro r r' response response' h h' hbody
    exact Refusal.eq_of_body_eq h h' hbody
  · intro e e' next next' r form form' request request' f f' htakes htakes' hfails hfails'
    have hfirst := hfails.result_around htakes next
    have hsecond := hfails'.result_around htakes' next'
    refine ⟨?_, ?_, ?_⟩
    · intro cause hcause
      rw [hfirst, hcause]
      rfl
    · intro text htext
      rw [hfirst, htext]
      rfl
    · intro text text' htext htext'
      rw [hfirst, hsecond, htext, htext']
      rfl

/-- A refusal without a reference and with an empty description. -/
def silentRefusal : Refusal := ⟨.authority, .invalidGrant, .text "", .null⟩

/-- An empty description is read back as it is. An authority that fails and one that returns a number are
answered alike, unless the failure is about a number that is too long to be written: there is no response to
that one. -/
theorem silentRefusal_told :
    (∃ response, ((Failure.refused silentRefusal).respond.perform sampleService).1 = .ok response ∧
      ProtocolError.ofBody? response.body = some ⟨.invalidGrant, some "", none⟩ ∧
      ∀ (r : Refusal) (response' : Response),
        ((Failure.refused r).respond.perform sampleService).1 = .ok response' →
        response.body = response'.body → r.description = .text "") ∧
    (((replying (.error (.raised "RuntimeError" [.text "secret"]))).around (fun _ => throw .noAuthority)
        sampleRequest).perform sampleService).1 =
      (((replying (.ok (.other (.int 1)))).around (fun _ => throw .noAuthority)
        sampleRequest).perform sampleService).1 ∧
    (((replying (.error longFailure)).around (fun _ => throw .noAuthority)
        sampleRequest).perform sampleService).1 = .error .tooManyDigits := by
  obtain ⟨hfaithful, hinjective, hhidden⟩ :=
    told_faithfully_or_not_at_all sampleService sampleService
  have htakes : ∀ reply, (replying reply).Takes sampleRequest
      [("grant_type", .text "client_credentials")]
      ⟨.clientCredentials, none, none, none, none, by decide⟩ := by
    intro reply
    refine ⟨by with_unfolding_all rfl, by with_unfolding_all rfl, by rfl⟩
  have hraised : ∀ f, f.isInternal = true → (replying (.error f)).FailsInside sampleRequest
      [("grant_type", .text "client_credentials")]
      ⟨.clientCredentials, none, none, none, none, by decide⟩ sampleService f :=
    fun f hinternal => .authority rfl rfl hinternal rfl
  have hreturned : (replying (.ok (.other (.int 1)))).FailsInside sampleRequest
      [("grant_type", .text "client_credentials")]
      ⟨.clientCredentials, none, none, none, none, by decide⟩ sampleService (.notAToken (Value.int 1).kind) :=
    .value rfl rfl rfl
  refine ⟨?_, ?_, ?_⟩
  · obtain ⟨hexists, hread⟩ := hfaithful silentRefusal (some "") none rfl rfl
    obtain ⟨response, hresponse⟩ := hexists.mpr (by decide)
    refine ⟨response, hresponse, hread response hresponse, ?_⟩
    intro r response' hresponse' hbody
    exact (hinjective silentRefusal r response response' hresponse hresponse' hbody).2.1.symm
  · exact (hhidden _ _ _ _ _ _ _ _ _ _ _ (htakes _) (htakes _)
      (hraised (.raised "RuntimeError" [.text "secret"]) rfl) hreturned).2.2 _ _ rfl rfl
  · exact (hhidden _ _ _ (fun _ => throw .noAuthority) _ _ _ _ _ _ _ (htakes _) (htakes _)
      (hraised longFailure rfl) (hraised longFailure rfl)).1 _ tell_longFailure

/-- Nothing is told of a refusal whose description has a surrogate: there is no response. -/
theorem surrogate_description_untold :
    (Refusal.byAuthority .invalidScope loneSurrogate).description = .ofOption (some loneSurrogate) ∧
    (Refusal.byAuthority .invalidScope loneSurrogate).uri = .ofOption none ∧
    ∀ response, ((Failure.refused (.byAuthority .invalidScope loneSurrogate)).respond.perform
      sampleService).1 ≠ .ok response := by
  have hdescription : (Refusal.byAuthority .invalidScope loneSurrogate).description =
      .ofOption (some loneSurrogate) := rfl
  have huri : (Refusal.byAuthority .invalidScope loneSurrogate).uri = .ofOption none := rfl
  refine ⟨hdescription, huri, ?_⟩
  intro response hresponse
  have hwhole := (Refusal.exists_respond_iff hdescription huri).mp ⟨response, hresponse⟩
  exact absurd hwhole (by decide)

end Endpoint
end OAuthGrant

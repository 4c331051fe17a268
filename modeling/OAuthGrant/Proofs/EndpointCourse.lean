import OAuthGrant.Proofs.EndpointStatus
import OAuthGrant.Proofs.RecordedCalls

/-!
# The course of a request

A request for the endpoint passes through its stages in one order, and the first failure ends it. `Course`
lists the ways it can go, each with the calls that have been made and the outcome. Every request takes one
of them, and what is answered follows from the outcome.
-/

namespace OAuthGrant
open Http (Form Request Response)
open Text (isWhole)

def TokenRequest.hasWholeCode (request : TokenRequest) : Bool :=
  match request.grantType with
  | .authorizationCode => isWhole (request.code.getD "")
  | .clientCredentials => true

theorem Reader.grantType_name (g : GrantType) : Reader.grantType (.text g.name) = .valid g := by
  cases g <;> rfl

theorem Reader.nonEmptyText_of_isWhole {s : String} (hne : s ≠ "") (hwhole : isWhole s = true) :
    Reader.nonEmptyText (.text s) = .valid s := by
  simp [Reader.nonEmptyText, Reader.nonEmpty, Reader.whole, hwhole, hne]

theorem scopesOf?_ofOption (scope : Option String) :
    scopesOf? (.ofOption scope) = .ok (ScopeSet.ofText (scope.getD "")) := by
  cases scope with
  | none => rfl
  | some s => exact scopesOf?_text s

/-- A validated request has its grant request, unless its code has a surrogate. -/
theorem GrantRequest.ofLoose?_loose {request : TokenRequest} (h : request.hasWholeCode = true)
    (client : ClientIdentity) :
    ofLoose? request.loose (some client) = .ok (ofTokenRequest request client) := by
  obtain ⟨grantType, code, redirectUri, scope, clientId, rule⟩ := request
  unfold ofLoose? ofTokenRequest TokenRequest.loose
  dsimp only
  rw [Reader.grantType_name]
  cases grantType with
  | authorizationCode =>
      have hne : code.getD "" ≠ "" := rule rfl
      cases code with
      | none => exact absurd rfl hne
      | some s =>
          have hcode := Reader.nonEmptyText_of_isWhole hne h
          have huri : Reader.optionalText (.ofOption redirectUri) = .valid redirectUri :=
            Reader.optionalText_eq_valid_iff.mpr rfl
          dsimp only [Value.ofOption, Option.getD_some] at hcode ⊢
          rw [hcode]
          dsimp only [Value.ofOption] at huri
          rw [huri]
          rfl
  | clientCredentials =>
      dsimp only
      rw [scopesOf?_ofOption]
      rfl

def Validated (hosted : Bool) (r : Request) (request : TokenRequest) : Prop :=
  ∃ form, Form.ofRequest hosted r = .ok form ∧ TokenRequest.ofParameters (.pairs form) = .ok request

/-- The ways a request can go, with the calls made on the way and the outcome. If the code that an
identified client presents has a surrogate (see `Text.isStandIn`), nothing is said on what follows, except
that the resolver is not called again. -/
inductive Course (hosted : Bool) (r : Request) :
    List Call → Except Failure (ClientIdentity × AccessToken) → Prop
  | unreadable {f : Failure} (fault : Form.ofRequest hosted r = .error f) :
      Course hosted r [] (.error f)
  | invalid {form : Form} {f : Failure} (read : Form.ofRequest hosted r = .ok form)
      (fault : TokenRequest.ofParameters (.pairs form) = .error f) : Course hosted r [] (.error f)
  | unresolved {request : TokenRequest} (valid : Validated hosted r request) (f : Failure) :
      Course hosted r [.identify r (.error f)] (.error f)
  | anonymous {request : TokenRequest} (valid : Validated hosted r request) :
      Course hosted r [.identify r (.ok none)] (.error (.refused .missingClient))
  | rejected {request : TokenRequest} (valid : Validated hosted r request)
      (whole : request.hasWholeCode = true) (client : ClientIdentity) (f : Failure) :
      Course hosted r
        [.identify r (.ok (some client)),
          .verify (.ofTokenRequest request client) (.error f)] (.error f)
  | noToken {request : TokenRequest} (valid : Validated hosted r request)
      (whole : request.hasWholeCode = true) (client : ClientIdentity) (v : Value) :
      Course hosted r
        [.identify r (.ok (some client)),
          .verify (.ofTokenRequest request client) (.ok (.other v))] (.error (.notAToken v.kind))
  | issued {request : TokenRequest} (valid : Validated hosted r request)
      (whole : request.hasWholeCode = true) (client : ClientIdentity) (token : AccessToken) :
      Course hosted r
        [.identify r (.ok (some client)),
          .verify (.ofTokenRequest request client) (.ok (.token token))] (.ok (client, token))
  | leftOpen {request : TokenRequest} (valid : Validated hosted r request)
      (surrogate : request.hasWholeCode = false) (client : ClientIdentity) (rest : List Call)
      (resolvedOnce : ∀ call ∈ rest, call.isVerify = true)
      (out : Except Failure (ClientIdentity × AccessToken)) :
      Course hosted r (.identify r (.ok (some client)) :: rest) out

namespace Endpoint

variable {σ : Type}

/-- Submitting a grant calls the authority once and takes only a token from it. -/
theorem submit_recorded (authority : Authority σ) (grant : GrantRequest)
    (s : Service (σ × List Call)) :
    ∃ out, ((submit authority.recorded grant).perform s).2.state.2 = s.state.2 ++ [.verify grant out] ∧
      ((submit authority.recorded grant).perform s).1 = out.bind Reply.token? := by
  rw [submit, Action.perform_bind, Action.perform_log, Action.andThen_ok, Action.perform_bind,
    Authority.recorded, Action.perform_entered]
  generalize (authority grant).perform _ = result
  obtain ⟨out, t⟩ := result
  cases out with
  | error f => exact ⟨.error f, rfl, rfl⟩
  | ok reply => exact ⟨.ok reply, rfl, rfl⟩

theorem dispatch_of_hasWholeCode {request : TokenRequest} (h : request.hasWholeCode = true)
    (authority : Authority σ) (client : ClientIdentity) (s : Service σ) :
    (dispatch authority request client).perform s =
      (submit authority (.ofTokenRequest request client)).perform s := by
  rw [dispatch, dispatchLoose, GrantRequest.ofLoose?_loose h, Action.perform_bind, Action.perform_lift,
    Action.andThen_ok]

theorem dispatch_recorded_extends (authority : Authority σ) (request : TokenRequest)
    (client : ClientIdentity) (s : Service (σ × List Call)) :
    ∃ rest, ((dispatch authority.recorded request client).perform s).2.state.2 = s.state.2 ++ rest ∧
      ∀ call ∈ rest, call.isVerify = true := by
  rw [dispatch, dispatchLoose, Action.perform_bind, Action.perform_lift]
  cases GrantRequest.ofLoose? request.loose (some client) with
  | error f =>
      refine ⟨[], (List.append_nil _).symm, ?_⟩
      intro call hcall
      cases hcall
  | ok grant =>
      obtain ⟨out, hcalls, -⟩ := submit_recorded authority grant s
      refine ⟨[.verify grant out], hcalls, ?_⟩
      intro call hcall
      rw [List.mem_singleton.mp hcall]
      rfl

theorem course_dispatch {hosted : Bool} {r : Request} {request : TokenRequest}
    (valid : Validated hosted r request) (authority : Authority σ) (client : ClientIdentity)
    (s : Service (σ × List Call)) :
    ∃ rest, ((dispatch authority.recorded request client).perform s).2.state.2 = s.state.2 ++ rest ∧
      Course hosted r (.identify r (.ok (some client)) :: rest)
        (((dispatch authority.recorded request client).perform s).1.map
          fun token => (client, token)) := by
  cases whole : request.hasWholeCode with
  | false =>
      obtain ⟨rest, hcalls, hverify⟩ := dispatch_recorded_extends authority request client s
      exact ⟨rest, hcalls, .leftOpen valid whole client rest hverify _⟩
  | true =>
      obtain ⟨out, hcalls, hresult⟩ :=
        submit_recorded authority (.ofTokenRequest request client) s
      rw [dispatch_of_hasWholeCode whole, hresult]
      refine ⟨_, hcalls, ?_⟩
      cases out with
      | error f => exact .rejected valid whole client f
      | ok reply =>
          cases reply with
          | token token => exact .issued valid whole client token
          | other v => exact .noToken valid whole client v

/-- Processing a request takes one of the courses. -/
theorem course_process (e : Endpoint σ) (r : Request) (s : Service (σ × List Call)) :
    ∃ calls, ((e.recorded.process r).perform s).2.state.2 = s.state.2 ++ calls ∧
      Course e.hosted r calls ((e.recorded.process r).perform s).1 := by
  rw [process, Action.perform_bind, Action.perform_lift]
  cases hform : Form.ofRequest e.recorded.hosted r with
  | error f => exact ⟨[], (List.append_nil _).symm, .unreadable hform⟩
  | ok form =>
      rw [Action.andThen_ok, Action.perform_bind, Action.perform_log, Action.andThen_ok,
        Action.perform_bind, Action.perform_lift]
      cases hvalid : TokenRequest.ofParameters (.pairs form) with
      | error f => exact ⟨[], (List.append_nil _).symm, .invalid hform hvalid⟩
      | ok request =>
          have valid : Validated e.hosted r request := ⟨form, hform, hvalid⟩
          have hidentify : e.recorded.identify r = (e.identify r).entered (.identify r) := rfl
          rw [Action.andThen_ok, Action.perform_bind, hidentify, Action.perform_entered]
          generalize (e.identify r).perform _ = result
          obtain ⟨out, t⟩ := result
          cases out with
          | error f => exact ⟨[.identify r (.error f)], rfl, .unresolved valid f⟩
          | ok client =>
              cases client with
              | none => exact ⟨[.identify r (.ok none)], rfl, .anonymous valid⟩
              | some client =>
                  have hauthority : e.recorded.authority = e.authority.recorded := rfl
                  obtain ⟨rest, hcalls, course⟩ := course_dispatch valid e.authority client
                    (t.withState (t.state, s.state.2 ++ [.identify r (.ok (some client))]))
                  rw [Action.andThen_ok]
                  dsimp only
                  rw [Action.perform_bind, hauthority]
                  refine ⟨.identify r (.ok (some client)) :: rest, ?_⟩
                  generalize (dispatch _ request client).perform _ = dispatched at hcalls course ⊢
                  obtain ⟨out, u⟩ := dispatched
                  have hlist : u.state.2 = s.state.2 ++ .identify r (.ok (some client)) :: rest := by
                    rw [hcalls, Service.state_withState, List.append_assoc]
                    rfl
                  cases out with
                  | error f => exact ⟨hlist, course⟩
                  | ok token => exact ⟨hlist, course⟩

/-- The calls that are made while a request is handled. -/
def calls (e : Endpoint σ) (next : Request → Action σ Response) (r : Request) (s : Service σ) :
    List Call :=
  ((e.recorded.around (fun r => (next r).unrecorded) r).perform s.recording).2.state.2

/-- Recording the calls of an endpoint changes nothing. A request that is not for the endpoint is passed
on and nobody is called. A request for the endpoint takes one of the courses: its response is the token
response for the token that has been issued or the error response for the first failure, and a client
that has gone away gets none. -/
theorem request_takes_course (e : Endpoint σ) (next : Request → Action σ Response) (r : Request)
    (s : Service σ) :
    (((e.recorded.around (fun r => (next r).unrecorded) r).perform s.recording).1 =
        ((e.around next r).perform s).1 ∧
      ((e.recorded.around (fun r => (next r).unrecorded) r).perform s.recording).2.erase =
        ((e.around next r).perform s).2) ∧
    (e.accepts r = false →
      (e.around next r).perform s = (next r).perform s ∧ e.calls next r s = []) ∧
    (e.accepts r = true → ∃ out, Course e.hosted r (e.calls next r s) out ∧
      (∀ response, ((e.around next r).perform s).1 = .ok response →
        (∃ client token body, out = .ok (client, token) ∧ tokenResponseBody token = .ok body ∧
          response = noStoreResponse 200 body) ∨
        (∃ f error, out = .error f ∧ f.toProtocolError = .ok error ∧
          response = noStoreResponse 400 error.body)) ∧
      (∀ f, out = .error f → f.isDisconnect = true → ((e.around next r).perform s).1 = .error f)) := by
  have htracks := recorded_around e next r s.recording
  have haccepts : e.recorded.accepts r = e.accepts r := rfl
  refine ⟨htracks, ?_, ?_⟩
  · intro hr
    have hnot : ¬ e.accepts r = true := by rw [hr]; exact Bool.false_ne_true
    refine ⟨by rw [around, if_neg hnot], ?_⟩
    rw [calls, around, haccepts, if_neg hnot]
    rfl
  · intro hr
    obtain ⟨added, hcalls, course⟩ := course_process e r s.recording
    have hresult : ((e.around next r).perform s).1 =
        answer ((e.recorded.process r).perform s.recording).1 := by
      rw [(tracks_process e r s.recording).1, around, if_pos hr, result_handle]
      rfl
    have hadded : e.calls next r s = added := by
      rw [calls, around, haccepts, if_pos hr, state_handle, hcalls]
      exact List.nil_append added
    rw [hadded, hresult]
    refine ⟨_, course, ?_, ?_⟩
    · intro response hresponse
      exact (answer_eq_ok_iff.mp hresponse).2
    · intro f hout hgone
      rw [hout, answer, if_pos hgone]

/-- A request that is posted to the endpoint takes its course, and one that is not is passed on. -/
theorem sampleRequest_takes_course :
    ((replying (.ok (.token (sampleToken .null)))).accepts sampleRequest = true ∧
      ∃ out, Course false sampleRequest ((replying (.ok (.token (sampleToken .null)))).calls
        (fun _ => throw .noAuthority) sampleRequest sampleService) out) ∧
    ((replying (.ok (.token (sampleToken .null)))).accepts { sampleRequest with method := "GET" } = false ∧
      (replying (.ok (.token (sampleToken .null)))).calls
        (fun _ => throw .noAuthority) { sampleRequest with method := "GET" } sampleService = []) := by
  refine ⟨⟨by decide +kernel, ?_⟩, by decide +kernel, ?_⟩
  · obtain ⟨out, course, -⟩ :=
      (request_takes_course (replying (.ok (.token (sampleToken .null)))) (fun _ => throw .noAuthority)
        sampleRequest sampleService).2.2 (by decide +kernel)
    exact ⟨out, course⟩
  · exact ((request_takes_course _ _ _ sampleService).2.1 (by decide +kernel)).2

def surrogateRequest : Request where
  method := "POST"
  path := "/token"
  headers := [("content-type", "multipart/form-data; boundary=B; charset=unicode_escape")]
  chunks := [("--B\r\nContent-Disposition:form-data;name=\"grant_type\"\r\n\r\nauthorization_code\r\n" ++
    "--B\r\nContent-Disposition:form-data;name=\"code\"\r\n\r\n\\ud800\r\n--B--\r\n").toUTF8.toList]

/-- A request whose form cannot be read, because nothing tells its parts apart. -/
def unreadableRequest : Request where
  method := "POST"
  path := "/token"
  headers := [("content-type", "multipart/form-data")]

/-- A code with a surrogate is validated and its client is identified, but the authority is not called. A
form that cannot be read is answered as a server error before anything is validated. -/
theorem surrogate_code_not_verified :
    (((Form.ofRequest false surrogateRequest).bind fun form =>
        TokenRequest.ofParameters (.pairs form)).isOk = true ∧
      ((replying (.ok (.token (sampleToken .null)))).calls (fun _ => throw .noAuthority)
        surrogateRequest sampleService).map Call.isVerify = [false] ∧
      (((replying (.ok (.token (sampleToken .null)))).around (fun _ => throw .noAuthority)
        surrogateRequest).perform sampleService).1.toOption =
          some (noStoreResponse 400 ProtocolError.unexpected.body)) ∧
    ((Form.ofRequest false unreadableRequest).isOk = false ∧
      (((replying (.ok (.token (sampleToken .null)))).around (fun _ => throw .noAuthority)
        unreadableRequest).perform sampleService).1.toOption =
          some (noStoreResponse 400 ProtocolError.unexpected.body)) := by
  decide +kernel

end Endpoint
end OAuthGrant

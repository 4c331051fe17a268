import OAuthGrant.Proofs.PairedRequests
import OAuthGrant.Proofs.Verdicts

/-!
# What comes of a request

A request asks something of the authority, in the name of a client, or it fails before: `Deployment.demand`
tells which, from the form that has been read and from what comes before the body. The reply, the store
that is left behind and the number of values drawn follow from that and from the decision of the
authority.
-/

namespace OAuthGrant
open Http (Form Request Response)
open InMemoryAuthority (decision tokenBytes)

namespace Deployment

variable (d : Deployment)

/-- What a form asks of the authority, and for which client. -/
def demand (head : Request) (form : Except Failure Form) :
    Except Failure (ClientIdentity × GrantRequest) :=
  match form with
  | .error f => .error f
  | .ok form =>
    match TokenRequest.ofParameters (.pairs form), d.find head with
    | .error f, _ => .error f
    | .ok _, .error f => .error f
    | .ok _, .ok none => .error (.refused .missingClient)
    | .ok request, .ok (some client) =>
      (GrantRequest.ofLoose? request.loose (some client)).map fun grant => (client, grant)

def outcome (s : Service CodeStore) :
    Except Failure (ClientIdentity × GrantRequest) → Except Failure (ClientIdentity × AccessToken)
  | .error f => .error f
  | .ok (client, grant) =>
      ((decision s.state s.now grant).bind
        (d.authority.tokenOf s.now (s.random tokenBytes (s.drawn + 1)))).map fun token => (client, token)

def storeAfter (store : CodeStore) : Except Failure (ClientIdentity × GrantRequest) → CodeStore
  | .error _ => store
  | .ok (_, grant) => InMemoryAuthority.storeAfter store grant

theorem perform_process (r : Request) (s : Service CodeStore) :
    ∃ drawn journal, s.drawn ≤ drawn ∧ (d.endpoint.process r).perform s =
      (d.outcome s (d.demand r.bodiless (Form.ofRequest d.hosted r)),
        { s with
          state := storeAfter s.state (d.demand r.bodiless (Form.ofRequest d.hosted r))
          drawn, journal }) := by
  have hhosted : d.endpoint.hosted = d.hosted := rfl
  rw [Endpoint.process, Action.perform_bind, Action.perform_lift, hhosted]
  unfold demand
  cases Form.ofRequest d.hosted r with
  | error f => exact ⟨_, s.journal, Nat.le_refl _, rfl⟩
  | ok form =>
      rw [Action.andThen_ok, Action.perform_bind, Action.perform_log, Action.andThen_ok,
        Action.perform_bind, Action.perform_lift]
      dsimp only
      cases TokenRequest.ofParameters (.pairs form) with
      | error f => exact ⟨_, _, Nat.le_refl _, rfl⟩
      | ok request =>
          have hidentify : d.endpoint.identify = d.identify := rfl
          rw [Action.andThen_ok, Action.perform_bind, hidentify, d.perform_identify]
          cases d.find r.bodiless with
          | error f => exact ⟨_, _, Nat.le_refl _, rfl⟩
          | ok found =>
              cases found with
              | none => exact ⟨_, _, Nat.le_refl _, rfl⟩
              | some client =>
                  have hauthority : d.endpoint.authority = d.authority.toAuthority := rfl
                  rw [Action.andThen_ok]
                  dsimp only
                  rw [Action.perform_bind, hauthority, dispatch, dispatchLoose, Action.perform_bind,
                    Action.perform_lift]
                  cases GrantRequest.ofLoose? request.loose (some client) with
                  | error f => exact ⟨_, _, Nat.le_refl _, rfl⟩
                  | ok grant =>
                      obtain ⟨drawn, journal, hdrawn, hsubmit⟩ := d.authority.perform_submit grant _
                      rw [Action.andThen_ok, hsubmit]
                      refine ⟨drawn, journal, hdrawn, ?_⟩
                      dsimp only [Except.map, outcome, storeAfter]
                      cases (decision s.state s.now grant).bind
                        (d.authority.tokenOf s.now (s.random tokenBytes (s.drawn + 1))) <;> rfl

variable {Legible : String → Prop}

def asks (s : Submission d.hosted Legible) (codes : List String) :
    Except Failure (ClientIdentity × GrantRequest) :=
  d.demand s.head.bodiless (s.form.map (NamedForm.fill codes))

/-- Handling a submission does what it asks of the authority, and answers accordingly. -/
theorem handled_eq (s : Submission d.hosted Legible) {stage : Stage}
    (hcodes : ∀ c ∈ stage.codes, c = "" ∨ Legible c) :
    ∃ drawn journal, stage.service.drawn ≤ drawn ∧ d.handled s stage =
      (Endpoint.answer (d.outcome stage.service (d.asks s stage.codes)),
        { stage.service with
          state := storeAfter stage.service.state (d.asks s stage.codes), drawn, journal }) := by
  obtain ⟨drawn, journal, hdrawn, hprocess⟩ := d.perform_process (s.request stage.codes) stage.service
  obtain ⟨journal', hhandle⟩ := d.endpoint.perform_handle (s.request stage.codes) stage.service
  have hasks : d.demand (s.request stage.codes).bodiless
      (Form.ofRequest d.hosted (s.request stage.codes)) = d.asks s stage.codes := by
    rw [Submission.request, s.reads stage.codes hcodes]
    rfl
  rw [hasks] at hprocess
  rw [hprocess] at hhandle
  exact ⟨drawn, journal', hdrawn, hhandle⟩

/-- What a submission asks in two runs goes together: it fails in both for the same cause, or it asks for
the same grant for the same client, apart from the code that it presents. -/
theorem sameOutcome_asks (hread : IsReadable Legible) {codes codes' : List String}
    (h : List.Forall₂ (IssuedInBoth Legible) codes codes') (s : Submission d.hosted Legible) :
    SameOutcome (fun asked asked' => asked.1 = asked'.1 ∧ d.find s.head.bodiless = .ok (some asked.1) ∧
        PairedGrants (fun c c' =>
          ∃ name, s.presented? = some name ∧ c = name.text codes ∧ c' = name.text codes')
          asked.1 asked.2 asked'.2)
      (d.asks s codes) (d.asks s codes') := by
  unfold asks demand Submission.presented?
  cases hform : s.form with
  | error f => exact .error f
  | ok form =>
      have hrequests := form.sameOutcome_ofParameters hread h
      dsimp only [Except.map]
      generalize TokenRequest.ofParameters (.pairs (form.fill codes)) = read at hrequests ⊢
      generalize TokenRequest.ofParameters (.pairs (form.fill codes')) = read' at hrequests ⊢
      cases hrequests with
      | error f => exact .error f
      | ok hrequests =>
          cases hfind : d.find s.head.bodiless with
          | error f => exact .error f
          | ok found =>
              cases found with
              | none => exact .error _
              | some client =>
                  refine (NamedForm.sameOutcome_ofLoose? hread h hrequests.1 hrequests.2 client).map ?_
                  exact fun grant grant' hgrants => ⟨rfl, rfl, hgrants⟩

end Deployment
end OAuthGrant

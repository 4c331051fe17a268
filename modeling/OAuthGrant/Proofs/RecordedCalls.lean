import OAuthGrant.Endpoint

/-!
# Recording the calls of an endpoint

An endpoint calls two parties, the resolver of the client and the authority. `Endpoint.recorded` is the
same endpoint with a list beside its state in which each call is entered with what it came to. Recording
is an observation only: `recorded_around` says that it changes neither the answer nor the service.
-/

namespace OAuthGrant
open Http (Request Response)

/-- A call of the resolver or of the authority, with what it came to. -/
inductive Call where
  | identify (request : Request) (outcome : Except Failure (Option ClientIdentity))
  | verify (grant : GrantRequest) (outcome : Except Failure Reply)

def Call.isVerify : Call → Bool
  | verify .. => true
  | identify .. => false

variable {σ α β : Type}

def Service.erase (s : Service (σ × List Call)) : Service σ := s.withState s.state.1

def Service.recording (s : Service σ) : Service (σ × List Call) := s.withState (s.state, [])

namespace Action

/-- An action that does not know of the list of calls. -/
def unrecorded (a : Action σ α) : Action (σ × List Call) α :=
  a.onPart Prod.fst fun state s => (state, s.2)

/-- An action that enters itself into the list of calls. -/
def entered (call : Except Failure α → Call) (a : Action σ α) : Action (σ × List Call) α := do
  let out ← a.unrecorded.attempt
  let s ← Action.state
  Action.setState (s.1, s.2 ++ [call out])
  liftM out

theorem perform_entered (call : Except Failure α → Call) (a : Action σ α)
    (s : Service (σ × List Call)) :
    (a.entered call).perform s =
      ((a.perform s.erase).1, (a.perform s.erase).2.withState
        ((a.perform s.erase).2.state, s.state.2 ++ [call (a.perform s.erase).1])) := rfl

/-- An action does the same as another one, apart from the list of calls. -/
def Tracks (a' : Action (σ × List Call) α) (a : Action σ α) : Prop :=
  ∀ s, (a'.perform s).1 = (a.perform s.erase).1 ∧ (a'.perform s).2.erase = (a.perform s.erase).2

theorem tracks_unrecorded (a : Action σ α) : Tracks a.unrecorded a := fun _ => ⟨rfl, rfl⟩

theorem tracks_entered (call : Except Failure α → Call) (a : Action σ α) :
    Tracks (a.entered call) a := fun _ => ⟨rfl, rfl⟩

theorem tracks_log (component : Log.Component) (message : Int → Log.Message) :
    Tracks (Action.log component message : Action (σ × List Call) Unit)
      (Action.log component message) := fun _ => ⟨rfl, rfl⟩

theorem tracks_lift (out : Except Failure α) :
    Tracks (liftM out : Action (σ × List Call) α) (liftM out) := fun _ => ⟨rfl, rfl⟩

theorem Tracks.bind {a' : Action (σ × List Call) α} {a : Action σ α}
    {f' : α → Action (σ × List Call) β} {f : α → Action σ β} (ha : Tracks a' a)
    (hf : ∀ x, Tracks (f' x) (f x)) : Tracks (a' >>= f') (a >>= f) := by
  intro s
  obtain ⟨hresult, hservice⟩ := ha s
  rw [perform_bind, perform_bind]
  rcases h' : a'.perform s with ⟨out', s'⟩
  rcases h : a.perform s.erase with ⟨out, t⟩
  rw [h', h] at hresult hservice
  dsimp only at hresult hservice
  subst hresult hservice
  cases out' with
  | ok x => exact hf x s'
  | error f => exact ⟨rfl, rfl⟩

theorem Tracks.attempt {a' : Action (σ × List Call) α} {a : Action σ α} (ha : Tracks a' a) :
    Tracks a'.attempt a.attempt := by
  intro s
  obtain ⟨hresult, hservice⟩ := ha s
  rw [perform_attempt, perform_attempt, hresult]
  exact ⟨rfl, hservice⟩

end Action

def Authority.recorded (authority : Authority σ) : Authority (σ × List Call) :=
  fun grant => (authority grant).entered (.verify grant)

namespace Endpoint
open OAuthGrant.Action (Tracks)

def recorded (e : Endpoint σ) : Endpoint (σ × List Call) where
  path := e.path
  authority := e.authority.recorded
  identify := fun r => (e.identify r).entered (.identify r)
  hosted := e.hosted

theorem tracks_submit (authority : Authority σ) (grant : GrantRequest) :
    Tracks (submit authority.recorded grant) (submit authority grant) :=
  (Action.tracks_log _ _).bind fun _ =>
    (Action.tracks_entered _ _).bind fun reply => Action.tracks_lift reply.token?

theorem tracks_process (e : Endpoint σ) (r : Request) : Tracks (e.recorded.process r) (e.process r) := by
  unfold process
  refine (Action.tracks_lift _).bind fun form => ?_
  refine (Action.tracks_log _ _).bind fun _ => ?_
  refine (Action.tracks_lift _).bind fun request => ?_
  refine (Action.tracks_entered _ _).bind fun client => ?_
  cases client with
  | none => exact fun _ => ⟨rfl, rfl⟩
  | some client =>
      refine Tracks.bind ?_ fun token => fun _ => ⟨rfl, rfl⟩
      exact (Action.tracks_lift _).bind fun grant => tracks_submit e.authority grant

theorem tracks_answerFailure (f : Failure) :
    Tracks (answerFailure f : Action (σ × List Call) Response) (answerFailure f) := by
  have hreport : Tracks (f.report : Action (σ × List Call) ProtocolError) f.report := by
    unfold Failure.report
    cases f.refusal? with
    | some r => exact Action.tracks_lift _
    | none =>
        exact (Action.tracks_lift f.tell).bind fun _ =>
          (Action.tracks_log _ _).bind fun _ => fun _ => ⟨rfl, rfl⟩
  exact hreport.bind fun error =>
    (Action.tracks_log _ _).bind fun _ => Action.tracks_lift (errorResponse error)

theorem tracks_answerToken (client : ClientIdentity) (token : AccessToken) :
    Tracks (answerToken client token : Action (σ × List Call) Response) (answerToken client token) :=
  (Action.tracks_log _ _).bind fun _ => Action.tracks_lift (tokenResponse token)

theorem tracks_handle (e : Endpoint σ) (r : Request) : Tracks (e.recorded.handle r) (e.handle r) := by
  unfold handle
  refine (tracks_process e r).attempt.bind fun out => ?_
  cases out with
  | ok issued => exact tracks_answerToken issued.1 issued.2
  | error f =>
      dsimp only
      split
      · exact (Action.tracks_log _ _).bind fun _ => fun _ => ⟨rfl, rfl⟩
      · exact tracks_answerFailure f

/-- Recording the calls changes nothing else. -/
theorem recorded_around (e : Endpoint σ) (next : Request → Action σ Response) (r : Request) :
    Tracks (e.recorded.around (fun r => (next r).unrecorded) r) (e.around next r) := by
  unfold around
  have haccepts : e.recorded.accepts r = e.accepts r := rfl
  rw [haccepts]
  split
  · exact tracks_handle e r
  · exact Action.tracks_unrecorded (next r)

end Endpoint
end OAuthGrant

import OAuthGrant.Dispatch

/-!
# Actions that ignore the stores

An action ignores the stores of a service if another state changes nothing: it has the same outcome, and
what it leaves behind differs in the other state only. So it neither reads the stores nor changes them.
Everything that uses the clock, the source of random values and the journal only is such an action, a grant
of scopes to a client among them.
-/

namespace OAuthGrant

variable {σ α β : Type}

namespace Action

/-- An action for which it makes no difference what is in the stores. -/
def IgnoresState (a : Action σ α) : Prop :=
  ∀ (s : Service σ) (state : σ),
    a.perform (s.withState state) = ((a.perform s).1, (a.perform s).2.withState state)

theorem IgnoresState.state_eq {a : Action σ α} (h : a.IgnoresState) (s : Service σ) :
    (a.perform s).2.state = s.state := by
  have hsame := h s s.state
  rw [Service.withState_state] at hsame
  rw [hsame, Service.state_withState]

theorem ignoresState_pure (x : α) : IgnoresState (pure x : Action σ α) := fun _ _ => rfl

theorem ignoresState_throw (f : Failure) : IgnoresState (throw f : Action σ α) := fun _ _ => rfl

theorem ignoresState_lift (x : Except Failure α) : IgnoresState (liftM x : Action σ α) := fun _ _ => rfl

theorem ignoresState_now : IgnoresState (now : Action σ Int) := fun _ _ => rfl

theorem ignoresState_draw (size : Nat) : IgnoresState (draw size : Action σ String) := fun _ _ => rfl

theorem ignoresState_log (component : Log.Component) (message : Int → Log.Message) :
    IgnoresState (log component message : Action σ Unit) := fun _ _ => rfl

theorem IgnoresState.bind {a : Action σ α} {f : α → Action σ β} (ha : a.IgnoresState)
    (hf : ∀ x, (f x).IgnoresState) : IgnoresState (a >>= f) := by
  intro s state
  rw [perform_bind, perform_bind, ha s state]
  rcases a.perform s with ⟨out, t⟩
  cases out with
  | ok x => exact hf x t state
  | error f => rfl

end Action

namespace InMemoryAuthority
open OAuthGrant.Action (IgnoresState)

theorem ignoresState_reject (client : ClientIdentity) (code : ErrorCode) (description : String) :
    IgnoresState (reject client code description : Action σ α) :=
  (Action.ignoresState_log _ _).bind fun _ => Action.ignoresState_throw _

theorem ignoresState_requireGrant (client : ClientIdentity) (grant : GrantType) :
    IgnoresState (requireGrant client grant : Action σ Unit) := by
  unfold requireGrant
  split
  · exact Action.ignoresState_pure ()
  · exact ignoresState_reject _ _ _

theorem ignoresState_issue (a : InMemoryAuthority) (client : ClientIdentity) (scopes : ScopeSet) :
    IgnoresState (a.issue client scopes : Action σ AccessToken) := by
  refine Action.ignoresState_now.bind fun now => (Action.ignoresState_draw _).bind fun value => ?_
  cases (Time.Timestamp.utc now).later? a.lifetime with
  | none => exact Action.ignoresState_throw _
  | some expiresAt =>
      exact (Action.ignoresState_lift _).bind fun token =>
        (Action.ignoresState_log _ _).bind fun _ => Action.ignoresState_pure token

theorem ignoresState_grantScopes (a : InMemoryAuthority) (grant : CredentialsGrant) :
    IgnoresState (a.grantScopes grant : Action σ AccessToken) := by
  refine (ignoresState_requireGrant _ _).bind fun _ => ?_
  dsimp only
  split
  · exact a.ignoresState_issue _ _
  · exact ignoresState_reject _ _ _

/-- A request in a client's own name is settled without the store of codes. -/
theorem ignoresState_submit (a : InMemoryAuthority) (grant : CredentialsGrant) :
    IgnoresState (submit a.toAuthority (.clientCredentials grant)) := by
  refine (Action.ignoresState_log _ _).bind fun _ => ?_
  refine ((a.ignoresState_grantScopes grant).bind fun token => Action.ignoresState_pure _).bind ?_
  exact fun reply => Action.ignoresState_lift reply.token?

end InMemoryAuthority
end OAuthGrant

import OAuthGrant.Log.Journal

/-!
# A running service

A service has a clock, a source of random values, a journal, and the state of its stores. What it does
is an `Action`: it changes the service and then has a result or fails; what had been changed before a
failure stays changed. The source is a function of the size of a value and of the number of values
drawn before, so that a run is determined by its start.
-/

namespace OAuthGrant
open Log (Component Journal Message)

/-- A running service. The clock shows universal time in microseconds from the start of year 1. -/
structure Service (σ : Type) where
  now : Int
  random : Nat → Nat → String
  drawn : Nat := 0
  journal : Journal := {}
  state : σ

namespace Service

variable {σ τ : Type}

/-- The service with another state. -/
def withState (s : Service σ) (state : τ) : Service τ :=
  ⟨s.now, s.random, s.drawn, s.journal, state⟩

@[simp] theorem state_withState (s : Service σ) (t : τ) : (s.withState t).state = t := rfl

@[simp] theorem withState_state (s : Service σ) : s.withState s.state = s := rfl

@[simp] theorem withState_withState (s : Service σ) (t : τ) (u : σ) :
    (s.withState t).withState u = s.withState u := rfl

end Service

/-- What a service does. -/
abbrev Action (σ α : Type) : Type := ExceptT Failure (StateM (Service σ)) α

namespace Action

variable {σ τ α β : Type}

def perform (a : Action σ α) (s : Service σ) : Except Failure α × Service σ := a.run.run s

/-- Goes on after the first part of an action, unless that has failed. -/
def andThen (f : α → Action σ β) : Except Failure α × Service σ → Except Failure β × Service σ
  | (.ok a, s) => (f a).perform s
  | (.error e, s) => (.error e, s)

@[simp] theorem andThen_ok (f : α → Action σ β) (a : α) (s : Service σ) :
    andThen f (.ok a, s) = (f a).perform s := rfl

@[simp] theorem andThen_error (f : α → Action σ β) (e : Failure) (s : Service σ) :
    andThen f (.error e, s) = (.error e, s) := rfl

@[simp] theorem perform_pure (a : α) (s : Service σ) :
    (pure a : Action σ α).perform s = (.ok a, s) := rfl

@[simp] theorem perform_throw (e : Failure) (s : Service σ) :
    (throw e : Action σ α).perform s = (.error e, s) := rfl

@[simp] theorem perform_bind (a : Action σ α) (f : α → Action σ β) (s : Service σ) :
    (a >>= f).perform s = andThen f (a.perform s) := by
  simp only [perform, bind, ExceptT.bind, ExceptT.mk, ExceptT.run, StateT.bind, StateT.run]
  rcases a s with ⟨r, s'⟩
  cases r <;> rfl

@[simp] theorem perform_map (f : α → β) (a : Action σ α) (s : Service σ) :
    (f <$> a).perform s = ((a.perform s).1.map f, (a.perform s).2) := by
  simp only [perform, Functor.map, ExceptT.map, ExceptT.mk, ExceptT.run, bind, pure,
    StateT.bind, StateT.run]
  rcases a s with ⟨r, s'⟩
  cases r <;> rfl

@[simp] theorem perform_ite (p : Prop) [Decidable p] (a b : Action σ α) (s : Service σ) :
    (if p then a else b).perform s = if p then a.perform s else b.perform s := by
  split <;> rfl

@[simp] theorem perform_lift (r : Except Failure α) (s : Service σ) :
    (liftM r : Action σ α).perform s = (r, s) := rfl

def now : Action σ Int := fun s => (.ok s.now, s)

def state : Action σ σ := fun s => (.ok s.state, s)

@[simp] theorem perform_now (s : Service σ) : now.perform s = (.ok s.now, s) := rfl

@[simp] theorem perform_state (s : Service σ) : state.perform s = (.ok s.state, s) := rfl

def setState (state : σ) : Action σ Unit := fun s => (.ok (), { s with state })

@[simp] theorem perform_setState (t : σ) (s : Service σ) :
    (setState t).perform s = (.ok (), { s with state := t }) := rfl

/-- Draws a random value made from `size` random bytes. -/
def draw (size : Nat) : Action σ String := fun s =>
  (.ok (s.random size (s.drawn + 1)), { s with drawn := s.drawn + 1 })

@[simp] theorem perform_draw (size : Nat) (s : Service σ) :
    (draw size).perform s =
      (.ok (s.random size (s.drawn + 1)), { s with drawn := s.drawn + 1 }) := rfl

def log (component : Component) (message : Int → Message) : Action σ Unit := fun s =>
  (.ok (), { s with journal := s.journal.write component (message s.now) })

@[simp] theorem perform_log (component : Component) (message : Int → Message) (s : Service σ) :
    (log component message).perform s =
      (.ok (), { s with journal := s.journal.write component (message s.now) }) := rfl

def configureJournal (level : Value) : Action σ Unit := fun s =>
  match s.journal.configure level with
  | .ok journal => (.ok (), { s with journal })
  | .error f => (.error f, s)

def startJournal : Action σ Unit := fun s => (.ok (), { s with journal := s.journal.start })

/-- Moves the clock, forward or backward. -/
def advance (micros : Int) : Action σ Unit := fun s =>
  if Time.Timestamp.inRange (s.now + micros) then (.ok (), { s with now := s.now + micros })
  else (.error .dateOutOfRange, s)

/-- The result of an action or its failure. -/
def attempt (a : Action σ α) : Action σ (Except Failure α) := fun s =>
  match a.perform s with
  | (r, s') => (.ok r, s')

@[simp] theorem perform_attempt (a : Action σ α) (s : Service σ) :
    a.attempt.perform s = (.ok (a.perform s).1, (a.perform s).2) := rfl

/-- An action on a part of the state. -/
def onPart (part : τ → σ) (replace : σ → τ → τ) (a : Action σ α) : Action τ α := fun s =>
  match a.perform (s.withState (part s.state)) with
  | (r, s') => (r, s'.withState (replace s'.state s.state))

@[simp] theorem perform_onPart (part : τ → σ) (replace : σ → τ → τ) (a : Action σ α)
    (s : Service τ) :
    (a.onPart part replace).perform s =
      ((a.perform (s.withState (part s.state))).1,
        (a.perform (s.withState (part s.state))).2.withState
          (replace (a.perform (s.withState (part s.state))).2.state s.state)) := rfl

end Action
end OAuthGrant

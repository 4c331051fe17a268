import OAuthGrant.Service

/-!
# Two actions side by side

Two runs are compared action by action. Their outcomes go together if both are results that are related,
or both are the same failure. `Action.Alike` says that two actions keep a relation between the services
they are performed on and have outcomes that go together; actions that are put together of such pairs are
such a pair again.
-/

namespace OAuthGrant

variable {σ τ α β γ δ : Type}

/-- Two outcomes that go together. -/
inductive SameOutcome (R : α → β → Prop) : Except Failure α → Except Failure β → Prop
  | ok {a : α} {b : β} (related : R a b) : SameOutcome R (.ok a) (.ok b)
  | error (f : Failure) : SameOutcome R (.error f) (.error f)

namespace SameOutcome

variable {R : α → β → Prop} {S : γ → δ → Prop}

theorem map {x : Except Failure α} {y : Except Failure β} {f : α → γ} {g : β → δ}
    (h : SameOutcome R x y) (next : ∀ a b, R a b → S (f a) (g b)) :
    SameOutcome S (x.map f) (y.map g) := by
  cases h with
  | ok related => exact .ok (next _ _ related)
  | error f => exact .error f

theorem mono {R' : α → β → Prop} {x : Except Failure α} {y : Except Failure β}
    (h : SameOutcome R x y) (next : ∀ a b, R a b → R' a b) : SameOutcome R' x y := by
  cases h with
  | ok related => exact .ok (next _ _ related)
  | error f => exact .error f

/-- An outcome goes together with itself. -/
theorem same (x : Except Failure α) : SameOutcome Eq x x := by
  cases x with
  | ok a => exact .ok rfl
  | error f => exact .error f

end SameOutcome

namespace Action

variable {S : Service σ → Service τ → Prop} {R : α → β → Prop} {Q : γ → δ → Prop}

/-- Two actions that keep a relation between services and whose outcomes go together. -/
def Alike (S : Service σ → Service τ → Prop) (R : α → β → Prop) (a : Action σ α) (b : Action τ β) :
    Prop :=
  ∀ s t, S s t → SameOutcome R (a.perform s).1 (b.perform t).1 ∧ S (a.perform s).2 (b.perform t).2

theorem alike_pure {a : α} {b : β} (h : R a b) :
    Alike S R (pure a : Action σ α) (pure b : Action τ β) :=
  fun _ _ hs => ⟨.ok h, hs⟩

theorem alike_throw (f : Failure) : Alike S R (throw f : Action σ α) (throw f : Action τ β) :=
  fun _ _ hs => ⟨.error f, hs⟩

theorem alike_lift {x : Except Failure α} {y : Except Failure β} (h : SameOutcome R x y) :
    Alike S R (liftM x : Action σ α) (liftM y : Action τ β) :=
  fun _ _ hs => ⟨h, hs⟩

theorem Alike.bind {a : Action σ α} {b : Action τ β} {f : α → Action σ γ} {g : β → Action τ δ}
    (h : Alike S R a b) (next : ∀ x y, R x y → Alike S Q (f x) (g y)) :
    Alike S Q (a >>= f) (b >>= g) := by
  intro s t hs
  obtain ⟨houtcome, hservices⟩ := h s t hs
  rw [perform_bind, perform_bind]
  rcases ha : a.perform s with ⟨x, s'⟩
  rcases hb : b.perform t with ⟨y, t'⟩
  rw [ha, hb] at houtcome hservices
  cases houtcome with
  | ok related => exact next _ _ related s' t' hservices
  | error f => exact ⟨.error f, hservices⟩

theorem Alike.attempt {a : Action σ α} {b : Action τ β} (h : Alike S R a b) :
    Alike S (SameOutcome R) a.attempt b.attempt := by
  intro s t hs
  obtain ⟨houtcome, hservices⟩ := h s t hs
  rw [perform_attempt, perform_attempt]
  exact ⟨.ok houtcome, hservices⟩

/-- Two actions that keep a relation between services, whatever their outcomes are. -/
def Keeps (S : Service σ → Service τ → Prop) (a : Action σ α) (b : Action τ β) : Prop :=
  ∀ s t, S s t → S (a.perform s).2 (b.perform t).2

theorem Alike.keeps {a : Action σ α} {b : Action τ β} (h : Alike S R a b) : Keeps S a b :=
  fun s t hs => (h s t hs).2

theorem keeps_lift (x : Except Failure α) (y : Except Failure β) :
    Keeps S (liftM x : Action σ α) (liftM y : Action τ β) :=
  fun _ _ hs => hs

theorem Alike.bind_keeps {a : Action σ α} {b : Action τ β} {f : α → Action σ γ} {g : β → Action τ δ}
    (h : Alike S R a b) (next : ∀ x y, R x y → Keeps S (f x) (g y)) : Keeps S (a >>= f) (b >>= g) := by
  intro s t hs
  obtain ⟨houtcome, hservices⟩ := h s t hs
  rw [perform_bind, perform_bind]
  rcases ha : a.perform s with ⟨x, s'⟩
  rcases hb : b.perform t with ⟨y, t'⟩
  rw [ha, hb] at houtcome hservices
  cases houtcome with
  | ok related => exact next _ _ related s' t' hservices
  | error f => exact hservices

end Action
end OAuthGrant

import OAuthGrant.App
import OAuthGrant.Proofs.EndpointCourse
import OAuthGrant.Proofs.StoreSteps

/-!
# Runs of an application

An application receives requests one after the other; in between codes are issued from its store and the
clock moves. An exchange is a request with its answer, the calls that were made for it, and the service
before and after it. What is known of every single exchange is known of all exchanges of a run.
-/

namespace OAuthGrant
open Http (Request Response)

variable {σ τ α β : Type}

/-- An action that has come to a result has done so in both of its parts. -/
theorem Action.perform_bind_eq_ok {a : Action σ α} {f : α → Action σ β} {s t : Service σ} {y : β}
    (h : (a >>= f).perform s = (.ok y, t)) :
    ∃ x u, a.perform s = (.ok x, u) ∧ (f x).perform u = (.ok y, t) := by
  rw [perform_bind] at h
  rcases ha : a.perform s with ⟨out, u⟩
  rw [ha] at h
  cases out with
  | error f => cases h
  | ok x => exact ⟨x, u, rfl, h⟩

/-- The second service has another journal, and is the same besides. -/
def Service.SameBesidesJournal (s t : Service σ) : Prop := ∃ journal, t = { s with journal }

namespace Service.SameBesidesJournal

variable {s t u : Service σ}

theorem refl (s : Service σ) : s.SameBesidesJournal s := ⟨s.journal, rfl⟩

theorem symm (h : s.SameBesidesJournal t) : t.SameBesidesJournal s := by
  obtain ⟨journal, rfl⟩ := h
  exact ⟨s.journal, rfl⟩

theorem trans (h : s.SameBesidesJournal t) (h' : t.SameBesidesJournal u) : s.SameBesidesJournal u := by
  obtain ⟨journal, rfl⟩ := h
  obtain ⟨journal', rfl⟩ := h'
  exact ⟨journal', rfl⟩

theorem state_eq (h : s.SameBesidesJournal t) : t.state = s.state := by
  obtain ⟨journal, rfl⟩ := h
  rfl

end Service.SameBesidesJournal

theorem CodeStore.sameBesidesJournal_issue (clientId scopes redirectUri : Value) {s t : Service CodeStore}
    (h : s.SameBesidesJournal t) :
    ((issue clientId scopes redirectUri).perform s).2.SameBesidesJournal
      ((issue clientId scopes redirectUri).perform t).2 := by
  obtain ⟨journal, rfl⟩ := h
  obtain ⟨_, hs⟩ := perform_issue clientId scopes redirectUri s
  obtain ⟨_, ht⟩ := perform_issue clientId scopes redirectUri { s with journal }
  have hcode : nextCode { s with journal } = nextCode s := rfl
  rw [hs, ht, hcode]
  dsimp only
  cases CodeRecord.new s.state.lifetime s.now (nextCode s) clientId scopes redirectUri with
  | error f => exact ⟨_, rfl⟩
  | ok r => exact ⟨_, rfl⟩

/-- That a request is posted to the path of the token endpoint. -/
def Settings.IsTokenPost (settings : Settings) (r : Request) : Prop :=
  r.method = "POST" ∧ r.addressPath = settings.tokenEndpointUri

namespace App

variable {app : App τ} {settings : Settings} {s t : Service (CodeStore × τ)}

/-- That an application is the one that settings describe, without a resolver that was brought in. -/
structure IsOwn (app : App τ) (settings : Settings) : Prop where
  path : app.endpoint.path = some settings.tokenEndpointUri
  hosted : app.endpoint.hosted = true
  identify : ∃ registry, app.endpoint.identify = ownResolver settings registry

theorem isOwn_of_create {authority : Option (Authority (CodeStore × τ))} {start opened : Service τ}
    {store : CodeStore} (h : (create settings authority none).perform start = (.ok (app, store), opened)) :
    app.IsOwn settings := by
  unfold create at h
  obtain ⟨_, _, -, h⟩ := Action.perform_bind_eq_ok h
  obtain ⟨registry, _, -, h⟩ := Action.perform_bind_eq_ok h
  obtain ⟨_, _, -, h⟩ := Action.perform_bind_eq_ok h
  cases authority with
  | none =>
      obtain ⟨_, _, -, h⟩ := Action.perform_bind_eq_ok h
      cases h
      exact ⟨rfl, rfl, registry, rfl⟩
  | some authority =>
      obtain ⟨_, _, -, h⟩ := Action.perform_bind_eq_ok h
      cases h
      exact ⟨rfl, rfl, registry, rfl⟩

theorem IsOwn.accepts_iff (h : app.IsOwn settings) {r : Request} :
    app.endpoint.accepts r = true ↔ settings.IsTokenPost r := by
  rw [Settings.IsTokenPost, Endpoint.accepts, h.path, Bool.and_eq_true, beq_iff_eq, beq_iff_eq,
    Option.some.injEq, eq_comm (a := settings.tokenEndpointUri)]

inductive Step where
  | request (r : Request)
  | issue (clientId scopes redirectUri : Value)
  | advance (micros : Int)

def Step.request? : Step → Option Request
  | request r => some r
  | _ => none

def next (app : App τ) : Step → Service (CodeStore × τ) → Service (CodeStore × τ)
  | .request r, s => ((app.respond r).perform s).2
  | .issue clientId scopes redirectUri, s =>
      (((CodeStore.issue clientId scopes redirectUri).onPart Prod.fst fun store state =>
        (store, state.2)).perform s).2
  | .advance micros, s => ((Action.advance micros).perform s).2

def after (app : App τ) : List Step → Service (CodeStore × τ) → Service (CodeStore × τ)
  | [], s => s
  | step :: rest, s => app.after rest (app.next step s)

/-- A request with its answer, the calls that were made for it, and the service before and after it. -/
structure Exchange (τ : Type) where
  request : Request
  before : Service (CodeStore × τ)
  calls : List Call
  answer : Except Failure Response
  after : Service (CodeStore × τ)

def exchange (app : App τ) (r : Request) (s : Service (CodeStore × τ)) : Exchange τ where
  request := r
  before := s
  calls := app.endpoint.calls (fun r => pure (Site.respond app.settings r)) r s
  answer := ((app.respond r).perform s).1
  after := ((app.respond r).perform s).2

def exchanges (app : App τ) : List Step → Service (CodeStore × τ) → List (Exchange τ)
  | [], _ => []
  | step :: rest, s =>
      (step.request?.map fun r => app.exchange r s).toList ++ app.exchanges rest (app.next step s)

theorem exists_of_mem_exchanges {steps : List Step} {x : Exchange τ} (h : x ∈ app.exchanges steps s) :
    ∃ r t, .request r ∈ steps ∧ x = app.exchange r t := by
  induction steps generalizing s with
  | nil => cases h
  | cons step rest ih =>
      rw [exchanges, List.mem_append, Option.mem_toList, Option.map_eq_some_iff] at h
      rcases h with ⟨r, hr, rfl⟩ | h
      · cases step with
        | request r' =>
            cases hr
            exact ⟨r, s, List.mem_cons_self, rfl⟩
        | issue => cases hr
        | advance => cases hr
      · obtain ⟨r, t, hmem, hx⟩ := ih h
        exact ⟨r, t, List.mem_cons_of_mem _ hmem, hx⟩

/-- What an application does with a request is what its endpoint does, with more headers. -/
theorem perform_respond (app : App τ) (r : Request) (s : Service (CodeStore × τ)) :
    (app.respond r).perform s =
      (((app.endpoint.around (fun r => pure (Site.respond app.settings r)) r).perform s).1.map secured,
        ((app.endpoint.around (fun r => pure (Site.respond app.settings r)) r).perform s).2) := by
  rw [respond, Action.perform_bind]
  generalize (app.endpoint.around _ r).perform s = result
  obtain ⟨out, t⟩ := result
  cases out <;> rfl

theorem sameBesidesJournal_next {step : Step} (hstep : step.request? = none)
    (h : s.SameBesidesJournal t) : (app.next step s).SameBesidesJournal (app.next step t) := by
  cases step with
  | request r => cases hstep
  | advance micros =>
      obtain ⟨journal, rfl⟩ := h
      rw [next, next, Action.perform_advance, Action.perform_advance]
      split
      · exact ⟨journal, rfl⟩
      · exact ⟨journal, rfl⟩
  | issue clientId scopes redirectUri =>
      obtain ⟨journal, rfl⟩ := h
      obtain ⟨journal', hissued⟩ := CodeStore.sameBesidesJournal_issue clientId scopes redirectUri
        (s := s.withState s.state.1) ⟨journal, rfl⟩
      have hpart : ({ s with journal } : Service (CodeStore × τ)).withState s.state.1 =
          { s.withState s.state.1 with journal } := rfl
      rw [next, next, Action.perform_onPart, Action.perform_onPart, hpart, hissued]
      exact ⟨journal', rfl⟩

end App
end OAuthGrant

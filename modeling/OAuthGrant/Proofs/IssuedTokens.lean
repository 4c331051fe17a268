import OAuthGrant.Proofs.StoreSteps

/-!
# Tokens that can be issued

An authority makes a token of a value, the instant of its issue and its lifetime. Whether the lifetime
fits is settled by the instant alone: it has to be positive and its end has to have a date. If it fits,
there is a token for every value that is not empty and for any scopes, which says what it was made of;
otherwise there is none for any value.
-/

namespace OAuthGrant
open Time (Timestamp)

/-- That a token is one for some scopes, with a value, the instant of its issue and its lifetime. -/
structure AccessToken.IsIssued (t : AccessToken) (value : String) (now lifetime : Int)
    (scopes : ScopeSet) : Prop where
  tokenType : t.tokenType = .bearer
  value : t.value = value
  issuedAt : t.issuedAt = Timestamp.utc now
  expiresAt : t.expiresAt = Timestamp.utc (now + lifetime)
  scopes : t.scopes = scopes
  extensions : t.extensions = []

namespace InMemoryAuthority

variable {σ : Type} {a : InMemoryAuthority} {s : Service σ} {now : Int} {value : String}

/-- That the lifetime of a token fits at an instant: it is positive and has an end. -/
structure Fits (a : InMemoryAuthority) (now : Int) : Prop where
  positive : 0 < a.lifetime
  dated : Timestamp.inRange (now + a.lifetime) = true

theorem later?_utc (now d : Int) : (Timestamp.utc now).later? d =
    if Timestamp.inRange (now + d) then some (Timestamp.utc (now + d)) else none := rfl

/-- The end of a lifetime comes after its start exactly if the lifetime is positive. -/
theorem instant_lt_iff : (Timestamp.utc now).instant < (Timestamp.utc (now + a.lifetime)).instant ↔
    0 < a.lifetime := by
  rw [Timestamp.instant_utc, Timestamp.instant_utc]
  omega

theorem Fits.tokenOf_eq_ok (h : a.Fits now) (hvalue : value ≠ "") (scopes : ScopeSet) :
    ∃ t, a.tokenOf now value scopes = .ok t ∧ t.IsIssued value now a.lifetime scopes := by
  rw [tokenOf, later?_utc, if_pos h.dated]
  dsimp only
  rw [AccessToken.bearer?, dif_neg hvalue, AccessToken.check,
    dif_pos (Timestamp.comparable_utc _ _), dif_pos (instant_lt_iff.mpr h.positive)]
  exact ⟨_, rfl, rfl, rfl, rfl, rfl, rfl, rfl⟩

/-- If the lifetime does not fit, there is no token, and the failure is the same for all values. -/
theorem tokenOf_eq_error (h : ¬ a.Fits now) (scopes : ScopeSet) :
    ∃ f, ∀ value, value ≠ "" → a.tokenOf now value scopes = .error f := by
  by_cases hdated : Timestamp.inRange (now + a.lifetime) = true
  · have hnot : ¬ (Timestamp.utc now).instant < (Timestamp.utc (now + a.lifetime)).instant :=
      fun hlt => h ⟨instant_lt_iff.mp hlt, hdated⟩
    refine ⟨.invalid [⟨[], .rule AccessToken.lifetimeRuleText⟩], fun value hvalue => ?_⟩
    rw [tokenOf, later?_utc, if_pos hdated]
    dsimp only
    rw [AccessToken.bearer?, dif_neg hvalue, AccessToken.check,
      dif_pos (Timestamp.comparable_utc _ _), dif_neg hnot]
  · refine ⟨.dateOutOfRange, fun value _ => ?_⟩
    rw [tokenOf, later?_utc, if_neg hdated]

def nextToken (s : Service σ) : String := s.random tokenBytes (s.drawn + 1)

/-- That an authority can issue a token: the lifetime fits, and the value that is drawn next is not
empty. -/
structure CanIssue (a : InMemoryAuthority) (s : Service σ) : Prop where
  fits : a.Fits s.now
  drawn : nextToken s ≠ ""

theorem CanIssue.tokenOf_eq_ok (h : a.CanIssue s) (scopes : ScopeSet) :
    ∃ t, a.tokenOf s.now (nextToken s) scopes = .ok t ∧
      t.IsIssued (nextToken s) s.now a.lifetime scopes :=
  h.fits.tokenOf_eq_ok h.drawn scopes

end InMemoryAuthority
end OAuthGrant

import Mathlib.Data.Nat.Digits.Defs
import OAuthGrant.AccessToken
import OAuthGrant.Proofs.NearestBinary

/-!
# Lifetimes in whole seconds

The lifetime of a token is rounded to a binary number of seconds before its fraction is dropped. Numbers of
that format are the farther apart the larger they are, so that from about 544 years on a lifetime a little
short of a whole second is rounded up to it. `AccessToken.RoundsUp` says for which lifetimes this happens;
all others lose their fraction and nothing else.
-/

namespace OAuthGrant
open Decimal (Binary64)
open Time (Timestamp)
open Decimal.Binary64 (IsNearest IsRounded valueOf)

/-- That a timestamp is a date: of the years 1 to 9999, and on a clock that is less than a day ahead of or
behind universal time. -/
structure Time.Timestamp.IsDate (t : Timestamp) : Prop where
  dated : inRange t.wall = true
  near : ∀ offset ∈ t.offset, -(perDay : Int) < offset ∧ offset < perDay

theorem Time.Timestamp.IsDate.instant_bounds {t : Timestamp} (h : t.IsDate) :
    -(perDay : Int) < t.instant ∧ t.instant < ((dayCount + 1) * perDay : Nat) := by
  have hdated := h.dated
  simp only [inRange, Bool.and_eq_true, decide_eq_true_eq] at hdated
  have hoffset : -(perDay : Int) < t.offset.getD 0 ∧ t.offset.getD 0 < perDay := by
    cases hoffset : t.offset with
    | none => decide
    | some offset => exact h.near offset hoffset
  unfold instant
  rw [Nat.succ_mul]
  push_cast at hdated ⊢
  omega

theorem Decimal.Numeral.isWritable_of_lt {n k : Nat} (h : n < 10 ^ k) (hk : 0 < k) (hle : k ≤ maxDigits) :
    isWritable n = true :=
  decide_eq_true ((Nat.toDigits_length 10 n k hk h).trans hle)

namespace AccessToken

variable {t : AccessToken}

theorem isWritable_expiresIn (t : AccessToken) : Decimal.Numeral.isWritable t.expiresIn = true := by
  unfold expiresIn
  cases hfinite : t.lifetimeSeconds.isFinite with
  | true =>
      obtain ⟨k, hpos, hle, hlt⟩ := Binary64.wholePart_lt (Binary64.isNearest_ofRatio (by decide) hfinite)
      exact Decimal.Numeral.isWritable_of_lt hlt hpos (hle.trans (by decide))
  | false =>
      have hzero : t.lifetimeSeconds.wholePart = 0 := by
        cases hx : t.lifetimeSeconds with
        | finite negative m e => rw [hx] at hfinite; cases hfinite
        | _ => rfl
      rw [hzero]
      decide

theorem lifetime_eq (t : AccessToken) : (t.lifetime : Int) = t.expiresAt.instant - t.issuedAt.instant :=
  Int.toNat_of_nonneg (Int.sub_nonneg.mpr t.expiresLater.le)

def seconds (t : AccessToken) : Nat := t.lifetime / Time.perSecond

/-- The microseconds after which the lifetime would have one more whole second. -/
def missing (t : AccessToken) : Nat := Time.perSecond - t.lifetime % Time.perSecond

/-- That less is missing to the next whole second than half of the distance between numbers of the format.
-/
def RoundsUp (t : AccessToken) : Prop :=
  t.missing * 2 ^ (53 - t.seconds.log2) < Time.perSecond

instance (t : AccessToken) : Decidable t.RoundsUp := inferInstanceAs (Decidable (_ < _))

/-- That the lifetime is told in whole seconds without the rest. -/
structure IsTruncated (t : AccessToken) : Prop where
  le : t.expiresIn * Time.perSecond ≤ t.expiresAt.instant - t.issuedAt.instant
  lt : t.expiresAt.instant - t.issuedAt.instant < (t.expiresIn + 1) * Time.perSecond

theorem isTruncated_iff : t.IsTruncated ↔ t.expiresIn = t.seconds := by
  have hlifetime := t.lifetime_eq
  have hparts := Nat.div_add_mod t.lifetime Time.perSecond
  have hrest := Nat.mod_lt t.lifetime (show 0 < Time.perSecond by decide)
  unfold seconds
  simp only [Time.perSecond] at hparts hrest ⊢
  constructor
  · rintro ⟨hle, hlt⟩
    simp only [Time.perSecond] at hle hlt
    omega
  · intro h
    constructor <;> simp only [Time.perSecond] <;> omega

theorem missing_pos (t : AccessToken) : 0 < t.missing :=
  Nat.sub_pos_of_lt (Nat.mod_lt _ (by decide))

theorem lifetime_add_missing (t : AccessToken) :
    t.lifetime + t.missing = (t.seconds + 1) * Time.perSecond := by
  have hparts := Nat.div_add_mod t.lifetime Time.perSecond
  have hrest := Nat.mod_lt t.lifetime (show 0 < Time.perSecond by decide)
  unfold missing seconds
  simp only [Time.perSecond] at hparts hrest ⊢
  omega

theorem seconds_lt (issued : t.issuedAt.IsDate) (expires : t.expiresAt.IsDate) : t.seconds < 2 ^ 39 := by
  have hlifetime := t.lifetime_eq
  have hissued := issued.instant_bounds
  have hexpires := expires.instant_bounds
  simp only [Time.dayCount, Time.perDay, Time.perSecond] at hissued hexpires
  unfold seconds
  rw [Nat.div_lt_iff_lt_mul (by decide)]
  simp only [Time.perSecond]
  omega

theorem log2_seconds_lt (issued : t.issuedAt.IsDate) (expires : t.expiresAt.IsDate) :
    t.seconds.log2 < 39 :=
  Decimal.log2_lt_of_lt (by decide) (seconds_lt issued expires)

/-- Nothing is rounded up that is shorter than about 544 years: the last microsecond of a second is more
than half of the distance there. -/
theorem RoundsUp.le_seconds (h : t.RoundsUp) : 2 ^ 34 ≤ t.seconds := by
  by_contra hshort
  have hlog := Decimal.log2_lt_of_lt (by decide) (not_le.mp hshort)
  have hmissing := t.missing_pos
  have hpow : 2 ^ 20 ≤ 2 ^ (53 - t.seconds.log2) := Nat.pow_le_pow_right two_pos (by omega)
  have hprod : 1 * 2 ^ 20 ≤ t.missing * 2 ^ (53 - t.seconds.log2) := Nat.mul_le_mul hmissing hpow
  unfold RoundsUp at h
  simp only [Time.perSecond] at h
  omega

/-- A second has no microsecond exactly half of the distance before its end. -/
theorem missing_mul_ne (h : t.seconds.log2 < 39) :
    t.missing * 2 ^ (53 - t.seconds.log2) ≠ Time.perSecond := by
  have hexp : 53 - t.seconds.log2 = 38 - t.seconds.log2 + 15 := by omega
  rw [hexp, Nat.pow_add, ← Nat.mul_assoc]
  simp only [Time.perSecond]
  omega

theorem perSecond_pos : (0 : ℚ) < Time.perSecond := by norm_num [Time.perSecond]

theorem missing_ratio (t : AccessToken) :
    (t.seconds : ℚ) + 1 - t.lifetime / Time.perSecond = t.missing / Time.perSecond := by
  have hsum : (t.lifetime : ℚ) + t.missing = (t.seconds + 1) * Time.perSecond := by
    exact_mod_cast t.lifetime_add_missing
  rw [sub_eq_iff_eq_add, ← add_div, eq_div_iff perSecond_pos.ne', add_comm (t.missing : ℚ)]
  exact hsum.symm

theorem seconds_le_ratio (t : AccessToken) : (t.seconds : ℚ) ≤ t.lifetime / Time.perSecond := by
  rw [le_div_iff₀ perSecond_pos]
  exact_mod_cast Nat.div_mul_le_self t.lifetime Time.perSecond

theorem ratio_lt_seconds (t : AccessToken) : (t.lifetime : ℚ) / Time.perSecond < t.seconds + 1 := by
  have hmissing : (0 : ℚ) < t.missing / Time.perSecond :=
    div_pos (by exact_mod_cast t.missing_pos) perSecond_pos
  linarith [t.missing_ratio]

theorem isNearest_lifetimeSeconds (issued : t.issuedAt.IsDate) (expires : t.expiresAt.IsDate) :
    IsNearest (t.lifetime / Time.perSecond) t.lifetimeSeconds := by
  apply Binary64.isNearest_ofRatio (by decide)
  apply Binary64.isFinite_ofRatio (by decide)
  have hseconds : (t.seconds : ℚ) + 1 ≤ 2 ^ 39 := by exact_mod_cast seconds_lt issued expires
  calc (t.lifetime : ℚ) / Time.perSecond < t.seconds + 1 := t.ratio_lt_seconds
    _ ≤ 2 ^ 39 := hseconds
    _ = 2 ^ (39 : ℤ) := (zpow_natCast 2 39).symm
    _ ≤ 2 ^ (1023 : ℤ) := zpow_le_zpow_right₀ one_le_two (by decide)

/-- A second is told too much exactly if the lifetime is rounded up to it. -/
theorem expiresIn_eq (issued : t.issuedAt.IsDate) (expires : t.expiresAt.IsDate) :
    t.expiresIn = if t.RoundsUp then t.seconds + 1 else t.seconds := by
  have hnearest := isNearest_lifetimeSeconds issued expires
  have hlog := log2_seconds_lt issued expires
  have hseconds := seconds_lt issued expires
  have hlow := t.seconds_le_ratio
  have hhigh := t.ratio_lt_seconds
  have hscaled : (t.seconds + 1 - t.lifetime / Time.perSecond : ℚ) * 2 ^ (53 - t.seconds.log2) =
      (t.missing * 2 ^ (53 - t.seconds.log2) : ℕ) / Time.perSecond := by
    rw [t.missing_ratio]
    push_cast
    ring
  unfold expiresIn
  generalize t.lifetimeSeconds = x at hnearest ⊢
  cases x with
  | nan => exact hnearest.elim
  | infinite negative => exact hnearest.elim
  | finite negative m e =>
      have hrounded : IsRounded (t.lifetime / Time.perSecond) negative m e := hnearest
      rw [hrounded.wholePart_eq hlow hhigh (by omega)]
      have hiff : valueOf negative m e = t.seconds + 1 ↔ t.RoundsUp := by
        constructor
        · intro hnext
          have hle := hrounded.le_of_next hhigh (by omega) hnext
          rw [hscaled, div_le_one perSecond_pos] at hle
          exact lt_of_le_of_ne (by exact_mod_cast hle) (missing_mul_ne hlog)
        · intro hup
          have hlong := hup.le_seconds
          refine hrounded.next_of_lt (by omega) hlow hhigh (by omega) ?_
          rw [hscaled, div_lt_one perSecond_pos]
          exact_mod_cast hup
      simp only [hiff]

/-- The lifetime in seconds is the nearest binary number, of which the whole part is told. This is the
lifetime without its fraction, unless the lifetime is rounded up: then it is more than 544 years, and one
second too much is told. -/
theorem expiresIn_truncated_iff (t : AccessToken) (issued : t.issuedAt.IsDate)
    (expires : t.expiresAt.IsDate) :
    IsNearest ((t.expiresAt.instant - t.issuedAt.instant : Int) / Time.perSecond) t.lifetimeSeconds ∧
    t.expiresIn = t.lifetimeSeconds.wholePart ∧
    (t.IsTruncated ↔ ¬ t.RoundsUp) ∧
    (t.RoundsUp → 2 ^ 34 ≤ t.seconds ∧ t.expiresIn = t.seconds + 1) := by
  have hexpires := expiresIn_eq issued expires
  refine ⟨?_, rfl, ?_, ?_⟩
  · rw [← t.lifetime_eq, Int.cast_natCast]
    exact isNearest_lifetimeSeconds issued expires
  · rw [isTruncated_iff, hexpires]
    split
    · next hup => simp [hup]
    · next hup => simp [hup]
  · intro hup
    rw [if_pos hup] at hexpires
    exact ⟨hup.le_seconds, hexpires⟩

theorem tokenValue_ne : "token-value" ≠ "" := by decide

/-- A token that is issued then and expires that many microseconds later, told by a clock that shows
universal time. -/
def lasting (issuedAt : Timestamp) (micros : Nat) (positive : 0 < micros) : AccessToken where
  tokenType := .bearer
  value := "token-value"
  issuedAt := issuedAt
  expiresAt := ⟨issuedAt.instant + micros, issuedAt.offset.map fun _ => 0⟩
  scopes := .empty
  extensions := []
  value_ne := tokenValue_ne
  comparable := by simp [Timestamp.comparable]
  expiresLater := by
    unfold Timestamp.instant
    cases issuedAt.offset <;> simp [positive]

/-- A token of `2 ^ 38` seconds, about 8710 years, and a fraction in microseconds. It is issued in the year 1
by a clock six hours behind universal time. -/
def lastingLongest (fraction : Nat) : AccessToken :=
  lasting ⟨18 * 3600 * Time.perSecond, some (-(6 * 3600 * Time.perSecond))⟩
    (2 ^ 38 * Time.perSecond + fraction) (Nat.add_pos_left (by decide) _)

/-- The last 30 microseconds of a second are rounded up there, and the one before them is not. -/
theorem expiresIn_lastingLongest :
    (lastingLongest 999969).IsTruncated ∧ (lastingLongest 999970).expiresIn = 2 ^ 38 + 1 := by
  have kept := expiresIn_truncated_iff (lastingLongest 999969)
    ⟨by decide, by decide⟩ ⟨by decide, by decide⟩
  have rounded := expiresIn_truncated_iff (lastingLongest 999970)
    ⟨by decide, by decide⟩ ⟨by decide, by decide⟩
  exact ⟨kept.2.2.1.mpr (by decide), (rounded.2.2.2 (by decide)).2⟩

/-- A lifetime one microsecond short of `2 ^ 34 + 1` seconds is told as `2 ^ 34 + 1` seconds. -/
theorem expiresIn_overstated :
    let t := lasting ⟨0, none⟩ (2 ^ 34 * Time.perSecond + 999999) (by decide)
    t.issuedAt.IsDate ∧ t.expiresAt.IsDate ∧ t.expiresIn = 2 ^ 34 + 1 ∧ ¬ t.IsTruncated := by
  intro t
  have told : t.expiresIn = 2 ^ 34 + 1 := by decide +kernel
  refine ⟨⟨by decide, by decide⟩, ⟨by decide, by decide⟩, told, ?_⟩
  intro truncated
  have le := truncated.le
  rw [told] at le
  revert le
  decide

end AccessToken
end OAuthGrant

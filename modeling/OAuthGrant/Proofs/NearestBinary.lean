import Mathlib.Algebra.Order.Field.Power
import Mathlib.Algebra.Order.Field.Rat
import Mathlib.Algebra.Order.Floor.Semifield
import Mathlib.Data.Rat.Floor
import Mathlib.Tactic.FieldSimp
import Mathlib.Tactic.Linarith
import Mathlib.Tactic.Positivity
import Mathlib.Tactic.Ring
import OAuthGrant.Decimal.Binary64

/-!
# The nearest binary number

What `Binary64.ofRatio` rounds to, said over the rationals: among all finite numbers of the format none is
nearer to the ratio, and where another one is as near the mantissa of the result is even. Everything that is
rounded can be compared with this alone, without a look at how the exponent and the mantissa are found.
-/

namespace OAuthGrant.Decimal

variable {num den : Nat}

theorem log2_lt_of_lt {n k : Nat} (hk : 0 < k) (h : n < 2 ^ k) : n.log2 < k := by
  by_cases hn : n = 0
  · subst hn
    simpa using hk
  · exact (Nat.log2_lt hn).mpr h

theorem ratio_eq_div_add_mod (hden : 0 < den) :
    (num : ℚ) / den = (num / den : ℕ) + (num % den : ℕ) / den := by
  have hpos : (0 : ℚ) < den := by exact_mod_cast hden
  have hnum : (num : ℚ) = den * (num / den : ℕ) + (num % den : ℕ) := by
    exact_mod_cast (Nat.div_add_mod num den).symm
  rw [hnum]
  field_simp

theorem roundDiv_cases (num den : Nat) :
    ((roundDiv num den = num / den ∧ 2 * (num % den) ≤ den) ∨
      (roundDiv num den = num / den + 1 ∧ den ≤ 2 * (num % den))) ∧
    (2 * (num % den) = den → roundDiv num den % 2 = 0) := by
  unfold roundDiv
  dsimp only
  split
  · omega
  · split <;> omega

theorem abs_roundDiv_sub_le (num : Nat) (hden : 0 < den) :
    |(roundDiv num den : ℚ) - num / den| ≤ 1 / 2 := by
  have hpos : (0 : ℚ) < den := by exact_mod_cast hden
  have hrest : ((num % den : ℕ) : ℚ) / den ≤ 1 := by
    rw [div_le_one hpos]
    exact_mod_cast (Nat.mod_lt num hden).le
  have hnonneg : (0 : ℚ) ≤ (num % den : ℕ) / den := by positivity
  rw [ratio_eq_div_add_mod hden, abs_le]
  rcases (roundDiv_cases num den).1 with ⟨hround, hhalf⟩ | ⟨hround, hhalf⟩
  · have hle : ((num % den : ℕ) : ℚ) / den ≤ 1 / 2 := by
      rw [div_le_div_iff₀ hpos two_pos]
      exact_mod_cast by omega
    rw [hround]
    constructor <;> linarith
  · have hle : (1 : ℚ) / 2 ≤ (num % den : ℕ) / den := by
      rw [div_le_div_iff₀ two_pos hpos]
      exact_mod_cast by omega
    rw [hround]
    push_cast
    constructor <;> linarith

theorem roundDiv_even_of_half (hden : 0 < den) (h : |(roundDiv num den : ℚ) - num / den| = 1 / 2) :
    roundDiv num den % 2 = 0 := by
  have hpos : (0 : ℚ) < den := by exact_mod_cast hden
  refine (roundDiv_cases num den).2 ?_
  have hhalf : ((num % den : ℕ) : ℚ) / den = 1 / 2 := by
    rw [ratio_eq_div_add_mod hden] at h
    rcases (roundDiv_cases num den).1 with ⟨hround, -⟩ | ⟨hround, -⟩
    · rw [hround] at h
      rcases abs_eq (by norm_num : (0 : ℚ) ≤ 1 / 2) |>.mp h with h | h <;>
        linarith [show (0 : ℚ) ≤ (num % den : ℕ) / den by positivity]
    · rw [hround] at h
      push_cast at h
      have hlt : ((num % den : ℕ) : ℚ) / den < 1 := by
        rw [div_lt_one hpos]
        exact_mod_cast Nat.mod_lt num hden
      rcases abs_eq (by norm_num : (0 : ℚ) ≤ 1 / 2) |>.mp h with h | h <;> linarith
  rw [div_eq_div_iff hpos.ne' two_ne_zero] at hhalf
  have hnat : num % den * 2 = 1 * den := by exact_mod_cast hhalf
  omega

/-- No integer is nearer to a quotient than the rounded one, which is even if another one is as near. -/
theorem roundDiv_nearest (num : Nat) (hden : 0 < den) (k : ℤ) :
    |(roundDiv num den : ℚ) - num / den| ≤ |(k : ℚ) - num / den| ∧
      (|(roundDiv num den : ℚ) - num / den| = |(k : ℚ) - num / den| →
        k = roundDiv num den ∨ roundDiv num den % 2 = 0) := by
  by_cases hk : k = roundDiv num den
  · subst hk
    simp
  · have hle := abs_roundDiv_sub_le num hden
    -- Two integers that differ are at least 1 apart, so that one of them is at least a half away.
    have hapart : (1 : ℚ) ≤ |(k : ℚ) - roundDiv num den| := by
      exact_mod_cast Int.one_le_abs (sub_ne_zero.mpr hk)
    have htriangle := abs_sub_le (k : ℚ) (num / den) (roundDiv num den)
    rw [abs_sub_comm (num / den : ℚ)] at htriangle
    refine ⟨by linarith, fun heq => .inr ?_⟩
    apply roundDiv_even_of_half hden
    linarith

theorem inUnits_pos (num : Nat) (hden : 0 < den) (e : Int) : 0 < (inUnits num den e).2 := by
  unfold inUnits
  split
  · exact Nat.mul_pos hden (Nat.pow_pos two_pos)
  · exact hden

theorem inUnits_ratio (num den : Nat) (e : Int) :
    ((inUnits num den e).1 : ℚ) / (inUnits num den e).2 = num / den / 2 ^ e := by
  unfold inUnits
  split
  · next h =>
      obtain ⟨n, rfl⟩ := Int.eq_ofNat_of_zero_le h
      simp only [Int.toNat_natCast, zpow_natCast, Nat.pow_eq]
      push_cast
      rw [div_div]
  · next h =>
      obtain ⟨n, rfl⟩ := Int.eq_negSucc_of_lt_zero (not_le.mp h)
      have hexp : (-Int.negSucc n).toNat = n + 1 := rfl
      simp only [hexp, Nat.pow_eq, zpow_negSucc]
      push_cast
      rw [div_inv_eq_mul, div_mul_eq_mul_div]

/-- The whole part of a quotient is below a whole number exactly if the quotient is. -/
theorem div_lt_iff_ratio_lt {a b : Nat} (hb : 0 < b) (k : Nat) : a / b < k ↔ (a : ℚ) / b < k := by
  have hpos : (0 : ℚ) < b := by exact_mod_cast hb
  rw [Nat.div_lt_iff_lt_mul hb, div_lt_iff₀ hpos]
  exact_mod_cast Iff.rfl

/-- That `2 ^ e` is the unit of the last bit of a number near `q`: the number has 53 bits, and fewer only
if the unit is the smallest one. -/
structure IsLastBit (q : ℚ) (e : Int) : Prop where
  lowest : -1074 ≤ e
  below : q < 2 ^ 53 * 2 ^ e
  above : e = -1074 ∨ 2 ^ 52 * 2 ^ e ≤ q

/-- The whole part of a number near `q` in units of the last bit has 53 bits, or the unit is the smallest. -/
theorem IsLastBit.bits {a b : Nat} {e : Int} (hb : 0 < b) (h : IsLastBit (a / b * 2 ^ e) e) :
    a / b < 2 ^ 53 ∧ (2 ^ 52 ≤ a / b ∨ e = -1074) := by
  have hunit : (0 : ℚ) < 2 ^ e := by positivity
  constructor
  · rw [div_lt_iff_ratio_lt hb]
    have hbelow := lt_of_mul_lt_mul_right h.below hunit.le
    exact_mod_cast hbelow
  · rcases h.above with he | habove
    · exact .inr he
    · rw [← not_lt, div_lt_iff_ratio_lt hb]
      have hle := le_of_mul_le_mul_right habove hunit
      push_cast
      exact .inl (not_lt.mpr hle)

/-- With the powers of two below two numbers their quotient is known up to a factor of two either way. -/
theorem log2_ratio (hnum : 0 < num) (hden : 0 < den) {e : Int}
    (he : e = (num.log2 : Int) - den.log2 - 52) :
    (2 : ℚ) ^ 51 * 2 ^ e < num / den ∧ (num : ℚ) / den < 2 ^ 53 * 2 ^ e := by
  have hpos : (0 : ℚ) < den := by exact_mod_cast hden
  have hnumLow : (2 : ℚ) ^ num.log2 ≤ num := by exact_mod_cast Nat.log2_self_le hnum.ne'
  have hnumHigh : (num : ℚ) < 2 ^ (num.log2 + 1) := by exact_mod_cast Nat.lt_log2_self
  have hdenLow : (2 : ℚ) ^ den.log2 ≤ den := by exact_mod_cast Nat.log2_self_le hden.ne'
  have hdenHigh : (den : ℚ) < 2 ^ (den.log2 + 1) := by exact_mod_cast Nat.lt_log2_self
  constructor
  · rw [lt_div_iff₀ hpos]
    calc (2 : ℚ) ^ 51 * 2 ^ e * den < 2 ^ 51 * 2 ^ e * 2 ^ (den.log2 + 1) := by
          apply mul_lt_mul_of_pos_left hdenHigh
          positivity
      _ = 2 ^ num.log2 := by
          rw [← zpow_natCast, ← zpow_natCast, ← zpow_natCast, ← zpow_add₀ two_ne_zero,
            ← zpow_add₀ two_ne_zero, he]
          congr 1
          push_cast
          ring
      _ ≤ num := hnumLow
  · rw [div_lt_iff₀ hpos]
    calc (num : ℚ) < 2 ^ (num.log2 + 1) := hnumHigh
      _ = 2 ^ 53 * 2 ^ e * 2 ^ den.log2 := by
          rw [← zpow_natCast, ← zpow_natCast, ← zpow_natCast, ← zpow_add₀ two_ne_zero,
            ← zpow_add₀ two_ne_zero, he]
          congr 1
          push_cast
          ring
      _ ≤ 2 ^ 53 * 2 ^ e * den := by
          apply mul_le_mul_of_nonneg_left hdenLow
          positivity

theorem isLastBit_unitExponent (hnum : 0 < num) (hden : 0 < den) :
    IsLastBit (num / den) (unitExponent num den) := by
  unfold unitExponent
  generalize he : Int.ofNat num.log2 - Int.ofNat den.log2 - 52 = e
  obtain ⟨hlow, hhigh⟩ := log2_ratio hnum hden he.symm
  have hunit : (0 : ℚ) < 2 ^ e := by positivity
  have hfloor : (inUnits num den e).1 / (inUnits num den e).2 < Nat.pow 2 52 ↔
      (num : ℚ) / den < 2 ^ 52 * 2 ^ e := by
    rw [div_lt_iff_ratio_lt (inUnits_pos num hden e), inUnits_ratio, div_lt_iff₀ hunit, Nat.pow_eq]
    push_cast
    exact Iff.rfl
  -- Before the smallest unit is taken into account the ratio has exactly 53 bits.
  have hbits : ∃ e₁ : Int,
      (if (inUnits num den e).1 / (inUnits num den e).2 < Nat.pow 2 52 then e - 1 else e) = e₁ ∧
        (num : ℚ) / den < 2 ^ 53 * 2 ^ e₁ ∧ 2 ^ 52 * 2 ^ e₁ ≤ (num : ℚ) / den := by
    split
    · next h =>
        have hhalf : (2 : ℚ) ^ e = 2 * 2 ^ (e - 1) := by
          rw [← zpow_one_add₀ two_ne_zero]
          congr 1
          ring
        rw [hhalf] at hlow
        rw [hfloor, hhalf] at h
        exact ⟨e - 1, rfl, by linarith, by linarith⟩
    · next h =>
        rw [hfloor, not_lt] at h
        exact ⟨e, rfl, hhigh, h⟩
  obtain ⟨e₁, heq, hbelow, habove⟩ := hbits
  dsimp only
  rw [heq]
  refine ⟨le_max_right _ _, lt_of_lt_of_le hbelow ?_, ?_⟩
  · apply mul_le_mul_of_nonneg_left _ (by positivity)
    exact zpow_le_zpow_right₀ one_le_two (le_max_left _ _)
  · rcases le_total e₁ (-1074) with hle | hle
    · exact .inl (max_eq_right hle)
    · rw [max_eq_left hle]
      exact .inr habove

namespace Binary64

/-- A mantissa and an exponent that the format has. -/
structure Holds (mantissa : Nat) (exponent : Int) : Prop where
  bits : mantissa < 2 ^ 53
  lowest : -1074 ≤ exponent
  highest : exponent ≤ 971

def valueOf (negative : Bool) (mantissa : Nat) (exponent : Int) : ℚ :=
  (if negative then -1 else 1) * (mantissa * 2 ^ exponent)

@[simp] theorem valueOf_false (m : Nat) (e : Int) : valueOf false m e = m * 2 ^ e := one_mul _

theorem abs_valueOf (negative : Bool) (m : Nat) (e : Int) : |valueOf negative m e| = m * 2 ^ e := by
  have hnonneg : (0 : ℚ) ≤ m * 2 ^ e := by positivity
  rw [valueOf, abs_mul, abs_of_nonneg hnonneg]
  cases negative <;> simp

/-- That a finite number is the nearest one of the format to a rational. It has as many bits as there can
be, so that its last bit tells which of two equally near numbers it is. -/
structure IsRounded (q : ℚ) (negative : Bool) (mantissa : Nat) (exponent : Int) : Prop where
  holds : Holds mantissa exponent
  full : 2 ^ 52 ≤ mantissa ∨ exponent = -1074
  nearest : ∀ negative' m e, Holds m e →
    |valueOf negative mantissa exponent - q| ≤ |valueOf negative' m e - q|
  even : ∀ negative' m e, Holds m e →
    |valueOf negative mantissa exponent - q| = |valueOf negative' m e - q| →
      valueOf negative' m e = valueOf negative mantissa exponent ∨ mantissa % 2 = 0

/-- That a number is finite and the nearest one of the format to a rational, the one with the even mantissa
if two are equally near. -/
def IsNearest (q : ℚ) : Binary64 → Prop
  | .finite negative mantissa exponent => IsRounded q negative mantissa exponent
  | _ => False

/-- A number of the format is a multiple of a unit, or its unit is smaller and so is the number. -/
theorem Holds.on_grid_or_below {m : Nat} {e' : Int} (h : Holds m e') (negative : Bool) (e : Int) :
    (∃ k : ℤ, valueOf negative m e' = k * 2 ^ e) ∨
      (e' < e ∧ |valueOf negative m e'| < 2 ^ 52 * 2 ^ e) := by
  rcases le_or_gt e e' with hle | hlt
  · obtain ⟨n, hn⟩ := Int.eq_ofNat_of_zero_le (Int.sub_nonneg.mpr hle)
    refine .inl ⟨(if negative then -1 else 1) * (m * 2 ^ n), ?_⟩
    have hexp : e' = n + e := by omega
    rw [valueOf, hexp, zpow_add₀ two_ne_zero, zpow_natCast]
    cases negative <;> push_cast <;> simp <;> ring
  · have hbits : (m : ℚ) < 2 ^ 53 := by exact_mod_cast h.bits
    refine .inr ⟨hlt, ?_⟩
    calc |valueOf negative m e'| = m * 2 ^ e' := abs_valueOf negative m e'
      _ < 2 ^ 53 * 2 ^ e' := mul_lt_mul_of_pos_right hbits (by positivity)
      _ ≤ 2 ^ 53 * 2 ^ (e - 1) := by
          apply mul_le_mul_of_nonneg_left _ (by positivity)
          exact zpow_le_zpow_right₀ one_le_two (by omega)
      _ = 2 ^ 52 * 2 ^ e := by
          rw [zpow_sub_one₀ two_ne_zero]
          ring

/-- What is rounded to a multiple of the unit of the last bit is the nearest number of the format, although
smaller numbers have smaller units. -/
theorem roundDiv_mul_nearest {a b : Nat} {e : Int} (hb : 0 < b) (hlast : IsLastBit (a / b * 2 ^ e) e)
    (negative : Bool) {m : Nat} {e' : Int} (h : Holds m e') :
    |(roundDiv a b : ℚ) * 2 ^ e - a / b * 2 ^ e| ≤ |valueOf negative m e' - a / b * 2 ^ e| ∧
      (|(roundDiv a b : ℚ) * 2 ^ e - a / b * 2 ^ e| = |valueOf negative m e' - a / b * 2 ^ e| →
        valueOf negative m e' = roundDiv a b * 2 ^ e ∨ roundDiv a b % 2 = 0) := by
  have hunit : (0 : ℚ) < 2 ^ e := by positivity
  have hscale : ∀ x : ℚ, |x * 2 ^ e - a / b * 2 ^ e| = |x - a / b| * 2 ^ e := by
    intro x
    rw [← sub_mul, abs_mul, abs_of_pos hunit]
  rcases h.on_grid_or_below negative e with ⟨k, hk⟩ | ⟨hsmaller, hbelow⟩
  · obtain ⟨hnearest, heven⟩ := roundDiv_nearest a hb k
    rw [hk, hscale, hscale]
    refine ⟨mul_le_mul_of_nonneg_right hnearest hunit.le, fun heq => ?_⟩
    rcases heven (mul_right_cancel₀ hunit.ne' heq) with rfl | heven
    · exact .inl (by rw [Int.cast_natCast])
    · exact .inr heven
  · -- The least number with this unit lies between the other number and the ratio.
    have habove : (2 : ℚ) ^ 52 * 2 ^ e ≤ a / b * 2 ^ e :=
      hlast.above.resolve_left (by have := h.lowest; omega)
    have hleast := (roundDiv_nearest a hb (2 ^ 52)).1
    simp only [Int.cast_pow, Int.cast_ofNat] at hleast
    have hscaled := mul_le_mul_of_nonneg_right hleast hunit.le
    rw [← hscale, ← hscale, abs_sub_comm (2 ^ 52 * 2 ^ e : ℚ),
      abs_of_nonneg (sub_nonneg.mpr habove)] at hscaled
    have hvalue := (abs_lt.mp hbelow).2
    have hfar : a / b * 2 ^ e - 2 ^ 52 * 2 ^ e < |valueOf negative m e' - a / b * 2 ^ e| := by
      rw [abs_sub_comm]
      exact lt_of_lt_of_le (by linarith) (le_abs_self _)
    exact ⟨by linarith, fun heq => absurd heq (ne_of_lt (by linarith))⟩

/-- A ratio is rounded to the nearest number of the format, unless it is too large for any. -/
theorem isNearest_ofRatio (hden : 0 < den) (hfinite : (ofRatio false num den).isFinite = true) :
    IsNearest (num / den) (ofRatio false num den) := by
  by_cases hzero : num = 0
  · subst hzero
    rw [ofRatio, if_pos rfl, zero]
    refine ⟨⟨by norm_num, le_rfl, by norm_num⟩, .inr rfl, ?_, ?_⟩
    · intro negative m e _
      simp
    · intro _ _ _ _ _
      exact .inr rfl
  · have hlast := isLastBit_unitExponent (Nat.pos_of_ne_zero hzero) hden
    rw [ofRatio, if_neg hzero] at hfinite ⊢
    dsimp only at hfinite ⊢
    generalize unitExponent num den = e at hlast hfinite ⊢
    have hb := inUnits_pos num hden e
    have hratio : (num : ℚ) / den = (inUnits num den e).1 / (inUnits num den e).2 * 2 ^ e := by
      rw [inUnits_ratio, div_mul_cancel₀ _ (by positivity)]
    generalize (inUnits num den e).1 = a at hfinite hratio ⊢
    generalize (inUnits num den e).2 = b at hb hfinite hratio ⊢
    rw [hratio] at hlast ⊢
    obtain ⟨hquotient, hfull⟩ := hlast.bits hb
    have hround := (roundDiv_cases a b).1
    have hnearest := fun negative m e' (h : Holds m e') => roundDiv_mul_nearest hb hlast negative h
    have hlowest := hlast.lowest
    by_cases hcarry : roundDiv a b = Nat.pow 2 53
    · -- The mantissa has got one bit more, and so has the exponent.
      rw [if_pos hcarry] at hfinite ⊢
      dsimp only at hfinite ⊢
      split at hfinite
      · cases hfinite
      · next hhigh =>
          rw [if_neg hhigh]
          have hvalue : valueOf false (Nat.pow 2 52) (e + 1) = roundDiv a b * 2 ^ e := by
            rw [valueOf_false, hcarry, zpow_add_one₀ two_ne_zero]
            simp only [Nat.pow_eq]
            push_cast
            ring
          refine ⟨⟨by norm_num, by omega, by omega⟩, .inl le_rfl, ?_, ?_⟩
          · intro negative m e' h
            rw [hvalue]
            exact (hnearest negative m e' h).1
          · intro _ _ _ _ _
            exact .inr rfl
    · rw [if_neg hcarry] at hfinite ⊢
      dsimp only at hfinite ⊢
      split at hfinite
      · cases hfinite
      · next hhigh =>
          rw [if_neg hhigh]
          have hbits : roundDiv a b < 2 ^ 53 := by
            simp only [Nat.pow_eq] at hcarry
            omega
          refine ⟨⟨hbits, by omega, by omega⟩, by omega, ?_, ?_⟩
          · intro negative m e' h
            rw [valueOf_false]
            exact (hnearest negative m e' h).1
          · intro negative m e' h
            rw [valueOf_false]
            exact (hnearest negative m e' h).2

/-- No ratio is too large that is below half of what the format reaches to. -/
theorem isFinite_ofRatio (hden : 0 < den) (hsmall : (num : ℚ) / den < 2 ^ (1023 : ℤ)) :
    (ofRatio false num den).isFinite = true := by
  by_cases hzero : num = 0
  · rw [ofRatio, if_pos hzero]
    rfl
  · have hlast := isLastBit_unitExponent (Nat.pos_of_ne_zero hzero) hden
    have hexp : unitExponent num den < 971 := by
      rcases hlast.above with he | habove
      · omega
      · have hlt := lt_of_le_of_lt habove hsmall
        rw [← zpow_natCast, ← zpow_add₀ two_ne_zero, zpow_lt_zpow_iff_right₀ one_lt_two] at hlt
        push_cast at hlt
        omega
    rw [ofRatio, if_neg hzero]
    dsimp only
    split
    · rw [if_neg (show ¬ 971 < unitExponent num den + 1 by omega)]
      rfl
    · rw [if_neg (show ¬ 971 < unitExponent num den by omega)]
      rfl

theorem ratio_eq (m : Nat) (e : Int) : ((ratio m e).1 : ℚ) / (ratio m e).2 = m * 2 ^ e := by
  unfold ratio
  split
  · next h =>
      obtain ⟨n, rfl⟩ := Int.eq_ofNat_of_zero_le h
      simp only [Int.toNat_natCast, zpow_natCast, Nat.pow_eq]
      push_cast
      rw [div_one]
  · next h =>
      obtain ⟨n, rfl⟩ := Int.eq_negSucc_of_lt_zero (not_le.mp h)
      have hexp : (-Int.negSucc n).toNat = n + 1 := rfl
      simp only [hexp, Nat.pow_eq, zpow_negSucc]
      push_cast
      rw [div_eq_mul_inv]

theorem wholePart_eq_floor (negative : Bool) (m : Nat) (e : Int) :
    (finite negative m e).wholePart = ⌊|valueOf negative m e|⌋₊ := by
  rw [wholePart, abs_valueOf, ← ratio_eq, Nat.floor_div_eq_div]

/-- The whole part of a number of the format has no more than 1024 digits. -/
theorem wholePart_lt {q : ℚ} {x : Binary64} (h : IsNearest q x) :
    ∃ k, 0 < k ∧ k ≤ 1024 ∧ x.wholePart < 10 ^ k := by
  cases x with
  | nan => exact h.elim
  | infinite negative => exact h.elim
  | finite negative m e =>
      have hrounded : IsRounded q negative m e := h
      obtain ⟨hbits, -, hhighest⟩ := hrounded.holds
      have hm : m < 10 ^ 53 := hbits.trans (by norm_num)
      rw [wholePart, ratio]
      split
      · have hpow : 2 ^ e.toNat ≤ 10 ^ e.toNat := Nat.pow_le_pow_left (by decide) e.toNat
        refine ⟨53 + e.toNat, by omega, by omega, ?_⟩
        rw [Nat.div_one, Nat.pow_add]
        exact Nat.mul_lt_mul_of_lt_of_le hm hpow (Nat.pow_pos (by decide))
      · exact ⟨53, by decide, by decide, (Nat.div_le_self m _).trans_lt hm⟩

theorem holds_natCast {k : Nat} (h : k < 2 ^ 53) : Holds k 0 := ⟨h, by norm_num, by norm_num⟩

variable {q : ℚ} {negative : Bool} {m k : Nat} {e : Int}

/-- What lies between two whole numbers is not rounded past them. -/
theorem IsRounded.between (h : IsRounded q negative m e) (hlow : (k : ℚ) ≤ q) (hhigh : q < k + 1)
    (hsmall : k + 1 < 2 ^ 53) : (k : ℚ) ≤ valueOf negative m e ∧ valueOf negative m e ≤ k + 1 := by
  have hbelow := h.nearest false k 0 (holds_natCast (by omega))
  have habove := h.nearest false (k + 1) 0 (holds_natCast hsmall)
  simp only [valueOf_false, zpow_zero, mul_one, Nat.cast_add, Nat.cast_one] at hbelow habove
  rw [abs_of_nonpos (by linarith : (k : ℚ) - q ≤ 0)] at hbelow
  rw [abs_of_nonneg (by linarith : (0 : ℚ) ≤ k + 1 - q)] at habove
  constructor
  · linarith [neg_abs_le (valueOf negative m e - q)]
  · linarith [le_abs_self (valueOf negative m e - q)]

/-- The whole part of the nearest number is the whole part of what was rounded, or one more if the nearest
number is the next whole one. -/
theorem IsRounded.wholePart_eq (h : IsRounded q negative m e) (hlow : (k : ℚ) ≤ q) (hhigh : q < k + 1)
    (hsmall : k + 1 < 2 ^ 53) :
    (finite negative m e).wholePart = if valueOf negative m e = k + 1 then k + 1 else k := by
  obtain ⟨hle, hge⟩ := h.between hlow hhigh hsmall
  have hnonneg : (0 : ℚ) ≤ valueOf negative m e := le_trans (Nat.cast_nonneg k) hle
  rw [wholePart_eq_floor, abs_of_nonneg hnonneg, Nat.floor_eq_iff hnonneg]
  split
  · next hnext =>
      rw [hnext]
      push_cast
      exact ⟨le_rfl, by linarith⟩
  · next hnext => exact ⟨hle, lt_of_le_of_ne hge hnext⟩

/-- Half of the distance between neighbouring numbers from `2 ^ l` on. -/
theorem spacing_eq {l : Nat} (hl : l ≤ 52) : (2 : ℚ) ^ ((l : Int) - 52) * 2 ^ (53 - l) = 2 := by
  rw [← zpow_natCast, ← zpow_add₀ two_ne_zero, Nat.cast_sub (by omega)]
  have hexp : (l : Int) - 52 + ((53 : ℕ) - (l : ℕ)) = 1 := by push_cast; ring
  rw [hexp, zpow_one]

/-- A whole number is a multiple of the distance between the numbers below it. -/
theorem natCast_eq_mul_spacing {l : Nat} (hl : l ≤ 52) (n : Nat) :
    (n : ℚ) = (n * 2 ^ (52 - l) : ℕ) * 2 ^ ((l : Int) - 52) := by
  push_cast
  rw [mul_assoc, ← zpow_natCast, ← zpow_add₀ two_ne_zero, Nat.cast_sub hl]
  have hexp : ((52 : ℕ) : Int) - l + (l - 52) = 0 := by push_cast; ring
  rw [hexp, zpow_zero, mul_one]

/-- The next whole number is the nearest number only if it is at most half of the distance between numbers
away, because the number below it is no nearer. -/
theorem IsRounded.le_of_next (h : IsRounded q negative m e) (hhigh : q < k + 1) (hsmall : k + 1 < 2 ^ 53)
    (hnext : valueOf negative m e = k + 1) : (k + 1 - q) * 2 ^ (53 - k.log2) ≤ 1 := by
  have hlog : k.log2 ≤ 52 := Nat.le_of_lt_succ (log2_lt_of_lt (by decide) (by omega))
  have hspacing := spacing_eq hlog
  have hmultiple := natCast_eq_mul_spacing hlog (k + 1)
  have hmantissa : (k + 1) * 2 ^ (52 - k.log2) ≤ 2 ^ 53 := by
    calc (k + 1) * 2 ^ (52 - k.log2) ≤ 2 ^ (k.log2 + 1) * 2 ^ (52 - k.log2) :=
          Nat.mul_le_mul_right _ Nat.lt_log2_self
      _ = 2 ^ 53 := by rw [← Nat.pow_add]; congr 1; omega
  have hpos : 0 < (k + 1) * 2 ^ (52 - k.log2) := by positivity
  generalize (k + 1) * 2 ^ (52 - k.log2) = n at hmultiple hmantissa hpos
  have hbelow := h.nearest false (n - 1) ((k.log2 : Int) - 52) ⟨by omega, by omega, by omega⟩
  rw [valueOf_false, Nat.cast_sub hpos, sub_mul, ← hmultiple, hnext] at hbelow
  push_cast at hbelow
  rw [abs_of_pos (by linarith), one_mul] at hbelow
  have hunit : (0 : ℚ) < 2 ^ ((k.log2 : Int) - 52) := by positivity
  have hfactor : (0 : ℚ) < 2 ^ (53 - k.log2) := by positivity
  -- The number below cannot lie above the ratio, as it would be nearer.
  have hhalf : 2 * (k + 1 - q) ≤ (2 : ℚ) ^ ((k.log2 : Int) - 52) := by
    rcases abs_cases ((k : ℚ) + 1 - 2 ^ ((k.log2 : Int) - 52) - q) with ⟨habs, -⟩ | ⟨habs, -⟩ <;>
      rw [habs] at hbelow <;> linarith
  nlinarith

/-- The next whole number is the nearest number if it is less than half of the distance between numbers
away. -/
theorem IsRounded.next_of_lt (h : IsRounded q negative m e) (hk : k ≠ 0) (hlow : (k : ℚ) ≤ q)
    (hhigh : q < k + 1) (hsmall : k + 1 < 2 ^ 53) (hnear : (k + 1 - q) * 2 ^ (53 - k.log2) < 1) :
    valueOf negative m e = k + 1 := by
  have hlog : k.log2 ≤ 52 := Nat.le_of_lt_succ (log2_lt_of_lt (by decide) (by omega))
  obtain ⟨hle, hge⟩ := h.between hlow hhigh hsmall
  by_contra hne
  have hlt := lt_of_le_of_ne hge hne
  have hspacing := spacing_eq hlog
  have hunit : (0 : ℚ) < 2 ^ ((k.log2 : Int) - 52) := by positivity
  have hfactor : (0 : ℚ) < 2 ^ (53 - k.log2) := by positivity
  -- The nearest number is not below the power of two below it, so that it is a multiple of the distance.
  have hgrid : valueOf negative m e + 2 ^ ((k.log2 : Int) - 52) ≤ k + 1 := by
    rcases h.holds.on_grid_or_below negative ((k.log2 : Int) - 52) with ⟨j, hj⟩ | ⟨-, hbelow⟩
    · have hmultiple := natCast_eq_mul_spacing hlog (k + 1)
      push_cast at hmultiple
      rw [hj, hmultiple] at hlt
      have hjlt : j + 1 ≤ ((k : ℤ) + 1) * 2 ^ (52 - k.log2) := by
        have hcast := lt_of_mul_lt_mul_right hlt hunit.le
        exact_mod_cast hcast
      have hcast : (j : ℚ) + 1 ≤ (k + 1) * 2 ^ (52 - k.log2) := by exact_mod_cast hjlt
      rw [hj, hmultiple, ← add_one_mul]
      exact mul_le_mul_of_nonneg_right hcast hunit.le
    · have hpow : (2 : ℚ) ^ 52 * 2 ^ ((k.log2 : Int) - 52) ≤ k := by
        rw [← zpow_natCast, ← zpow_add₀ two_ne_zero]
        have hexp : ((52 : ℕ) : Int) + ((k.log2 : Int) - 52) = k.log2 := by push_cast; ring
        rw [hexp, zpow_natCast]
        exact_mod_cast Nat.log2_self_le hk
      linarith [(abs_lt.mp hbelow).2]
  have hnearest := h.nearest false (k + 1) 0 (holds_natCast hsmall)
  simp only [valueOf_false, zpow_zero, mul_one, Nat.cast_add, Nat.cast_one] at hnearest
  rw [abs_of_pos (by linarith : (0 : ℚ) < k + 1 - q)] at hnearest
  have hhalf : 2 * (k + 1 - q) < (2 : ℚ) ^ ((k.log2 : Int) - 52) := by nlinarith
  have hfar : 2 ^ ((k.log2 : Int) - 52) - (k + 1 - q) ≤ |valueOf negative m e - q| := by
    linarith [neg_abs_le (valueOf negative m e - q)]
  linarith

end Binary64
end OAuthGrant.Decimal

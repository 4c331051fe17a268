/-!
# Binary floating point numbers

The numbers of the 64-bit binary format as exact values: a finite one is `± mantissa · 2 ^ exponent`.
Everything that rounds goes through `ofRatio`, which takes the nearest number and of two equally
near ones the one with the even mantissa, in exact integer arithmetic.
-/

namespace OAuthGrant.Decimal

/-- A number of the 64-bit binary format. All values that are not numbers are one. -/
inductive Binary64 where
  | nan
  | infinite (negative : Bool)
  | finite (negative : Bool) (mantissa : Nat) (exponent : Int)
  deriving DecidableEq, Repr

/-- The quotient of two naturals rounded to the nearest one, a half to the even neighbour. -/
def roundDiv (num den : Nat) : Nat :=
  let q := num / den
  let twice := 2 * (num % den)
  if twice < den then q else if den < twice then q + 1 else q + q % 2

/-- The quotient of an integer and a natural rounded to the nearest integer, a half to the even. -/
def roundDivInt (num : Int) (den : Nat) : Int :=
  if num < 0 then -(roundDiv num.natAbs den : Int) else roundDiv num.natAbs den

/-- The ratio `num / den` in units of `2 ^ e`, again as a ratio. -/
def inUnits (num den : Nat) (e : Int) : Nat × Nat :=
  if 0 ≤ e then (num, den * Nat.pow 2 e.toNat) else (num * Nat.pow 2 (-e).toNat, den)

/-- The exponent of the last mantissa bit of the ratio `num / den`, which is at least -1074. -/
def unitExponent (num den : Nat) : Int :=
  let e : Int := Int.ofNat num.log2 - Int.ofNat den.log2 - 52
  let (a, b) := inUnits num den e
  max (if a / b < Nat.pow 2 52 then e - 1 else e) (-1074)

namespace Binary64

def zero (negative : Bool) : Binary64 := .finite negative 0 (-1074)

/-- The number nearest to `± num / den`. -/
def ofRatio (negative : Bool) (num den : Nat) : Binary64 :=
  if num = 0 then zero negative else
  let e := unitExponent num den
  let (a, b) := inUnits num den e
  let m := roundDiv a b
  let (m, e) := if m = Nat.pow 2 53 then (Nat.pow 2 52, e + 1) else (m, e)
  if 971 < e then .infinite negative else .finite negative m e

/-- The number nearest to `± digits · 10 ^ scale`. -/
def ofDecimal (negative : Bool) (digits : Nat) (scale : Int) : Binary64 :=
  let size : Int := (Nat.toDigits 10 digits).length + scale
  if digits = 0 || size < -330 then zero negative
  else if 310 < size then .infinite negative
  else if 0 ≤ scale then ofRatio negative (digits * Nat.pow 10 scale.toNat) 1
  else ofRatio negative digits (Nat.pow 10 (-scale).toNat)

/-- The magnitude of a finite number as a ratio. -/
def ratio (mantissa : Nat) (exponent : Int) : Nat × Nat :=
  if 0 ≤ exponent then (mantissa * Nat.pow 2 exponent.toNat, 1)
  else (mantissa, Nat.pow 2 (-exponent).toNat)

def isFinite : Binary64 → Bool
  | .finite .. => true
  | _ => false

/-- Both zeros are zero. -/
def isZero : Binary64 → Bool
  | .finite _ m _ => m == 0
  | _ => false

/-- The integer a number is equal to, if there is one. -/
def toInt? : Binary64 → Option Int
  | .finite negative m e =>
    let (a, b) := ratio m e
    if a % b = 0 then some (if negative then -(a / b : Nat) else (a / b : Nat)) else none
  | _ => none

/-- The whole part of the magnitude of a finite number. -/
def wholePart : Binary64 → Nat
  | .finite _ m e => (ratio m e).1 / (ratio m e).2
  | _ => 0

/-- The fraction of the magnitude of a finite number times a natural, rounded to a number of the
format, as a ratio. -/
def scaledFraction (mantissa : Nat) (exponent : Int) (scale : Nat) : Nat × Nat :=
  let (a, b) := ratio mantissa exponent
  match ofRatio false (a % b * scale) b with
  | .finite _ m e => ratio m e
  | _ => (0, 1)

@[simp] theorem toInt?_nan : nan.toInt? = none := rfl

@[simp] theorem toInt?_infinite (negative : Bool) : (infinite negative).toInt? = none := rfl

end Binary64
end OAuthGrant.Decimal

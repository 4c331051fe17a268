import OAuthGrant.Failure
import OAuthGrant.Time.Calendar

/-!
# Durations

A duration is a whole number of microseconds. It is given in seconds and microseconds, each an integer
or a floating point number; what is no whole number of microseconds is rounded to the nearest one, a
half to the even neighbour. Durations are limited to about 2.7 million years.
-/

namespace OAuthGrant.Time
open Decimal (Binary64)

def maxDays : Int := 999999999

/-- A duration within the limits. A number of days that does not even fit into 32 bits is reported
differently. -/
def limited (micros : Int) : Except Failure Int :=
  let days := micros.fdiv perDay
  if days < -(Nat.pow 2 31 : Int) ∨ Nat.pow 2 31 ≤ days then .error .daysTooLarge
  else if days < -maxDays ∨ maxDays < days then .error (.daysOutOfRange days)
  else .ok micros

/-- A part of a duration in microseconds: the whole ones and, as a ratio, what is left over. -/
structure Part where
  whole : Int
  num : Int := 0
  den : Nat := 1

/-- A part that is a floating point number of units. The fraction is turned into microseconds apart
from the whole units, rounded to a floating point number. -/
def Part.ofFloat (unit : Nat) (negative : Bool) (mantissa : Nat) (exponent : Int) : Part :=
  let (a, b) := Binary64.ratio mantissa exponent
  let (p, q) := Binary64.scaledFraction mantissa exponent unit
  let sign : Int := if negative then -1 else 1
  ⟨sign * (a / b * unit : Nat), sign * p, q⟩

/-- The part that a value gives in units of some microseconds; the name of the units tells about a value
that is not a number. -/
def Part.ofValue (units : String) (unit : Nat) : Value → Except Failure Part
  | .int n => .ok { whole := n * unit }
  | .bool b => .ok { whole := if b then unit else 0 }
  | .float .nan => .error .durationNotANumber
  | .float (.infinite _) => .error .durationInfinite
  | .float (.finite negative m e) => .ok (.ofFloat unit negative m e)
  | v => .error (.durationNotNumeric units v.kind)

/-- The duration of two parts, rounded to the nearest microsecond. -/
def ofParts (s t : Part) : Except Failure Int :=
  let den := s.den * t.den
  limited (Decimal.roundDivInt ((s.whole + t.whole) * den + s.num * t.den + t.num * s.den) den)

/-- The duration of some seconds and some microseconds. -/
def ofSecondsAndMicros (seconds micros : Value) : Except Failure Int := do
  let m ← Part.ofValue "microseconds" 1 micros
  let s ← Part.ofValue "seconds" perSecond seconds
  ofParts s m

def ofSeconds (seconds : Value) : Except Failure Int := ofSecondsAndMicros seconds (.int 0)

end OAuthGrant.Time

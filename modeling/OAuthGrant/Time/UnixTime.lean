import OAuthGrant.Decimal.Binary64
import OAuthGrant.Time.Timestamp

/-!
# Points in time as numbers

A number counts seconds from the start of 1970 in universal time. One that would lie centuries away
counts milliseconds instead. `ofInteger` and `ofFloat` say why a number is no point in time.
-/

namespace OAuthGrant.Time.UnixTime
open Decimal (Binary64)

/-- Why a number is no point in time. -/
inductive Fault where
  | notANumber
  | tooEarly
  | tooLate
  | yearZero
  deriving DecidableEq, Repr

def Fault.text : Fault → String
  | notANumber => "NaN values not permitted"
  | tooEarly => "dates before 0000 are not supported as unix timestamps"
  | tooLate => "dates after 9999 are not supported as unix timestamps"
  | yearZero => "year 0 is out of range"

/-- The largest number that counts seconds. -/
def maxSeconds : Nat := 20000000000

/-- The seconds from the start of year 1 to the start of 1970. -/
def epoch : Nat := (Date.toDays ⟨1970, 1, 1⟩) * 86400

/-- The seconds of year 0, which is a leap year. -/
def yearZeroSeconds : Nat := 366 * 86400

/-- The microseconds in a unit of a number of the given magnitude `num / den`. -/
def unit (num den : Nat) : Nat := if num ≤ maxSeconds * den then perSecond else perSecond / 1000

/-- The point in time some microseconds after the start of 1970. -/
def ofMicros (micros : Int) : Except Fault Timestamp :=
  let wall := micros + epoch * perSecond
  let second := wall.fdiv perSecond
  if second < -yearZeroSeconds then .error .tooEarly
  else if (dayCount * 86400 : Nat) ≤ second then .error .tooLate
  else if second < 0 then .error .yearZero
  else .ok (.utc wall)

def ofInteger (n : Int) : Except Fault Timestamp := ofMicros (n * unit n.natAbs 1)

/-- The point in time of a floating point number, to the nearest microsecond; of two equally near ones
it is the later. -/
def ofFloat : Binary64 → Except Fault Timestamp
  | .nan => .error .notANumber
  | .infinite negative => .error (if negative then .tooEarly else .tooLate)
  | .finite negative m e =>
    let (num, den) := Binary64.ratio m e
    let micros : Int := (if negative then -1 else 1) * (num * unit num den : Nat)
    ofMicros ((2 * micros + den).fdiv (2 * den))

end OAuthGrant.Time.UnixTime

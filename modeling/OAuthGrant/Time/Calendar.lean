/-!
# The calendar

Days of the Gregorian calendar, numbered from 0 for the first of January of year 1. A date is
turned into its number and back by whole cycles of 400, 100, 4 and 1 years.
-/

namespace OAuthGrant.Time

/-- A day of the calendar; months and days count from 1. -/
structure Date where
  year : Nat
  month : Nat
  day : Nat
  deriving DecidableEq, Repr

/-- Every fourth year, but of the centuries only every fourth. -/
def isLeap (year : Nat) : Bool := year % 4 == 0 && (year % 100 != 0 || year % 400 == 0)

def monthLengths (year : Nat) : List Nat :=
  [31, if isLeap year then 29 else 28, 31, 30, 31, 30, 31, 31, 30, 31, 30, 31]

/-- The number of days before a year. -/
def daysBeforeYear (year : Nat) : Nat :=
  (year - 1) * 365 + (year - 1) / 4 - (year - 1) / 100 + (year - 1) / 400

/-- The month and day of a day counted from 0 within the months of the given lengths. -/
def monthAndDay (lengths : List Nat) (month day : Nat) : Nat × Nat :=
  match lengths with
  | [] => (month, day + 1)
  | n :: rest => if day < n then (month, day + 1) else monthAndDay rest (month + 1) (day - n)

def Date.ofDays (days : Nat) : Date :=
  let r400 := days % 146097
  let n100 := min (r400 / 36524) 3
  let r100 := r400 - n100 * 36524
  let n4 := r100 / 1461
  let r4 := r100 % 1461
  let n1 := min (r4 / 365) 3
  let year := days / 146097 * 400 + n100 * 100 + n4 * 4 + n1 + 1
  let (month, day) := monthAndDay (monthLengths year) 1 (r4 - n1 * 365)
  ⟨year, month, day⟩

def Date.toDays (d : Date) : Nat :=
  daysBeforeYear d.year + ((monthLengths d.year).take (d.month - 1)).foldl (· + ·) 0 + (d.day - 1)

/-- A date of the years 1 to 9999. -/
def Date.isValid (d : Date) : Bool :=
  1 ≤ d.year && d.year ≤ 9999 && 1 ≤ d.month && d.month ≤ 12 && 1 ≤ d.day &&
    d.day ≤ (monthLengths d.year).getD (d.month - 1) 0

def dayCount : Nat := 3652059

/-- Microseconds in a second. -/
def perSecond : Nat := 1000000

def perMinute : Nat := 60 * perSecond

/-- Microseconds in a day. -/
def perDay : Nat := 86400 * perSecond

/-- Two decimal digits or more. -/
def twoDigits (n : Nat) : String := if n < 10 then "0" ++ toString n else toString n

def padded (width n : Nat) : String :=
  let s := toString n
  String.ofList (List.replicate (width - s.length) '0') ++ s

end OAuthGrant.Time

import OAuthGrant.Time.Calendar

/-!
# Points in time

A timestamp is a reading of a wall clock, counted in microseconds from the start of year 1,
together with the offset of that clock from universal time if it is known. Two timestamps can be
compared when both offsets are known or neither is.
-/

namespace OAuthGrant.Time

/-- A wall clock reading and, in microseconds too, how far the clock is ahead of universal time. -/
structure Timestamp where
  wall : Int
  offset : Option Int
  deriving DecidableEq, Repr

namespace Timestamp

/-- The reading of a clock that shows universal time. -/
def utc (t : Int) : Timestamp := ⟨t, some 0⟩

/-- The point in universal time; a clock of unknown offset is taken as it is. -/
def instant (t : Timestamp) : Int := t.wall - t.offset.getD 0

@[simp] theorem instant_utc (t : Int) : (utc t).instant = t := by simp [utc, instant]

/-- Whether two timestamps can be compared. -/
def comparable (s t : Timestamp) : Bool := s.offset.isSome == t.offset.isSome

@[simp] theorem comparable_utc (s t : Int) : comparable (utc s) (utc t) = true := rfl

/-- The wall clock readings of the years 1 to 9999. -/
def inRange (wall : Int) : Bool := 0 ≤ wall && wall < (dayCount * perDay : Nat)

/-- The timestamp `d` microseconds later on the same clock, if its date has one. -/
def later? (t : Timestamp) (d : Int) : Option Timestamp :=
  if inRange (t.wall + d) then some { t with wall := t.wall + d } else none

/-- Hours, minutes and seconds of a reading. -/
def clockText (wall : Nat) : String :=
  let s := wall / perSecond
  twoDigits (s / 3600 % 24) ++ ":" ++ twoDigits (s / 60 % 60) ++ ":" ++ twoDigits (s % 60)

/-- The date of a reading, with zeros before the year up to a width. -/
def dateText (yearWidth wall : Nat) : String :=
  let d := Date.ofDays (wall / perDay)
  padded yearWidth d.year ++ "-" ++ twoDigits d.month ++ "-" ++ twoDigits d.day

/-- An offset in hours and minutes with its sign: seconds and microseconds only when there are any. -/
def offsetText (offset : Int) : String :=
  let minutes := offset.natAbs / perMinute
  let micros := offset.natAbs % perMinute
  (if offset < 0 then "-" else "+") ++ twoDigits (minutes / 60) ++ ":" ++ twoDigits (minutes % 60) ++
    (if micros = 0 then "" else ":" ++ twoDigits (micros / perSecond)) ++
    (if micros % perSecond = 0 then "" else "." ++ padded 6 (micros % perSecond))

/-- The standard text of a timestamp: microseconds only when there are any, and the offset if it is
known. -/
def text (t : Timestamp) : String :=
  let wall := t.wall.toNat
  let micros := wall % perSecond
  dateText 4 wall ++ "T" ++ clockText wall ++
    (if micros = 0 then "" else "." ++ padded 6 micros) ++
    (match t.offset with
      | some offset => offsetText offset
      | none => "")

/-- The text of a reading in a log, to the millisecond. No zeros are put before the year. -/
def logText (wall : Nat) : String :=
  dateText 1 wall ++ " " ++ clockText wall ++ "." ++ padded 3 (wall % perSecond / 1000)

/-- A run of exactly `width` decimal digits. -/
def digits? (width : Nat) (cs : List Char) : Option (Nat × List Char) :=
  let ds := cs.take width
  if ds.length = width && ds.all Char.isDigit then
    some (ds.foldl (fun n c => 10 * n + (c.toNat - 48)) 0, cs.drop width)
  else none

def skip? (c : Char) : List Char → Option (List Char)
  | d :: rest => if d = c then some rest else none
  | [] => none

/-- The end of a timestamp: nothing, `Z`, or an offset. -/
def offset? : List Char → Option (Option Int)
  | [] => some none
  | ['Z'] => some (some 0)
  | sign :: rest =>
    if sign = '+' || sign = '-' then do
      let (h, rest) ← digits? 2 rest
      let rest ← skip? ':' rest
      let (m, rest) ← digits? 2 rest
      if rest = [] && h < 24 && m < 60 then
        let minutes : Int := h * 60 + m
        some (some (if sign = '-' then -(minutes * perMinute) else minutes * perMinute))
      else none
    else none

/-- The fraction of a second in microseconds. -/
def fraction? : List Char → Option (Nat × List Char)
  | '.' :: rest => digits? 6 rest
  | rest => some (0, rest)

def ofText? (s : String) : Option Timestamp := do
  let (year, cs) ← digits? 4 s.toList
  let cs ← skip? '-' cs
  let (month, cs) ← digits? 2 cs
  let cs ← skip? '-' cs
  let (day, cs) ← digits? 2 cs
  let cs ← skip? 'T' cs
  let (h, cs) ← digits? 2 cs
  let cs ← skip? ':' cs
  let (m, cs) ← digits? 2 cs
  let cs ← skip? ':' cs
  let (sec, cs) ← digits? 2 cs
  let (micros, cs) ← fraction? cs
  let offset ← offset? cs
  let date : Date := ⟨year, month, day⟩
  if date.isValid && h < 24 && m < 60 && sec < 60 then
    some ⟨((date.toDays * 86400 + h * 3600 + m * 60 + sec) * perSecond + micros : Nat), offset⟩
  else none

end Timestamp
end OAuthGrant.Time

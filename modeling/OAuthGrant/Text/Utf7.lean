import OAuthGrant.Text.Surrogate

/-!
# UTF-7

ASCII in which a plus sign starts characters in base 64: their code units of sixteen bits, one after
the other. A character outside the base ends them, and a hyphen that does so is dropped. What is left
over at the end is less than one digit of zeros. Two surrogates in a row make one character; a single
one stands for itself, but not at the end of the bytes.
-/

namespace OAuthGrant.Text.Utf7

def digit? (b : Nat) : Option Nat :=
  if 0x41 ≤ b && b ≤ 0x5A then some (b - 0x41)
  else if 0x61 ≤ b && b ≤ 0x7A then some (b - 0x61 + 26)
  else if 0x30 ≤ b && b ≤ 0x39 then some (b - 0x30 + 52)
  else if b = 0x2B then some 62
  else if b = 0x2F then some 63
  else none

/-- Characters in base 64 that are being read: how many bits there are that do not make a code unit
yet, their value, and a high surrogate that waits for its partner. -/
structure Pending where
  count : Nat := 0
  value : Nat := 0
  high? : Option Nat := none

/-- One more digit: the code unit that is complete with it, if one is, and the bits after that. -/
def Pending.push (p : Pending) (digit : Nat) : Option Nat × Pending :=
  let count := p.count + 6
  let value := p.value * 64 + digit
  if 16 ≤ count then
    (some (value / Nat.pow 2 (count - 16)), { p with
      count := count - 16, value := value % Nat.pow 2 (count - 16) })
  else (none, { p with count, value })

/-- Whether bits may be left over. -/
def Pending.isPadding (p : Pending) : Bool := p.count < 6 && p.value = 0

/-- One more code unit: the code points that are complete with it. -/
def Pending.take (p : Pending) (unit : Nat) : List Nat × Pending :=
  let isHigh := 0xD800 ≤ unit && unit < 0xDC00
  match p.high? with
  | some high =>
    if 0xDC00 ≤ unit && unit < 0xE000 then
      ([0x10000 + (high - 0xD800) * 1024 + (unit - 0xDC00)], { p with high? := none })
    else if isHigh then ([high], { p with high? := some unit })
    else ([high, unit], { p with high? := none })
  | none => if isHigh then ([], { p with high? := some unit }) else ([unit], p)

/-- Reads bytes to their end, within characters in base 64 or outside of them; `read` has the code
points so far in reverse. -/
def codePointsAfter? (pending : Option Pending) (read : List Nat) : List Nat → Option (List Nat)
  | [] => if pending.all fun p => p.isPadding && p.high?.isNone then some read.reverse else none
  | b :: rest =>
    match pending with
    | some p =>
      match digit? b with
      | some d =>
        match p.push d with
        | (some unit, p) =>
          codePointsAfter? (some (p.take unit).2) ((p.take unit).1.reverse ++ read) rest
        | (none, p) => codePointsAfter? (some p) read rest
      | none =>
        if !p.isPadding || 0x80 ≤ b then none
        else
          let read := p.high?.toList ++ read
          codePointsAfter? none (if b = 0x2D then read else b :: read) rest
    | none =>
      if 0x80 ≤ b then none
      else if b = 0x2B then
        match rest with
        | [] => some read.reverse
        | c :: more =>
          if c = 0x2D then codePointsAfter? none (0x2B :: read) more
          else if (digit? c).isSome then codePointsAfter? (some {}) read (c :: more)
          else none
      else codePointsAfter? none (b :: read) rest
termination_by bytes => bytes.length

def decode? (bytes : List Nat) : Option (List Char) :=
  (codePointsAfter? none [] bytes).bind (·.mapM ofCodePoint?)

end OAuthGrant.Text.Utf7

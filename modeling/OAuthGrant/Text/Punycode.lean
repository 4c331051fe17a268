import OAuthGrant.Text.DecodingFault
import OAuthGrant.Text.Surrogate

/-!
# Punycode

ASCII characters, and after the last hyphen numbers that say which other characters stand between them
and where. The numbers are in base 36; which digit ends one depends on the place of the digit and on a
bias, which follows the numbers before it. Main statement: `digit?_digit`, a digit is read as it was
written.
-/

namespace OAuthGrant.Text.Punycode

/-- The value of a digit: letters come first, and their case does not count. -/
def digit? (b : Nat) : Option Nat :=
  if 0x41 ≤ b && b ≤ 0x5A then some (b - 0x41)
  else if 0x61 ≤ b && b ≤ 0x7A then some (b - 0x61)
  else if 0x30 ≤ b && b ≤ 0x39 then some (b - 0x30 + 26)
  else none

def digit (n : Nat) : Nat := if n < 26 then 0x61 + n else 0x30 + (n - 26)

theorem digit?_digit : ∀ n < 36, digit? (digit n) = some n := by decide

/-- A digit below the threshold of its place ends a number. -/
def threshold (place bias : Nat) : Nat := min 26 (max 1 (36 * (place + 1) - bias))

theorem threshold_pos (place bias : Nat) : 1 ≤ threshold place bias := by
  unfold threshold
  omega

/-- The digits of a number from the one at `place` on. -/
def digits (bias place n : Nat) : List Nat :=
  if n < threshold place bias then [digit n]
  else
    let base := 36 - threshold place bias
    let rest := n - threshold place bias
    digit (threshold place bias + rest % base) :: digits bias (place + 1) (rest / base)
termination_by n
decreasing_by
  have := threshold_pos place bias
  exact Nat.lt_of_le_of_lt (Nat.div_le_self _ _) (by omega)

/-- Reads the rest of a number from the digit at `place` on, whose weight is given; `sum` is the value
of the digits before it. -/
def number (bias place weight sum : Nat) : List Nat → Except DecodingFault (Nat × List Nat)
  | [] => .error .numberCutOff
  | b :: rest =>
    match digit? b with
    | none => .error (.notADigit (Char.ofNat b))
    | some d =>
      if d < threshold place bias then .ok (sum + d * weight, rest)
      else number bias (place + 1) (weight * (36 - threshold place bias)) (sum + d * weight) rest

theorem length_number {bias place weight sum n : Nat} {bytes rest : List Nat}
    (h : number bias place weight sum bytes = .ok (n, rest)) : rest.length < bytes.length := by
  induction bytes generalizing place weight sum with
  | nil => simp [number] at h
  | cons b bs ih =>
    simp only [number] at h
    split at h
    · simp at h
    · split at h
      · simp only [Except.ok.injEq, Prod.mk.injEq] at h
        simp [← h.2]
      · exact Nat.lt_succ_of_lt (ih h)

/-- Divides a number by 35 until it is small; `steps` counts the divisions. -/
def scale (n steps : Nat) : Nat × Nat :=
  if 455 < n then scale (n / 35) (steps + 1) else (n, steps)
termination_by n
decreasing_by omega

/-- The bias after a number that has made a text `count` characters long. -/
def adapt (first : Bool) (n count : Nat) : Nat :=
  let halved := if first then n / 700 else n / 2
  let (rest, steps) := scale (halved + halved / count) 0
  36 * steps + 36 * rest / (rest + 38)

/-- A text whose characters have been put in so far, and how to go on: the place and the code point
from which the next number counts. -/
structure Progress where
  text : List Char
  code : Nat := 0x80
  place : Nat := 0
  bias : Nat := 72
  first : Bool := true

/-- Puts in the character that a number tells. -/
def Progress.put (p : Progress) (n : Nat) : Except DecodingFault Progress :=
  let size := p.text.length + 1
  let code := p.code + (p.place + n) / size
  let place := (p.place + n) % size
  match ofCodePoint? code with
  | none => .error (.beyondLast code)
  | some c => .ok {
    text := p.text.take place ++ c :: p.text.drop place
    code
    place := place + 1
    bias := adapt p.first n size
    first := false }

/-- Reads all numbers and puts in what they tell. -/
def putAll (p : Progress) (bytes : List Nat) : Except DecodingFault (List Char) :=
  if bytes = [] then .ok p.text
  else match h : number p.bias 0 1 0 bytes with
  | .error fault => .error fault
  | .ok (n, rest) =>
    have := length_number h
    match p.put n with
    | .error fault => .error fault
    | .ok p => putAll p rest
termination_by bytes.length

def decode (bytes : List Nat) : Except DecodingFault (List Char) :=
  if bytes.any (0x80 ≤ ·) then .error .notText
  else
    let extended := (bytes.reverse.takeWhile (· ≠ 0x2D)).reverse
    let basic := bytes.take (bytes.length - extended.length - 1)
    putAll { text := basic.map Char.ofNat } extended

@[simp] theorem decode_nil : decode [] = .ok [] := by simp [decode, putAll]

/-- A text that is being written: the digits so far, how many places the next number passes over, the
bias, and the number of characters that a reader knows by then. -/
structure Writing where
  written : List Nat := []
  passed : Nat := 0
  bias : Nat := 72
  first : Bool := true
  known : Nat

/-- Goes over one character of the text while those of a code point are put in. -/
def Writing.step (code : Nat) (w : Writing) (c : Nat) : Writing :=
  if c < code then { w with passed := w.passed + 1 }
  else if c = code then
    { written := w.written ++ digits w.bias 0 w.passed
      passed := 0
      bias := adapt w.first w.passed (w.known + 1)
      first := false
      known := w.known + 1 }
  else w

/-- Puts in the characters of some code points, which come in ascending order from `least` on. -/
def Writing.putAll (text : List Nat) (least : Nat) (w : Writing) : List Nat → Writing
  | [] => w
  | code :: rest =>
    let start := { w with passed := w.passed + (code - least) * (w.known + 1) }
    let done := text.foldl (step code) start
    putAll text (code + 1) { done with passed := done.passed + 1 } rest

/-- Numbers in ascending order, each once. -/
def ascending (ns : List Nat) : List Nat := ns.mergeSort.eraseReps

def encode (text : List Char) : List Nat :=
  let codes := text.map Char.toNat
  let basic := codes.filter (· < 0x80)
  let start : Writing := { known := basic.length }
  (if basic = [] then [] else basic ++ [0x2D]) ++
    (start.putAll codes 0x80 (ascending (codes.filter (0x80 ≤ ·)))).written

end OAuthGrant.Text.Punycode

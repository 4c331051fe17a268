/-!
# Reading UTF-8

Bytes are read as a list of characters and faults. A fault stands for the longest start of a
character's encoding that cannot be continued, or for one byte that starts none. `lossy` puts the
replacement character in place of every fault; `strict?` accepts no fault.
-/

namespace OAuthGrant.Text

/-- A character of which some bytes have been read: the number of bytes still missing, the bits so
far, and the range in which the next byte has to be. -/
structure Utf8Start where
  missing : Nat
  bits : Nat
  low : Nat := 0x80
  high : Nat := 0xBF

/-- The start of a character that its first byte announces. -/
def utf8Start? (b : Nat) : Option Utf8Start :=
  if 0xC2 ≤ b && b ≤ 0xDF then some ⟨1, b - 0xC0, 0x80, 0xBF⟩
  else if b = 0xE0 then some ⟨2, 0, 0xA0, 0xBF⟩
  else if b = 0xED then some ⟨2, 0xD, 0x80, 0x9F⟩
  else if 0xE1 ≤ b && b ≤ 0xEF then some ⟨2, b - 0xE0, 0x80, 0xBF⟩
  else if b = 0xF0 then some ⟨3, 0, 0x90, 0xBF⟩
  else if 0xF1 ≤ b && b ≤ 0xF3 then some ⟨3, b - 0xF0, 0x80, 0xBF⟩
  else if b = 0xF4 then some ⟨3, 4, 0x80, 0x8F⟩
  else none

/-- What a byte means that does not continue a character: what it stands for at once, and the
character it starts. -/
def utf8Fresh (b : Nat) : List (Option Char) × Option Utf8Start :=
  if b < 0x80 then ([some (Char.ofNat b)], none)
  else match utf8Start? b with
    | some start => ([], some start)
    | none => ([none], none)

/-- Reads bytes after the start of a character. -/
def decodeAfter (started : Option Utf8Start) : List UInt8 → List (Option Char)
  | [] => if started.isSome then [none] else []
  | byte :: bytes =>
    let b := byte.toNat
    match started with
    | none => (utf8Fresh b).1 ++ decodeAfter (utf8Fresh b).2 bytes
    | some s =>
      if s.low ≤ b && b ≤ s.high then
        let bits := s.bits * 64 + (b - 0x80)
        if s.missing ≤ 1 then some (Char.ofNat bits) :: decodeAfter none bytes
        else decodeAfter (some ⟨s.missing - 1, bits, 0x80, 0xBF⟩) bytes
      else none :: (utf8Fresh b).1 ++ decodeAfter (utf8Fresh b).2 bytes

/-- The characters of bytes, every fault replaced. -/
def lossy (bytes : List UInt8) : List Char :=
  (decodeAfter none bytes).map fun c => c.getD (Char.ofNat 0xFFFD)

/-- The characters of bytes without a fault. -/
def strict? (bytes : List UInt8) : Option (List Char) := (decodeAfter none bytes).mapM id

/-- Each byte as the character of the same number. -/
def latin1 (bytes : List UInt8) : List Char := bytes.map fun b => Char.ofNat b.toNat

end OAuthGrant.Text

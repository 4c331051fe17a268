/-!
# Base64 for URLs

Bytes as text in the alphabet that needs no escapes in a URL, without padding: three bytes make four
characters, and one or two bytes at the end make two or three.
-/

namespace OAuthGrant.Text

def base64Alphabet : List Char :=
  "ABCDEFGHIJKLMNOPQRSTUVWXYZabcdefghijklmnopqrstuvwxyz0123456789-_".toList

def base64Char (n : Nat) : Char := base64Alphabet.getD (n % 64) 'A'

def base64Chars : List UInt8 → List Char
  | [] => []
  | [a] => [base64Char (a.toNat / 4), base64Char (a.toNat * 16)]
  | [a, b] =>
    [base64Char (a.toNat / 4), base64Char (a.toNat * 16 + b.toNat / 16), base64Char (b.toNat * 4)]
  | a :: b :: c :: rest =>
    base64Char (a.toNat / 4) :: base64Char (a.toNat * 16 + b.toNat / 16) ::
      base64Char (b.toNat * 4 + c.toNat / 64) :: base64Char c.toNat :: base64Chars rest

def base64Url (bytes : List UInt8) : String := String.ofList (base64Chars bytes)

theorem length_base64Chars (bytes : List UInt8) :
    (base64Chars bytes).length = (bytes.length * 4 + 2) / 3 := by
  fun_induction base64Chars bytes with
  | case1 => rfl
  | case2 => simp
  | case3 => simp
  | case4 a b c rest ih =>
    simp only [List.length_cons, ih]
    omega

end OAuthGrant.Text

import OAuthGrant.Text.CharsetName

/-!
# Encodings of text by name

An encoding is a set that was asked for by a name. Bytes that are no text in it, and all bytes if the
name is unknown, are taken as one character each. Some sets refuse bytes for a cause of their own, and
some names cannot even be looked up.
-/

namespace OAuthGrant.Text

/-- A set that was asked for, if it is known. -/
structure Encoding where
  set? : Option NamedCharset

namespace Encoding

def ofName (name : String) : Except Undecodable Encoding :=
  if name.toList.contains '\x00' then .error .unusableName
  else .ok ⟨NamedCharset.ofName? name⟩

/-- The text of bytes. No bytes are an empty text in every set. -/
def read (e : Encoding) (bytes : List UInt8) : Except Undecodable String :=
  match e.set? with
  | none => .ok (String.ofList (latin1 bytes))
  | some set =>
    if bytes = [] then .ok ""
    else match set.charset.decode bytes with
      | .ok cs => .ok (String.ofList cs)
      | .error .notText => .ok (String.ofList (latin1 bytes))
      | .error fault => .error (.refused set.name fault)

theorem read_nil (e : Encoding) : e.read [] = .ok "" := by
  simp only [read, if_true]
  cases e.set? <;> rfl

end Encoding
end OAuthGrant.Text

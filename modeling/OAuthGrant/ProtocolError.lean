import OAuthGrant.Model.Checked

/-!
# Protocol errors

The error a client is told: a code, and if there are any a description and a reference.
-/

namespace OAuthGrant

/-- An error as it is reported to the client. -/
structure ProtocolError where
  code : ErrorCode
  description : Option String := none
  uri : Option String := none
  deriving DecidableEq, Repr

namespace ProtocolError

/-- Reads an error from named data. -/
def ofFields (fields : Fields) : Checked ProtocolError :=
  ProtocolError.mk <$> Reader.required Reader.errorCode "error" fields
    <*> Reader.withDefault Reader.optionalText "error_description" none fields
    <*> Reader.withDefault Reader.optionalText "error_uri" none fields

/-- The entries of an error; what is absent is left out. -/
def body (e : ProtocolError) : Fields :=
  ("error", .text e.code.name) ::
    ([("error_description", e.description), ("error_uri", e.uri)].filterMap fun (name, value) =>
      value.map fun v => (name, .text v))

/-- The error for a failure that is no business of the client. -/
def unexpected : ProtocolError :=
  ⟨.serverError, some "An unexpected error occurred while processing the token request", none⟩

end ProtocolError

/-- The error of a refusal. A description or a reference that is no text is an issue. -/
def Refusal.toProtocolError (r : Refusal) : Checked ProtocolError :=
  ProtocolError.mk r.code <$> (Reader.optionalText r.description).within "error_description"
    <*> (Reader.optionalText r.uri).within "error_uri"

end OAuthGrant

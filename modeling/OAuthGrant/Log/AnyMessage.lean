import OAuthGrant.Failure
import OAuthGrant.Log.Message

/-!
# Messages made of any values

What a message is about may come as any value. A value that is not of the kind a message needs, and
one that cannot be written, is refused, and then there is no message. Where a dictionary may be left
out, every absent value counts as an empty one. Each function gives the message that is still to be
stamped with the time.
-/

namespace OAuthGrant.Log

def Component.ofValue (name : Value) : Except Failure Component := Component.mk <$> name.casedText

/-- What the log shows of fields that may be any value. -/
def sanitizeAny (fields : Value) : Except Failure Fields := sanitize <$> fields.entries

namespace Message

/-- The type of a message is looked up among the types that tell of success, unless the message is a
warning. -/
def checkedType (type : Value) : Severity → Except Failure Unit
  | .warning => .ok ()
  | .information => if type.isElement then .ok () else .error (.unhashable type.kind)

/-- A message from one party to another. What is left out of its fields need not be written. -/
def ofExchange (source destination type fields : Value) (severity : Severity) :
    Except Failure (Int → Message) := do
  checkedType type severity
  let source ← source.casedText
  let destination ← destination.casedText
  let type ← Failure.writing type.isWritable type.shown
  let fields ← fields.entries
  Failure.writing (Value.haveWritable (sanitize fields)) (exchange source destination type fields severity)

/-- A message whose parts are all of the kind it needs is the message of these parts, if its fields can be
written. -/
theorem ofExchange_text (source destination type : String) (fields : Fields) (severity : Severity) :
    ofExchange (.text source) (.text destination) (.text type) (.object fields) severity =
      Failure.writing (Value.haveWritable (sanitize fields))
        (exchange source destination type fields severity) := by
  cases severity <;> rfl

def ofHttpRequest (component : Component) (method path parameters headers : Value) :
    Except Failure (Int → Message) := do
  let parameters ← parameters.optionalEntries
  let headers ← headers.optionalEntries
  Failure.writing (Value.haveWritable (sanitize (requestFields method path parameters headers)))
    (httpRequest component method path parameters headers)

def detailsOf (details : Value) : Except Failure Fields :=
  if details.isPresent then
    match details with
    | .object fields => .ok fields
    | v => .error (.notMapping v.kind)
  else .ok []

def ofFailure (component : Component) (type message details : Value) :
    Except Failure (Int → Message) := do
  let details ← detailsOf details
  let fields := Fields.merge [("error_type", type), ("message", message)] details
  Failure.writing (Value.haveWritable (sanitize fields)) (failure component type message details)

def ofNote (component : Component) (message details : Value) : Except Failure (Int → Message) := do
  let message ← Failure.writing message.isWritable message.shown
  let details ← details.optionalEntries
  Failure.writing (Value.haveWritable details) (note component message details)

def ofStartup (component : Component) (port details : Value) : Except Failure (Int → Message) := do
  let port ← Failure.writing port.isWritable port
  let details ← details.optionalEntries
  Failure.writing (Value.haveWritable details) fun _ => startup component port details

end Message
end OAuthGrant.Log

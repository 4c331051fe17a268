import OAuthGrant.ProtocolError
import OAuthGrant.Service

/-!
# Reporting a failure

What a client is told of a failure. A refusal is reported as it is; any other failure goes to the
journal and the client learns no more than that there was one.
-/

namespace OAuthGrant
open Log (Component Message)

namespace Failure

def details (f : Failure) (text : String) : Fields :=
  [("exception_type", .text f.name), ("exception", .text text)]

def journalEntry (f : Failure) (text : String) (now : Int) : Message :=
  Message.failure .tokenEndpoint (.text "unexpected_failure")
    (.text "Unclassified failure while processing token request") (f.details text) now

/-- The error that a client is told. The journal is told of a failure inside, which has to have a text
for that; if it has none, what has come in the way is a failure of its own. -/
def report {σ : Type} (f : Failure) : Action σ ProtocolError :=
  match f.refusal? with
  | some r => r.toProtocolError.toExcept
  | none => do
    let text ← f.tell
    Action.log .tokenEndpoint (f.journalEntry text)
    return .unexpected

end Failure
end OAuthGrant

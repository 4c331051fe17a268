import OAuthGrant.Log.Palette
import OAuthGrant.Log.Sanitize
import OAuthGrant.Time.Timestamp
import OAuthGrant.Value.Show

/-!
# Log messages

A message is a list of lines. Most messages tell of an exchange between two parties: a header with
the time and the parties, the type of the message, one line for each field, and a separator. Only
`Message.exchange` sanitizes its fields; a note and a startup message show them as they are.
-/

namespace OAuthGrant.Log
open Time (Timestamp)

/-- How serious a message is. -/
inductive Severity where
  | information
  | warning
  deriving DecidableEq, Repr

/-- The number of a severity: the higher, the more serious. -/
def Severity.rank : Severity → Nat
  | information => 20
  | warning => 30

def Severity.name : Severity → String
  | information => "INFO"
  | warning => "WARNING"

/-- A party that takes part in exchanges and keeps a log. -/
structure Component where
  name : String
  deriving DecidableEq, Repr

namespace Component

def title (c : Component) : String := Text.upper c.name

def root : String := "oauth"

def channel (c : Component) : String := root ++ "." ++ Text.lower c.name

def client : Component := ⟨"CLIENT"⟩
def tokenEndpoint : Component := ⟨"TOKEN-ENDPOINT"⟩
def authority : Component := ⟨"AUTH-AUTHORITY"⟩
def storage : Component := ⟨"AUTH-STORAGE"⟩
def system : Component := ⟨"SYSTEM"⟩

end Component

/-- The lines of a message and how serious it is. -/
structure Message where
  severity : Severity
  lines : List String
  deriving DecidableEq, Repr

namespace Message

def text (m : Message) : String := "\n".intercalate m.lines

def separator : String := paint "SEPARATOR" (String.ofList (List.replicate 60 '-'))

def stamp (now : Int) : String := "[" ++ Timestamp.logText now.toNat ++ "]"

def fieldLine (name : String) (value : Value) : String :=
  "  " ++ paint "INFO" (name ++ ":") ++ " " ++ value.shown

/-- The lines of fields that are shown as they are. -/
def plainLines (indent : String) (fields : Fields) : List String :=
  fields.map fun (name, value) => indent ++ name ++ ": " ++ value.shown

def successTypes : List String := ["RESPONSE", "TOKEN-ISSUED", "SUCCESS"]

def typeColour (type : String) : Severity → String
  | .warning => "ERROR"
  | .information => if successTypes.contains type then "SUCCESS" else "INFO"

def header (now : Int) (source destination : String) : String :=
  colour "HEADER" ++ stamp now ++ " " ++ paint (Text.upper source) source ++ " → " ++
    paint (Text.upper destination) destination

/-- A message from one party to another. -/
def exchange (source destination type : String) (fields : Fields)
    (severity : Severity := .information) (now : Int) : Message :=
  ⟨severity, header now source destination ::
    paint (typeColour type severity) (type ++ ":") ::
      ((sanitize fields).map fun (name, value) => fieldLine name value) ++ [separator]⟩

/-- The names of headers whose values are left out. -/
def redactedHeaders : List String := ["authorization", "cookie", "x-api-key"]

def sanitizeHeaders (headers : Fields) : Fields :=
  headers.map fun (name, value) =>
    (name, if redactedHeaders.contains (Text.lower name) then redacted else value)

/-- The fields that tell of an HTTP request. A parameter of the same name replaces the method or the
path; parameters and headers are left out when there are none. -/
def requestFields (method path : Value) (parameters headers : Fields) : Fields :=
  let fields := Fields.merge [("method", method), ("path", path)] (sanitize parameters)
  if headers.isEmpty then fields
  else Fields.put "headers" (.object (sanitizeHeaders headers)) fields

def httpRequest (component : Component) (method path : Value) (parameters : Fields := [])
    (headers : Fields := []) (now : Int) : Message :=
  exchange Component.client.name component.title "HTTP-REQUEST"
    (requestFields method path parameters headers) .information now

def failure (component : Component) (type message : Value) (details : Fields := []) (now : Int) :
    Message :=
  exchange component.title "ERROR-HANDLER" "ERROR"
    (Fields.merge [("error_type", type), ("message", message)] details) .warning now

def note (component : Component) (message : String) (details : Fields := []) (now : Int) : Message :=
  ⟨.information, paint "INFO" (stamp now ++ " " ++ component.title ++ ": " ++ message) ::
    plainLines "  " details⟩

def startup (component : Component) (port : Value) (details : Fields := []) : Message :=
  ⟨.information, paint "SUCCESS" ("🚀 " ++ component.title ++ " started on port " ++ port.shown) ::
    plainLines "   " details ++ [separator]⟩

end Message
end OAuthGrant.Log

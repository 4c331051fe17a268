import OAuthGrant.AccessToken
import OAuthGrant.Http.Response
import OAuthGrant.Model.Assignment
import OAuthGrant.ProtocolError

/-!
# Token responses

The body of a successful response: the four standard entries, then the extensions of the token in
their order. An extension never replaces a standard entry, and entries without a value are left
out. `tokenResponse` and `errorResponse` are the only responses of a token endpoint; neither may be
cached.
-/

namespace OAuthGrant
open Http (Response)

mutual

/-- A value with everything replaced that JSON cannot hold: a number that is not finite becomes
null, and a value from outside the data formats is an error. So is a value inside more than `room - 1`
others, and a name with a surrogate. -/
def Value.jsonReady (room : Nat) (v : Value) : Except Failure Value :=
  match room, v with
  | 0, _ => .error .nestedTooDeep
  | _ + 1, .float x => .ok (if x.isFinite then .float x else .null)
  | room + 1, .list items => do .ok (.list (← Value.jsonReadyItems room items))
  | room + 1, .object fields => do .ok (.object (← Value.jsonReadyFields room fields))
  | _ + 1, .foreign kind _ => .error (.unserializable kind)
  | _ + 1, v => .ok v

def Value.jsonReadyItems (room : Nat) (items : List Value) : Except Failure (List Value) :=
  match items with
  | [] => .ok []
  | v :: rest => do .ok ((← v.jsonReady room) :: (← Value.jsonReadyItems room rest))

/-- The entries of a dictionary made ready for JSON. -/
def Value.jsonReadyFields (room : Nat) (fields : List (String × Value)) :
    Except Failure (List (String × Value)) :=
  match fields with
  | [] => .ok []
  | (name, v) :: rest =>
    match Text.Unencodable.inUtf8? name with
    | some characters => .error (.unencodable characters)
    | none => do .ok ((name, ← v.jsonReady room) :: (← Value.jsonReadyFields room rest))

end

/-- The number of values that may stand inside each other in an entry of a body. -/
def maxNesting : Nat := 255

/-- The body of a successful response as a model. -/
structure TokenResponse where
  accessToken : String
  tokenType : TokenType
  expiresIn : Int
  scope : Option String
  extensions : Fields

namespace TokenResponse

def standard : List String := ["access_token", "token_type", "expires_in", "scope"]

def nonStandard (fields : Fields) : Fields := fields.filter fun e => !standard.contains e.1

/-- Further entries, under names without surrogates. -/
def named (extensions : Fields) : Checked Fields :=
  if extensions.all fun e => Text.isWhole e.1 then .valid extensions else .fault .notUnicode

/-- Reads a response from named data; further entries are kept. -/
def ofFields (fields : Fields) : Checked TokenResponse :=
  (named (nonStandard fields)).andThen fun extensions =>
    (fun a t e s => TokenResponse.mk a t e s extensions)
      <$> Reader.required Reader.nonEmptyText "access_token" fields
      <*> Reader.withDefault Reader.tokenType "token_type" .bearer fields
      <*> Reader.required (Reader.integerFrom 0) "expires_in" fields
      <*> Reader.withDefault Reader.optionalText "scope" none fields

def modelName : String := "TokenResponse"

/-- A response takes any values under any names. -/
def assignable : Assignable := ⟨modelName, standard, .anyName⟩

def ofToken (t : AccessToken) : TokenResponse where
  accessToken := t.value
  tokenType := t.tokenType
  expiresIn := t.expiresIn
  scope := if t.scopes.text = "" then none else some t.scopes.text
  extensions := nonStandard t.extensions

/-- The standard entries of a response in order, absent ones as null. -/
def standardEntries (r : TokenResponse) : Fields :=
  [("access_token", .text r.accessToken), ("token_type", .text r.tokenType.name),
   ("expires_in", .int r.expiresIn), ("scope", .ofOption r.scope)]

def entries (r : TokenResponse) : Fields := r.standardEntries ++ r.extensions

/-- What a response holds: its standard entries and, apart from them, its extensions. -/
def holding (r : TokenResponse) : Holding := ⟨r.standardEntries, r.extensions⟩

/-- Whether an entry has a value. -/
def hasValue (entry : String × Value) : Bool :=
  match entry.2 with
  | .null => false
  | _ => true

/-- The body of a response: its entries that have a value, made ready for JSON. -/
def body (r : TokenResponse) : Except Failure Fields :=
  Value.jsonReadyFields maxNesting (r.entries.filter hasValue)

end TokenResponse

def noStoreHeaders : List (String × String) := [("Cache-Control", "no-store"), ("Pragma", "no-cache")]

/-- Headers under lower-case names. -/
def lowerNames (headers : List (String × String)) : List (String × String) :=
  headers.map fun h => (Text.lowerAscii h.1, h.2)

def tokenResponseBody (t : AccessToken) : Except Failure Fields := do
  let _ ← (TokenResponse.named (TokenResponse.ofToken t).extensions).toExcept
  (TokenResponse.ofToken t).body

def tokenResponse (t : AccessToken) : Except Failure Response :=
  match tokenResponseBody t with
  | .ok body => Response.ofJson 200 (lowerNames noStoreHeaders) (.object body)
  | .error f => .error f

def errorResponse (e : ProtocolError) : Except Failure Response :=
  Response.ofJson 400 (lowerNames noStoreHeaders) (.object e.body)

end OAuthGrant

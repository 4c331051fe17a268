import OAuthGrant.Model.Issue
import OAuthGrant.Terms
import OAuthGrant.Text.DecodingFault
import OAuthGrant.Text.Unencodable
import OAuthGrant.Value.Show

/-!
# Failures

Everything that can go wrong, by its cause. A `Refusal` is a failure with a protocol error code that
is reported to the client as it is; every other `Failure` is internal. `Failure.name` and
`Failure.text` are what a log shows of a failure. To ask a failure for its text can fail in turn:
`Failure.tell` says when.
-/

namespace OAuthGrant

/-- Who refuses a token request, and over what. -/
inductive Refusal.Source where
  | unspecified
  | parameter (name : String)
  | grantType (received : Value)
  | authority
  | missingClient

/-- A failure that carries its own error code. The description and the reference may be any value;
null means that there is none. -/
structure Refusal where
  source : Refusal.Source
  code : ErrorCode
  description : Value := .null
  uri : Value := .null

namespace Refusal

def parameterDescription : String := "OAuth 2.0 Parameter: "

/-- A parameter that is missing, repeated or not acceptable. -/
def parameter (name : String) (code : ErrorCode := .invalidRequest) : Refusal :=
  ⟨.parameter name, code, .text (parameterDescription ++ name), .null⟩

def unsupportedGrantType (received : Value) : Refusal :=
  ⟨.grantType received, .unsupportedGrantType, .text (parameterDescription ++ Param.grantType),
    .null⟩

def byAuthority (code : ErrorCode) (description : String) : Refusal :=
  ⟨.authority, code, .text description, .null⟩

def missingClient : Refusal :=
  ⟨.missingClient, .invalidClient, .text "Client authentication required", .null⟩

def isParameter (r : Refusal) : Bool :=
  match r.source with
  | .parameter _ => true
  | .grantType _ => true
  | _ => false

def parameterName? (r : Refusal) : Option String :=
  match r.source with
  | .parameter name => some name
  | .grantType _ => some Param.grantType
  | _ => none

/-- The text of a refusal: its description, or its code if there is none. -/
def text (r : Refusal) : String :=
  if r.description.isPresent then r.description.shown else r.code.name

/-- The name of a kind of refusal. -/
def name (r : Refusal) : String :=
  match r.source with
  | .unspecified => "OAuth2Error"
  | .parameter _ => "InvalidRequestParameterError"
  | .grantType _ => "UnsupportedGrantTypeError"
  | .authority => "OAuth2AuthenticationError"
  | .missingClient => "ClientIdentityMissingError"

end Refusal

/-- Why the body of a request could not be read as a form. -/
inductive FormFault where
  | noBoundary
  | noFieldName
  | malformed
  | tooManyFields
  | tooManyFiles
  | partTooLarge
  | undecodable (cause : Text.Undecodable)
  deriving DecidableEq, Repr

/-- The largest number of fields of a form. -/
def maxFields : Nat := 1000

/-- The largest number of files in a form. -/
def maxFiles : Nat := 1000

/-- The largest number of bytes of a field in a form of several parts. -/
def maxPartSize : Nat := 1024 * 1024

namespace FormFault

def wording : FormFault → String
  | noBoundary => "Missing boundary in multipart."
  | noFieldName => "The Content-Disposition header field \"name\" must be provided."
  | malformed => "Invalid multipart data."
  | tooManyFields => "Too many fields. Maximum number of fields is " ++ toString maxFields ++ "."
  | tooManyFiles => "Too many files. Maximum number of files is " ++ toString maxFiles ++ "."
  | partTooLarge => "Part exceeded maximum size of " ++ toString (maxPartSize / 1024) ++ "KB."
  | undecodable cause => cause.text

/-- The name of a form fault at an endpoint that is hosted or at one that is not. -/
def name (hosted : Bool) : FormFault → String
  | undecodable cause => cause.name
  | _ => if hosted then "HTTPException" else "MultiPartException"

/-- The text of a form fault: a hosted endpoint adds the status of its answer, but not to a failure to
read text. -/
def text (hosted : Bool) : FormFault → String
  | undecodable cause => cause.text
  | fault => if hosted then "400: " ++ fault.wording else fault.wording

end FormFault

/-- A failure, by its cause. -/
inductive Failure where
  | refused (r : Refusal)
  | invalid (issues : List Issue)
  | notIterable (kind : String)
  | unhashable (kind : String)
  | mixedOffsets
  | nameNotText (kind : String)
  | notAToken (kind : String)
  | durationNotNumeric (units kind : String)
  | lacks (kind method : String)
  | notMapping (kind : String)
  | unknownErrorCode (given : Value)
  | unknownLevel (name : String)
  | unknownField (model field : String)
  | computedField (model field : String)
  | sharedName (model field : String)
  | notWritable (model field : String)
  | entriesNotDictionary (field kind : String)
  | notClass (field kind : String)
  | noAuthority
  | noEndpointPath
  | durationNotANumber
  | durationInfinite
  | daysTooLarge
  | daysOutOfRange (days : Int)
  | dateOutOfRange
  | unserializable (kind : String)
  | nestedTooDeep
  | unencodable (characters : Text.Unencodable)
  | tooManyDigits
  | disconnected (arguments : List Value)
  | unreadableForm (hosted : Bool) (fault : FormFault)
  | raised (name : String) (arguments : List Value)
  | textless (name : String) (cause : Failure)

namespace Failure

/-- What is made of some values, unless they cannot be written. -/
def writing {α : Type} (writable : Bool) (made : α) : Except Failure α :=
  if writable then .ok made else .error .tooManyDigits

/-- The text of the arguments a failure was raised with, if they can be written. -/
def argumentsText (name : String) : List Value → String
  | [] => ""
  | [v] => if name = "KeyError" then v.quoted else v.shown
  | vs => Value.quotedTuple vs

/-- The name of a kind of failure. -/
def name : Failure → String
  | refused r => r.name
  | invalid _ => "ValidationError"
  | notIterable _ => "TypeError"
  | unhashable _ => "TypeError"
  | mixedOffsets => "TypeError"
  | nameNotText _ => "TypeError"
  | notAToken _ => "TypeError"
  | durationNotNumeric .. => "TypeError"
  | lacks .. => "AttributeError"
  | notMapping _ => "TypeError"
  | unknownErrorCode _ => "ValueError"
  | unknownLevel _ => "ValueError"
  | unknownField .. => "ValueError"
  | computedField .. => "AttributeError"
  | sharedName .. => "AttributeError"
  | notWritable .. => "AttributeError"
  | entriesNotDictionary .. => "TypeError"
  | notClass .. => "TypeError"
  | noAuthority => "ValueError"
  | noEndpointPath => "ValueError"
  | durationNotANumber => "ValueError"
  | durationInfinite => "OverflowError"
  | daysTooLarge => "OverflowError"
  | daysOutOfRange _ => "OverflowError"
  | dateOutOfRange => "OverflowError"
  | unserializable _ => "PydanticSerializationError"
  | nestedTooDeep => "ValueError"
  | unencodable _ => "UnicodeEncodeError"
  | tooManyDigits => "ValueError"
  | disconnected _ => "ClientDisconnect"
  | unreadableForm hosted fault => fault.name hosted
  | raised name _ => name
  | textless name _ => name

/-- The text of a failure, if it can be made. -/
def text : Failure → String
  | refused r => r.text
  | invalid issues => Issue.textAll issues
  | notIterable kind => "'" ++ kind ++ "' object is not iterable"
  | unhashable kind => "unhashable type: '" ++ kind ++ "'"
  | mixedOffsets => "can't compare offset-naive and offset-aware datetimes"
  | nameNotText kind => "can only concatenate str (not \"" ++ kind ++ "\") to str"
  | notAToken kind =>
    "Authentication authority returned " ++ kind ++ ", expected AccessTokenResult"
  | durationNotNumeric units kind =>
    "unsupported type for timedelta " ++ units ++ " component: " ++ kind
  | lacks kind method => "'" ++ kind ++ "' object has no attribute '" ++ method ++ "'"
  | notMapping kind => "'" ++ kind ++ "' object is not a mapping"
  | unknownErrorCode given => given.quoted ++ " is not a valid OAuthErrorCode"
  | unknownLevel name => "Unknown level: " ++ Text.quote name
  | unknownField model field =>
    "\"" ++ model ++ "\" object has no field \"" ++ field ++ "\""
  | computedField model field =>
    "property '" ++ field ++ "' of '" ++ model ++ "' object has no setter"
  | sharedName model field =>
    "'" ++ field ++ "' is a ClassVar of `" ++ model ++ "` and cannot be set on an instance. " ++
      "If you want to set a value on the class, use `" ++ model ++ "." ++ field ++ " = value`."
  | notWritable model field =>
    "attribute '" ++ field ++ "' of '" ++ model ++ "' objects is not writable"
  | entriesNotDictionary field kind =>
    field ++ " must be set to a dictionary, not a '" ++ kind ++ "'"
  | notClass field kind => field ++ " must be set to a class, not '" ++ kind ++ "' object"
  | noAuthority => "authentication_authority cannot be None"
  | noEndpointPath => "token_endpoint_uri cannot be empty"
  | durationNotANumber => "cannot convert float NaN to integer"
  | durationInfinite => "cannot convert float infinity to integer"
  | daysTooLarge => "Python int too large to convert to C int"
  | daysOutOfRange days => "days=" ++ toString days ++ "; must have magnitude <= 999999999"
  | dateOutOfRange => "date value out of range"
  | unserializable kind => "Unable to serialize unknown type: <class '" ++ kind ++ "'>"
  | nestedTooDeep => "Maximum serialization depth exceeded"
  | unencodable characters => characters.text
  | tooManyDigits =>
    "Exceeds the limit (" ++ toString Decimal.Numeral.maxDigits ++ " digits) for integer string " ++
      "conversion; use sys.set_int_max_str_digits() to increase the limit"
  | disconnected arguments => argumentsText "" arguments
  | unreadableForm hosted fault => fault.text hosted
  | raised name arguments => argumentsText name arguments
  | textless .. => ""

/-- Asks a failure for its text. This fails if the text is made of a number with too many digits, and if
the failure is of a kind that fails itself when it is asked. -/
def tell (f : Failure) : Except Failure String :=
  match f with
  | refused r => writing r.description.isWritable f.text
  | disconnected arguments => writing (Value.areWritable arguments) f.text
  | raised _ arguments => writing (Value.areWritable arguments) f.text
  | textless _ cause => .error cause
  | _ => .ok f.text

def refusal? : Failure → Option Refusal
  | refused r => some r
  | _ => none

/-- Whether the client went away. -/
def isDisconnect : Failure → Bool
  | disconnected _ => true
  | _ => false

end Failure

namespace Refusal

def codeOf (v : Value) : Except Failure ErrorCode :=
  match v with
  | .text s => match ErrorCode.ofName? s with
    | some code => .ok code
    | none => .error (.unknownErrorCode v)
  | _ => .error (if v.isWritable then .unknownErrorCode v else .tooManyDigits)

/-- A refusal that is not about a parameter, from any values. -/
def ofValues (source : Source) (code description uri : Value) : Except Failure Refusal :=
  (fun code => ⟨source, code, description, uri⟩) <$> codeOf code

def ofParameter (name code : Value) : Except Failure Refusal :=
  match name with
  | .text s => (fun code => parameter s code) <$> codeOf code
  | v => .error (.nameNotText v.kind)

end Refusal

namespace Value

/-- The entries of a value that has to be a dictionary. -/
def entries : Value → Except Failure Fields
  | object fields => .ok fields
  | v => .error (.lacks v.kind "items")

/-- The entries of a value that has to be a dictionary if it is present. -/
def optionalEntries (v : Value) : Except Failure Fields :=
  if v.isPresent then v.entries else .ok []

/-- The text of a value that has to be a text, because its case is changed. -/
def casedText : Value → Except Failure String
  | text s => .ok s
  | v => .error (.lacks v.kind "upper")

/-- The name by which something is looked up. A value that is no text names nothing, and one that
cannot be an element of a set cannot even be looked up. -/
def lookupName? (v : Value) : Except Failure (Option String) :=
  match v with
  | text s => .ok (some s)
  | v => if v.isElement then .ok none else .error (.unhashable v.kind)

@[simp] theorem entries_object (fields : Fields) : (object fields).entries = .ok fields := rfl

@[simp] theorem casedText_text (s : String) : (text s).casedText = .ok s := rfl

@[simp] theorem lookupName?_text (s : String) : (text s).lookupName? = .ok (some s) := rfl

end Value
end OAuthGrant

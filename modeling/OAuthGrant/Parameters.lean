import OAuthGrant.TokenRequest

/-!
# Request parameters

Parameters come as pairs in order, where a name may occur several times, or as a mapping from names
to a text or a list of values. `TokenRequest.ofParameters` reads them as a token request and reports
the first rule that is broken: first the grant type, then the client identifier, then the parameters
of that grant, and last the others.
-/

namespace OAuthGrant

inductive Parameters where
  | pairs (entries : List (String × Value))
  | mapping (fields : Fields)
  | other (value : Value)

namespace Parameters

/-- The values a mapping gives for a name. -/
def valuesOf : Value → Except Failure (List String)
  | .null => .ok []
  | .text s => .ok [s]
  | .list items => Failure.writing (Value.areWritable items) (items.map Value.shown)
  | .object fields => .ok (fields.map Prod.fst)
  | v => .error (.notIterable v.kind)

def values (p : Parameters) (name : String) : Except Failure (List String) :=
  match p with
  | pairs entries => .ok ((entries.filter fun e => e.1 == name).map fun e => e.2.shown)
  | mapping fields => valuesOf ((fields.find? name).getD .null)
  | other v => .error (.lacks v.kind "get")

/-- The refusal of a faulty parameter. -/
def faulty (name : String) : Failure := .refused (.parameter name)

def atMostOne (p : Parameters) (name : String) : Except Failure (Option String) := do
  match ← p.values name with
  | [] => .ok none
  | [s] => .ok (some s)
  | _ => .error (faulty name)

/-- The value of a parameter that must occur once and not be empty. -/
def exactlyOne (p : Parameters) (name : String) : Except Failure { s : String // s ≠ "" } := do
  match ← p.atMostOne name with
  | none => .error (faulty name)
  | some s => if h : s = "" then .error (faulty name) else .ok ⟨s, h⟩

/-- The single value of a parameter, which may be required. -/
def single (p : Parameters) (name : String) (required : Bool := false) :
    Except Failure (Option String) :=
  if required then (fun s => some s.1) <$> p.exactlyOne name else p.atMostOne name

def rejectRepeated (p : Parameters) : List String → Except Failure Unit
  | [] => .ok ()
  | name :: rest => do
    let _ ← p.atMostOne name
    p.rejectRepeated rest

/-- The parameters of a mapping from names to lists of texts. -/
def ofLists (lists : List (String × List String)) : Parameters :=
  mapping (lists.map fun (name, values) => (name, .list (values.map .text)))

end Parameters

namespace TokenRequest

def ofCodeParameters (p : Parameters) (clientId : Option String) : Except Failure TokenRequest := do
  let code ← p.exactlyOne Param.code
  let redirectUri ← p.atMostOne Param.redirectUri
  p.rejectRepeated [Param.scope]
  .ok { grantType := .authorizationCode, code := some code.1, redirectUri, clientId,
        codeRule := fun _ => code.2 }

def ofCredentialsParameters (p : Parameters) (clientId : Option String) :
    Except Failure TokenRequest := do
  let scope ← p.atMostOne Param.scope
  p.rejectRepeated [Param.code, Param.redirectUri]
  .ok { grantType := .clientCredentials, scope, clientId, codeRule := nofun }

def ofParameters (p : Parameters) : Except Failure TokenRequest := do
  let grantType ← p.exactlyOne Param.grantType
  match GrantType.ofName? grantType.1 with
  | none => .error (.refused (.unsupportedGrantType (.text grantType.1)))
  | some grant =>
    let clientId ← p.atMostOne Param.clientId
    match grant with
    | .authorizationCode => ofCodeParameters p clientId
    | .clientCredentials => ofCredentialsParameters p clientId

end TokenRequest
end OAuthGrant

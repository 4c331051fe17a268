import OAuthGrant.Endpoint
import OAuthGrant.Proofs.CodeHistory

/-!
# Runs that name their codes

Two runs of an endpoint with its store draw different codes, so that what is done in both can only be said
with names: a code that has been issued is named by the call that issued it. A step of a run names the
codes it uses, and a form names the codes that are sent in it. When a step is performed, the names are
replaced by the codes that have been issued in that run.
-/

namespace OAuthGrant
open Http (Form Request Response)
open Text (isWhole)

/-- The name of a code: a fixed text, or the number of the call that issued it, counted from zero. -/
inductive CodeName where
  | fixed (text : String)
  | issued (call : Nat)
  deriving DecidableEq

/-- The code of a name. A call that has issued no code stands for the empty text. -/
def CodeName.text (codes : List String) : CodeName → String
  | fixed text => text
  | issued call => codes.getD call ""

/-- What is issued by a call has a property of all codes that have been issued and of the empty text. -/
theorem getD_of_forall {P : String → Prop} {codes : List String} (hempty : P "") (h : ∀ c ∈ codes, P c)
    (call : Nat) : P (codes.getD call "") := by
  induction codes generalizing call with
  | nil => exact hempty
  | cons c codes ih =>
      cases call with
      | zero => exact h c List.mem_cons_self
      | succ call => exact ih (fun d hd => h d (List.mem_cons_of_mem c hd)) call

/-- An entry of a form: a fixed one, or the parameter `code` with a code that has been issued. -/
inductive NamedEntry where
  | fixed (name : String) (value : Value)
  | issued (call : Nat)

namespace NamedEntry

def name : NamedEntry → String
  | fixed name _ => name
  | issued _ => Param.code

def fill (codes : List String) : NamedEntry → String × Value
  | fixed name value => (name, value)
  | issued call => (Param.code, .text (codes.getD call ""))

def codeName? : NamedEntry → Option CodeName
  | fixed name value => if name = Param.code then some (.fixed value.shown) else none
  | issued call => some (.issued call)

@[simp] theorem fst_fill (codes : List String) (e : NamedEntry) : (e.fill codes).1 = e.name := by
  cases e <;> rfl

theorem fill_of_name_ne {e : NamedEntry} (h : e.name ≠ Param.code) (codes codes' : List String) :
    e.fill codes = e.fill codes' := by
  cases e with
  | fixed name value => rfl
  | issued call => exact absurd rfl h

/-- An entry gives a code if and only if it is the parameter `code`, and the code is its value. -/
theorem codeName?_of_name_eq {e : NamedEntry} (h : e.name = Param.code) (codes : List String) :
    ∃ c, e.codeName? = some c ∧ (e.fill codes).2.shown = c.text codes := by
  cases e with
  | fixed name value => exact ⟨_, if_pos h, rfl⟩
  | issued call => exact ⟨_, rfl, rfl⟩

theorem codeName?_of_name_ne {e : NamedEntry} (h : e.name ≠ Param.code) : e.codeName? = none := by
  cases e with
  | fixed name value => exact if_neg h
  | issued call => exact absurd rfl h

end NamedEntry

/-- A form that names its codes. -/
abbrev NamedForm := List NamedEntry

namespace NamedForm

def fill (codes : List String) (form : NamedForm) : Form := form.map (NamedEntry.fill codes)

def codeNames (form : NamedForm) : List CodeName := form.filterMap NamedEntry.codeName?

def values (codes : List String) (form : NamedForm) (name : String) : List String :=
  ((form.fill codes).filter fun e => e.1 == name).map fun e => e.2.shown

variable {codes codes' : List String} {form : NamedForm} {name : String}

theorem values_code : form.values codes Param.code = form.codeNames.map (CodeName.text codes) := by
  induction form with
  | nil => rfl
  | cons e rest ih =>
      unfold values fill codeNames at ih ⊢
      rw [List.map_cons, List.filter_cons, NamedEntry.fst_fill]
      by_cases hname : e.name = Param.code
      · obtain ⟨c, hc, hvalue⟩ := NamedEntry.codeName?_of_name_eq hname codes
        rw [hname, if_pos (beq_self_eq_true _), List.map_cons, ih, List.filterMap_cons_some hc,
          List.map_cons, hvalue]
      · rw [if_neg (by simpa using hname), ih,
          List.filterMap_cons_none (NamedEntry.codeName?_of_name_ne hname)]

theorem values_of_ne (h : name ≠ Param.code) : form.values codes name = form.values codes' name := by
  induction form with
  | nil => rfl
  | cons e rest ih =>
      unfold values fill at ih ⊢
      rw [List.map_cons, List.map_cons, List.filter_cons, List.filter_cons, NamedEntry.fst_fill,
        NamedEntry.fst_fill]
      by_cases hname : e.name = name
      · have hne : e.name ≠ Param.code := fun hcode => h (hname.symm.trans hcode)
        rw [if_pos (beq_iff_eq.mpr hname), if_pos (beq_iff_eq.mpr hname), List.map_cons, List.map_cons, ih,
          NamedEntry.fill_of_name_ne hne codes codes']
      · rw [if_neg (by simpa using hname), if_neg (by simpa using hname), ih]

def presented? (form : NamedForm) : Option CodeName :=
  if form.values [] Param.grantType = [GrantType.authorizationCode.name] then
    match form.codeNames with
    | [c] => some c
    | _ => none
  else none

theorem presented?_eq_some {c : CodeName} (hcodes : form.codeNames = [c])
    (hgrant : form.values codes Param.grantType = [GrantType.authorizationCode.name]) :
    form.presented? = some c := by
  have hne : Param.grantType ≠ Param.code := by decide
  rw [presented?, values_of_ne hne, if_pos hgrant, hcodes]

end NamedForm

/-- A request to the endpoint that names its codes: what comes before the body, the body for the codes that
have been issued, and the form that is read from it. The form has been read for all codes that are legible
in it, whatever they are. -/
structure Submission (hosted : Bool) (Legible : String → Prop) where
  head : Request
  chunks : List String → List (List UInt8)
  form : Except Failure NamedForm
  reads : ∀ codes, (∀ c ∈ codes, c = "" ∨ Legible c) →
    Form.ofRequest hosted { head with chunks := chunks codes } = form.map (NamedForm.fill codes)

namespace Submission

variable {hosted : Bool} {Legible : String → Prop}

/-- A request that uses no code which has been issued. -/
def ofRequest (r : Request) : Submission hosted Legible where
  head := r
  chunks := fun _ => r.chunks
  form := (Form.ofRequest hosted r).map fun form => form.map fun e => .fixed e.1 e.2
  reads := by
    intro codes _
    cases Form.ofRequest hosted r with
    | error f => rfl
    | ok form =>
        have hfill : NamedForm.fill codes (form.map fun e => .fixed e.1 e.2) = form := by
          rw [NamedForm.fill, List.map_map]
          exact List.map_id form
        exact congrArg Except.ok hfill.symm

def request (s : Submission hosted Legible) (codes : List String) : Request :=
  { s.head with chunks := s.chunks codes }

def presented? (s : Submission hosted Legible) : Option CodeName :=
  s.form.toOption.bind NamedForm.presented?

end Submission

def Http.Request.bodiless (r : Request) : Request := { r with chunks := [] }

/-- An endpoint with the authority that holds the codes. Who sent a request is found out from what comes
before its body, and finding out changes nothing. -/
structure Deployment where
  authority : InMemoryAuthority
  path : Option String
  identify : IdentityResolver CodeStore
  hosted : Bool
  find : Request → Except Failure (Option ClientIdentity)
  perform_identify : ∀ r s, (identify r).perform s = (find r.bodiless, s)

namespace Deployment

def endpoint (d : Deployment) : Endpoint CodeStore where
  path := d.path
  authority := d.authority.toAuthority
  identify := d.identify
  hosted := d.hosted

def clientInHeader (registry : ClientRegistry) (header : String) (r : Request) :
    Except Failure (Option ClientIdentity) :=
  (IdentityResolver.headerName header).map fun key =>
    (r.header? key).bind fun id => if id = "" then none else registry.find? id

def behindProxy (authority : InMemoryAuthority) (path : Option String) (hosted : Bool)
    (registry : ClientRegistry) (header : String) : Deployment where
  authority := authority
  path := path
  identify := IdentityResolver.ofHeader registry header
  hosted := hosted
  find := clientInHeader registry header
  perform_identify := by
    intro r s
    unfold IdentityResolver.ofHeader clientInHeader
    rw [Action.perform_bind, Action.perform_lift]
    cases IdentityResolver.headerName header with
    | error f => rfl
    | ok key =>
        have hheader : r.bodiless.header? key = r.header? key := rfl
        rw [Action.andThen_ok, Except.map, hheader]
        cases r.header? key <;> rfl

variable (d : Deployment) {Legible : String → Prop}

/-- Whether a request is sent by a client. -/
def sentBy (client : ClientIdentity) (s : Submission d.hosted Legible) : Bool :=
  match d.find s.head.bodiless with
  | .ok (some c) => c == client
  | _ => false

theorem find_of_sentBy {d : Deployment} {client : ClientIdentity} {s : Submission d.hosted Legible}
    (h : d.sentBy client s = true) : d.find s.head.bodiless = .ok (some client) := by
  unfold sentBy at h
  split at h
  · next c hc => rw [hc, beq_iff_eq.mp h]
  · cases h

end Deployment

/-- A step of a run: a call of the store or of the authority, a movement of the clock, or a request. -/
inductive Step (hosted : Bool) (Legible : String → Prop) where
  | issue (clientId scopes redirectUri : Value)
  | consume (code : CodeName)
  | cleanup
  | redeem (code : CodeName) (redirectUri : Option String) (client : ClientIdentity)
  | entitle (grant : CredentialsGrant)
  | advance (micros : Int)
  | submit (submission : Submission hosted Legible)

namespace Step

variable {hosted : Bool} {Legible : String → Prop}

def presented? : Step hosted Legible → Option CodeName
  | consume code => some code
  | redeem code _ _ => some code
  | submit s => s.presented?
  | _ => none

/-- Whom a code is issued to by a step that issues one. -/
def issuedTo? : Step hosted Legible → Option Value
  | issue clientId _ _ => some clientId
  | _ => none

end Step

/-- A run between two steps: the service, and what each call has issued. -/
structure Stage where
  service : Service CodeStore
  codes : List String

/-- What a call has issued, which is the empty text if it has failed. -/
def issuedBy (outcome : Except Failure String) : String := outcome.toOption.getD ""

namespace Deployment

variable (d : Deployment) {Legible : String → Prop}

/-- The request that is made by a step has been handled. -/
def handled (s : Submission d.hosted Legible) (stage : Stage) :
    Except Failure Response × Service CodeStore :=
  (d.endpoint.handle (s.request stage.codes)).perform stage.service

def next (step : Step d.hosted Legible) (stage : Stage) : Stage :=
  match step with
  | .issue clientId scopes redirectUri =>
      let result := (CodeStore.issue clientId scopes redirectUri).perform stage.service
      ⟨result.2, stage.codes ++ [issuedBy result.1]⟩
  | .consume code => ⟨((CodeStore.consume (code.text stage.codes)).perform stage.service).2, stage.codes⟩
  | .cleanup => ⟨(CodeStore.cleanup.perform stage.service).2, stage.codes⟩
  | .redeem code redirectUri client =>
      ⟨((d.authority.redeem ⟨code.text stage.codes, redirectUri, client⟩).perform stage.service).2,
        stage.codes⟩
  | .entitle grant => ⟨((d.authority.grantScopes grant).perform stage.service).2, stage.codes⟩
  | .advance micros => ⟨((Action.advance micros).perform stage.service).2, stage.codes⟩
  | .submit s => ⟨(d.handled s stage).2, stage.codes⟩

def stageAfter (steps : List (Step d.hosted Legible)) (stage : Stage) : Stage :=
  steps.foldl (fun stage step => d.next step stage) stage

/-- What a step replies to a client: the request that it makes in the name of the client, with the response
or the failure that comes of it. -/
def replyTo? (client : ClientIdentity) (step : Step d.hosted Legible) (stage : Stage) :
    Option (Submission d.hosted Legible × Except Failure Response) :=
  match step with
  | .submit s => if d.sentBy client s then some (s, (d.handled s stage).1) else none
  | _ => none

def repliesTo (client : ClientIdentity) :
    List (Step d.hosted Legible) → Stage → List (Submission d.hosted Legible × Except Failure Response)
  | [], _ => []
  | step :: rest, stage => (d.replyTo? client step stage).toList ++ repliesTo client rest (d.next step stage)

end Deployment
end OAuthGrant

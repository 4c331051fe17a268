import OAuthGrant.Endpoint
import OAuthGrant.Proofs.TokenLifetimes
import OAuthGrant.Proofs.ValidData
import OAuthGrant.Proofs.WholeJson

/-!
# Answers of the endpoint

What the endpoint answers is determined by the outcome of processing the request, a token or a failure:
`Endpoint.answer` is that function, and `perform_handle` says that nothing else has a say in it. The rest
of the module tells for which outcomes there is an answer at all.
-/

namespace OAuthGrant
open Http (Request Response)
open Text (isWhole)

/-- What a client is told of a failure. -/
def Failure.toProtocolError (f : Failure) : Except Failure ProtocolError :=
  match f.refusal? with
  | some r => r.toProtocolError.toExcept
  | none => f.tell.map fun _ => .unexpected

/-- Reporting a failure comes to what the client is told, and only writes to the journal. -/
theorem Failure.perform_report {σ : Type} (f : Failure) (s : Service σ) :
    ∃ journal, (f.report : Action σ ProtocolError).perform s = (f.toProtocolError, { s with journal }) := by
  unfold Failure.report Failure.toProtocolError
  cases f.refusal? with
  | some r => exact ⟨s.journal, rfl⟩
  | none =>
      dsimp only
      rw [Action.perform_bind, Action.perform_lift]
      cases f.tell with
      | error cause => exact ⟨s.journal, rfl⟩
      | ok text => exact ⟨_, rfl⟩

namespace Endpoint

variable {σ : Type}

def answer : Except Failure (ClientIdentity × AccessToken) → Except Failure Response
  | .ok (_, token) => tokenResponse token
  | .error f =>
      if f.isDisconnect then .error f
      else match f.toProtocolError with
        | .ok error => errorResponse error
        | .error f' => .error f'

/-- What follows the processing of a request answers its outcome, and only writes to the journal. -/
theorem perform_handle (e : Endpoint σ) (r : Request) (s : Service σ) :
    ∃ journal, (e.handle r).perform s =
      (answer ((e.process r).perform s).1, { ((e.process r).perform s).2 with journal }) := by
  rw [handle, Action.perform_bind, Action.perform_attempt, Action.andThen_ok]
  rcases (e.process r).perform s with ⟨out, t⟩
  cases out with
  | ok issued => exact ⟨_, rfl⟩
  | error f =>
      dsimp only [answer]
      rw [Action.perform_ite]
      split
      · exact ⟨_, rfl⟩
      · obtain ⟨journal, hreport⟩ := f.perform_report t
        rw [answerFailure, Action.perform_bind, hreport]
        cases f.toProtocolError with
        | error f' => exact ⟨journal, rfl⟩
        | ok error => exact ⟨_, rfl⟩

/-- The answer depends on nothing but the outcome. -/
theorem result_handle (e : Endpoint σ) (r : Request) (s : Service σ) :
    ((e.handle r).perform s).1 = answer ((e.process r).perform s).1 := by
  obtain ⟨journal, hhandle⟩ := e.perform_handle r s
  rw [hhandle]

/-- What follows the processing of a request leaves the stores as they are. -/
theorem state_handle (e : Endpoint σ) (r : Request) (s : Service σ) :
    ((e.handle r).perform s).2.state = ((e.process r).perform s).2.state := by
  obtain ⟨journal, hhandle⟩ := e.perform_handle r s
  rw [hhandle]

end Endpoint

/-- A JSON response that no cache keeps. -/
def noStoreResponse (status : Nat) (body : Fields) : Response :=
  Response.ofValue status (lowerNames noStoreHeaders) (.object body)

theorem Http.Response.sendable_eq_ok_iff {r r' : Response} :
    r.sendable = .ok r' ↔ isWhole r.body = true ∧ r' = r := by
  unfold Response.sendable
  rw [← Text.Unencodable.inUtf8?_eq_none_iff]
  cases Text.Unencodable.inUtf8? r.body with
  | none => simp [eq_comm]
  | some characters => simp

theorem ofJson_eq (status : Nat) (body : Fields) :
    Response.ofJson status (lowerNames noStoreHeaders) (.object body) =
      if Value.haveWritable body then (noStoreResponse status body).sendable
      else .error .tooManyDigits := by
  have hwritable : (Value.object body).isWritable = Value.haveWritable body := by rw [Value.isWritable]
  rw [Response.ofJson, hwritable, Failure.writing]
  split
  · rfl
  · rfl

/-- There is a response with a body if and only if its texts are whole and its numbers can be written. -/
theorem ofJson_eq_ok_iff {status : Nat} {body : Fields} {r : Response} :
    Response.ofJson status (lowerNames noStoreHeaders) (.object body) = .ok r ↔
      (Value.wholeFields body = true ∧ Value.haveWritable body = true) ∧
        r = noStoreResponse status body := by
  have hbody : (noStoreResponse status body).body = (Value.object body).json := rfl
  have hwhole : isWhole (noStoreResponse status body).body = Value.wholeFields body := by
    rw [hbody, Value.isWhole_json, Value.wholeTexts]
  rw [ofJson_eq]
  cases Value.haveWritable body with
  | false => simp
  | true => rw [if_pos rfl, Http.Response.sendable_eq_ok_iff, hwhole, and_iff_left rfl]

def entrySendable (entry : String × Value) : Bool :=
  isWhole entry.1 && entry.2.isSendable maxNesting

theorem haveSendable_eq_all (fields : Fields) :
    Value.haveSendable maxNesting fields = fields.all entrySendable := by
  induction fields with
  | nil => rfl
  | cons entry rest ih => rw [Value.haveSendable, ih, List.all_cons, entrySendable]

def AccessToken.isSendable (t : AccessToken) : Bool :=
  isWhole t.value && isWhole t.scopes.text &&
    Value.haveSendable maxNesting (TokenResponse.nonStandard t.extensions)

theorem isWhole_tokenTypeName (t : TokenType) : isWhole t.name = true := by
  cases t
  decide

/-- Entries without a value can be left out without changing whether all can be sent. -/
theorem all_filter_hasValue {fields : Fields} (h : fields.all (fun entry => isWhole entry.1) = true) :
    (fields.filter TokenResponse.hasValue).all entrySendable = fields.all entrySendable := by
  induction fields with
  | nil => rfl
  | cons entry rest ih =>
      rw [List.all_cons, Bool.and_eq_true] at h
      rw [List.filter_cons, List.all_cons]
      cases hvalue : TokenResponse.hasValue entry with
      | true => rw [if_pos rfl, List.all_cons, ih h.2]
      | false =>
          have hnull : entry.2 = .null := by
            unfold TokenResponse.hasValue at hvalue
            split at hvalue
            · assumption
            · cases hvalue
          have hsendable : entrySendable entry = true := by
            rw [entrySendable, h.1, hnull]
            rfl
          rw [if_neg Bool.false_ne_true, ih h.2, hsendable, Bool.true_and]

theorem all_standardEntries (t : AccessToken) :
    (TokenResponse.ofToken t).standardEntries.all entrySendable =
      (isWhole t.value && isWhole t.scopes.text) := by
  have hnames : isWhole "access_token" = true ∧ isWhole "token_type" = true ∧
      isWhole "expires_in" = true ∧ isWhole "scope" = true := by decide
  obtain ⟨h₁, h₂, h₃, h₄⟩ := hnames
  have hscope : (Value.ofOption (TokenResponse.ofToken t).scope).isSendable maxNesting =
      isWhole t.scopes.text := by
    unfold TokenResponse.ofToken
    dsimp only
    split
    · next h => rw [h]; rfl
    · rfl
  simp only [TokenResponse.standardEntries, List.all_cons, List.all_nil, entrySendable, h₁, h₂, h₃, h₄,
    hscope, Bool.true_and, Bool.and_true]
  change (isWhole t.value && (isWhole t.tokenType.name &&
    (Decimal.Numeral.isWritable t.expiresIn && isWhole t.scopes.text))) = _
  rw [isWhole_tokenTypeName, t.isWritable_expiresIn, Bool.true_and, Bool.true_and]

theorem isSendable_iff_body (t : AccessToken) :
    t.isSendable = true ↔
      ∃ body, tokenResponseBody t = .ok body ∧ Value.wholeFields body = true ∧
        Value.haveWritable body = true := by
  have hext : (TokenResponse.ofToken t).extensions = TokenResponse.nonStandard t.extensions := rfl
  rw [AccessToken.isSendable, haveSendable_eq_all, tokenResponseBody, TokenResponse.named, hext]
  cases hnames : (TokenResponse.nonStandard t.extensions).all fun entry => isWhole entry.1 with
  | false =>
      have hnot : (TokenResponse.nonStandard t.extensions).all entrySendable = false := by
        rw [Bool.eq_false_iff]
        intro hall
        rw [Bool.eq_false_iff] at hnames
        refine hnames (List.all_eq_true.mpr fun entry hentry => ?_)
        exact (Bool.and_eq_true_iff.mp (List.all_eq_true.mp hall entry hentry)).1
      rw [hnot]
      simp [Checked.fault, bind, Except.bind]
  | true =>
      have hall : (TokenResponse.ofToken t).entries.all (fun entry => isWhole entry.1) = true := by
        rw [TokenResponse.entries, List.all_append, hext, hnames, Bool.and_true]
        simp only [TokenResponse.standardEntries, List.all_cons, List.all_nil]
        decide
      have hbody := Value.haveSendable_iff maxNesting
        ((TokenResponse.ofToken t).entries.filter TokenResponse.hasValue)
      rw [haveSendable_eq_all, all_filter_hasValue hall, TokenResponse.entries, List.all_append,
        all_standardEntries, hext] at hbody
      rw [hbody]
      rfl

/-- A token has a response if and only if it can be written into one, and the response is the one with
its body. -/
theorem tokenResponse_eq_ok_iff {t : AccessToken} {r : Response} :
    tokenResponse t = .ok r ↔
      t.isSendable = true ∧ ∃ body, tokenResponseBody t = .ok body ∧ r = noStoreResponse 200 body := by
  rw [isSendable_iff_body, tokenResponse]
  cases tokenResponseBody t with
  | error f => simp
  | ok body =>
      change Response.ofJson 200 (lowerNames noStoreHeaders) (.object body) = .ok r ↔ _
      rw [ofJson_eq_ok_iff]
      simp

def Value.isWholeOption : Value → Bool
  | .null => true
  | .text s => isWhole s
  | _ => false

def Refusal.isReportable (r : Refusal) : Bool := r.description.isWholeOption && r.uri.isWholeOption

def Failure.isReportable (f : Failure) : Bool :=
  match f.refusal? with
  | some r => r.isReportable
  | none => !f.isDisconnect && f.tell.isOk

theorem isWhole_errorCodeName (c : ErrorCode) : isWhole c.name = true := by
  cases c <;> decide

theorem Value.isWholeOption_iff {v : Value} :
    v.isWholeOption = true ↔ ∃ o : Option String, v = .ofOption o ∧ o.all isWhole = true := by
  constructor
  · intro h
    cases v with
    | null => exact ⟨none, rfl, rfl⟩
    | text s => exact ⟨some s, rfl, h⟩
    | _ => cases h
  · rintro ⟨o, rfl, h⟩
    cases o with
    | none => rfl
    | some s => exact h

theorem Refusal.toProtocolError_eq_ok_iff {r : Refusal} {error : ProtocolError} :
    r.toProtocolError.toExcept = .ok error ↔
      error.code = r.code ∧ r.description = .ofOption error.description ∧
        r.uri = .ofOption error.uri := by
  simp only [Refusal.toProtocolError, Checked.toExcept_eq_ok_iff, Checked.seq_eq_valid_iff,
    Checked.map_eq_valid_iff, Checked.within_eq_valid_iff, Reader.optionalText_eq_valid_iff]
  constructor
  · rintro ⟨g, uri, ⟨description, hdescription, rfl⟩, huri, rfl⟩
    exact ⟨rfl, hdescription, huri⟩
  · rintro ⟨hcode, hdescription, huri⟩
    refine ⟨_, error.uri, ⟨error.description, hdescription, rfl⟩, huri, ?_⟩
    rw [← hcode]

theorem wholeFields_errorBody (error : ProtocolError) :
    Value.wholeFields error.body = (error.description.all isWhole && error.uri.all isWhole) := by
  have hnames : isWhole "error" = true ∧ isWhole "error_description" = true ∧
      isWhole "error_uri" = true := by decide
  obtain ⟨h₁, h₂, h₃⟩ := hnames
  obtain ⟨code, description, uri⟩ := error
  cases description <;> cases uri <;>
    simp [ProtocolError.body, Value.wholeFields, Value.wholeTexts, h₁, h₂, h₃, isWhole_errorCodeName]

theorem isWhole_unexpected : (ProtocolError.unexpected.description.all isWhole &&
    ProtocolError.unexpected.uri.all isWhole) = true := by decide

theorem haveWritable_errorBody (error : ProtocolError) : Value.haveWritable error.body = true := by
  obtain ⟨code, description, uri⟩ := error
  cases description <;> cases uri <;> rfl

def refusalBody (code : ErrorCode) (description : String) : Fields :=
  [("error", .text code.name), ("error_description", .text description)]

theorem toProtocolError_byAuthority (code : ErrorCode) (description : String) :
    (Failure.refused (.byAuthority code description)).toProtocolError =
      .ok ⟨code, some description, none⟩ := rfl

theorem errorResponse_eq_ok_iff {error : ProtocolError} {r : Response} :
    errorResponse error = .ok r ↔
      (error.description.all isWhole && error.uri.all isWhole) = true ∧
        r = noStoreResponse 400 error.body := by
  rw [← wholeFields_errorBody, errorResponse, ofJson_eq_ok_iff, haveWritable_errorBody]
  simp

theorem Failure.isReportable_iff {f : Failure} :
    f.isReportable = true ↔ f.isDisconnect = false ∧
      ∃ error, f.toProtocolError = .ok error ∧
        (error.description.all isWhole && error.uri.all isWhole) = true := by
  unfold Failure.isReportable Failure.toProtocolError
  cases hrefusal : f.refusal? with
  | none =>
      rw [Bool.and_eq_true]
      constructor
      · rintro ⟨hthere, htext⟩
        cases htell : f.tell with
        | error cause => rw [htell] at htext; cases htext
        | ok text => exact ⟨by simpa using hthere, .unexpected, rfl, isWhole_unexpected⟩
      · rintro ⟨hthere, error, htold, -⟩
        refine ⟨by simpa using hthere, ?_⟩
        cases htell : f.tell with
        | error cause => rw [htell] at htold; cases htold
        | ok text => rfl
  | some r =>
      have hthere : f.isDisconnect = false := by
        cases f with
        | refused r => rfl
        | _ => cases hrefusal
      simp only [hthere, true_and, Refusal.toProtocolError_eq_ok_iff, Refusal.isReportable,
        Bool.and_eq_true, Value.isWholeOption_iff]
      constructor
      · rintro ⟨⟨description, hd, hdwhole⟩, ⟨uri, hu, huwhole⟩⟩
        exact ⟨⟨r.code, description, uri⟩, ⟨rfl, hd, hu⟩, hdwhole, huwhole⟩
      · rintro ⟨error, ⟨-, hd, hu⟩, hdwhole, huwhole⟩
        exact ⟨⟨error.description, hd, hdwhole⟩, ⟨error.uri, hu, huwhole⟩⟩

namespace Endpoint

def isAnswerable : Except Failure (ClientIdentity × AccessToken) → Bool
  | .ok (_, token) => token.isSendable
  | .error f => f.isReportable

/-- Every answer is a token response of status 200 or an error response of status 400. -/
theorem answer_eq_ok_iff {out : Except Failure (ClientIdentity × AccessToken)} {r : Response} :
    answer out = .ok r ↔ isAnswerable out = true ∧
      ((∃ client token body, out = .ok (client, token) ∧ tokenResponseBody token = .ok body ∧
          r = noStoreResponse 200 body) ∨
        ∃ f error, out = .error f ∧ f.toProtocolError = .ok error ∧
          r = noStoreResponse 400 error.body) := by
  cases out with
  | ok issued =>
      obtain ⟨client, token⟩ := issued
      rw [answer, tokenResponse_eq_ok_iff, isAnswerable]
      constructor
      · rintro ⟨hsendable, body, hbody, hr⟩
        exact ⟨hsendable, .inl ⟨client, token, body, rfl, hbody, hr⟩⟩
      · rintro ⟨hsendable, ⟨_, _, body, hissued, hbody, hr⟩ | ⟨_, _, hissued, -⟩⟩
        · cases hissued
          exact ⟨hsendable, body, hbody, hr⟩
        · cases hissued
  | error f =>
      rw [isAnswerable, Failure.isReportable_iff, answer]
      cases f.isDisconnect with
      | true => simp
      | false =>
          cases herror : f.toProtocolError with
          | error f' => simp [herror]
          | ok error =>
              have h : errorResponse error = .ok r ↔ _ := errorResponse_eq_ok_iff
              simpa [herror] using h

theorem isAnswerable_iff {out : Except Failure (ClientIdentity × AccessToken)} :
    isAnswerable out = true ↔ ∃ r, answer out = .ok r := by
  constructor
  · intro h
    cases out with
    | ok issued =>
        obtain ⟨client, token⟩ := issued
        obtain ⟨body, hbody, -⟩ := (isSendable_iff_body token).mp h
        exact ⟨_, answer_eq_ok_iff.mpr ⟨h, .inl ⟨client, token, body, rfl, hbody, rfl⟩⟩⟩
    | error f =>
        obtain ⟨-, error, herror, -⟩ := Failure.isReportable_iff.mp h
        exact ⟨_, answer_eq_ok_iff.mpr ⟨h, .inr ⟨f, error, rfl, herror, rfl⟩⟩⟩
  · rintro ⟨r, h⟩
    exact (answer_eq_ok_iff.mp h).1

theorem answer_of_isReportable {f : Failure} (h : f.isReportable = true) :
    ∃ error, f.toProtocolError = .ok error ∧
      answer (.error f) = .ok (noStoreResponse 400 error.body) := by
  obtain ⟨-, error, herror, -⟩ := Failure.isReportable_iff.mp h
  exact ⟨error, herror, answer_eq_ok_iff.mpr ⟨h, .inr ⟨f, error, rfl, herror, rfl⟩⟩⟩

/-- A failure inside is answered without any detail, if it has a text for the journal. -/
theorem answer_of_inside {f : Failure} (hrefusal : f.refusal? = none) (hthere : f.isDisconnect = false) :
    answer (.error f) = f.tell.map fun _ => noStoreResponse 400 ProtocolError.unexpected.body := by
  rw [answer, hthere, if_neg Bool.false_ne_true, Failure.toProtocolError, hrefusal]
  cases f.tell with
  | error cause => rfl
  | ok text => exact errorResponse_eq_ok_iff.mpr ⟨isWhole_unexpected, rfl⟩

theorem answer_byAuthority_eq_ok_iff (code : ErrorCode) {description : String} {r : Response} :
    answer (.error (.refused (.byAuthority code description))) = .ok r ↔
      isWhole description = true ∧ r = noStoreResponse 400 (refusalBody code description) := by
  have hthere : (Failure.refused (.byAuthority code description)).isDisconnect = false := rfl
  rw [answer, hthere, if_neg Bool.false_ne_true, toProtocolError_byAuthority]
  have h : errorResponse ⟨code, some description, none⟩ = .ok r ↔ _ := errorResponse_eq_ok_iff
  rw [Option.all_some, Option.all_none, Bool.and_true] at h
  exact h

theorem answer_byAuthority_of_isWhole (code : ErrorCode) {description : String}
    (h : isWhole description = true) :
    answer (.error (.refused (.byAuthority code description))) =
      .ok (noStoreResponse 400 (refusalBody code description)) :=
  (answer_byAuthority_eq_ok_iff code).mpr ⟨h, rfl⟩

end Endpoint
end OAuthGrant

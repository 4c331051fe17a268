import OAuthGrant.Proofs.EndpointAnswer

/-!
# The statuses of the endpoint

A request for the endpoint is answered with status 200 or 400, or its handling ends with a failure that
no one answers. It ends so exactly if the client has gone away, a token cannot be written into a body, a
refusal cannot be told to the client, or a failure inside cannot be told to the journal.
-/

namespace OAuthGrant
open Http (Request Response)

namespace Endpoint

variable {σ : Type}

/-- A request for the endpoint has an answer if and only if its outcome is answerable. Every answer is a
JSON response of status 200 or 400, and a failure that is no refusal is answered as a server error if it
has a text. If it has none, what has come in the way of the text escapes. See `Text.isStandIn` for texts this
says nothing of. -/
theorem answered_iff_isAnswerable (e : Endpoint σ) (next : Request → Action σ Response) {r : Request}
    (hr : e.accepts r = true) (s : Service σ) :
    ((∃ response, ((e.around next r).perform s).1 = .ok response) ↔
      isAnswerable ((e.process r).perform s).1 = true) ∧
    (∀ response, ((e.around next r).perform s).1 = .ok response →
      ∃ status body, (status = 200 ∨ status = 400) ∧ response = noStoreResponse status body) ∧
    (∀ f, ((e.process r).perform s).1 = .error f → f.refusal? = none → f.isDisconnect = false →
      ((e.around next r).perform s).1 =
        f.tell.map fun _ => noStoreResponse 400 ProtocolError.unexpected.body) := by
  have hresult : ((e.around next r).perform s).1 = answer ((e.process r).perform s).1 := by
    rw [around, if_pos hr, result_handle]
  rw [hresult]
  refine ⟨isAnswerable_iff.symm, ?_, ?_⟩
  · intro response h
    obtain ⟨-, hcases⟩ := answer_eq_ok_iff.mp h
    rcases hcases with ⟨_, _, body, -, -, hbody⟩ | ⟨_, error, -, -, hbody⟩
    · exact ⟨200, body, .inl rfl, hbody⟩
    · exact ⟨400, error.body, .inr rfl, hbody⟩
  · intro f hf hrefusal hthere
    rw [hf]
    exact answer_of_inside hrefusal hthere

def replying (reply : Except Failure Reply) : Endpoint Unit where
  path := some "/token"
  authority := fun _ => liftM reply
  identify := fun _ => pure (some ⟨"app", .empty, [], .every⟩)

def sampleRequest : Request where
  method := "POST"
  path := "/token"
  headers := [("content-type", "application/x-www-form-urlencoded")]
  chunks := ["grant_type=client_credentials".toUTF8.toList]

def sampleToken (extension : Value) : AccessToken where
  tokenType := .bearer
  value := "t"
  issuedAt := .utc 0
  expiresAt := .utc 60000000
  scopes := .empty
  extensions := [("x", extension)]
  value_ne := by decide
  comparable := by decide
  expiresLater := by decide

def sampleService : Service Unit := { now := 0, random := fun _ _ => "", state := () }

def longFailure : Failure := .raised "RuntimeError" [.int (10 ^ 4300)]

theorem tell_longFailure : longFailure.tell = .error .tooManyDigits := by
  have hlong : Value.areWritable [.int (10 ^ 4300)] = false := by decide +kernel
  rw [longFailure, Failure.tell, hlong]
  rfl

/-- A token with a short number is answered with, and so is a failure that the endpoint knows nothing of.
If the number is too long, a token with it has no answer, and neither has a failure with it. -/
theorem replying_answered :
    (∃ response, (((replying (.ok (.token (sampleToken (.int 1))))).around (fun _ => throw .noAuthority)
      sampleRequest).perform sampleService).1 = .ok response) ∧
    (((replying (.error (.raised "RuntimeError" [.int 1]))).around (fun _ => throw .noAuthority)
      sampleRequest).perform sampleService).1 =
        .ok (noStoreResponse 400 ProtocolError.unexpected.body) ∧
    (¬ ∃ response, (((replying (.ok (.token (sampleToken (.int (10 ^ 4300)))))).around
      (fun _ => throw .noAuthority) sampleRequest).perform sampleService).1 = .ok response) ∧
    (((replying (.error longFailure)).around (fun _ => throw .noAuthority)
      sampleRequest).perform sampleService).1 = .error .tooManyDigits := by
  refine ⟨?_, ?_, ?_, ?_⟩
  · exact (answered_iff_isAnswerable _ _ (by decide +kernel) sampleService).1.mpr (by decide +kernel)
  · exact (answered_iff_isAnswerable _ _ (by decide +kernel) sampleService).2.2
      (.raised "RuntimeError" [.int 1]) (by with_unfolding_all rfl) rfl rfl
  · intro hanswered
    have hlong := (answered_iff_isAnswerable _ _ (by decide +kernel) sampleService).1.mp hanswered
    exact absurd hlong (by decide +kernel)
  · rw [(answered_iff_isAnswerable _ _ (by decide +kernel) sampleService).2.2 longFailure
      (by with_unfolding_all rfl) rfl rfl, tell_longFailure]
    rfl

/-- A token with an extension that JSON cannot hold is issued, but the failure to write it escapes. -/
theorem foreign_extension_escapes :
    (replying (.ok (.token (sampleToken (.foreign "object" "<object>"))))).accepts sampleRequest = true ∧
    (∃ issued, (((replying (.ok (.token (sampleToken (.foreign "object" "<object>"))))).process
      sampleRequest).perform sampleService).1 = .ok issued) ∧
    (((replying (.ok (.token (sampleToken (.foreign "object" "<object>"))))).around
      (fun _ => throw .noAuthority) sampleRequest).perform sampleService).1 =
        .error (.unserializable "object") := by
  refine ⟨by decide +kernel, ⟨_, by with_unfolding_all rfl⟩, by with_unfolding_all rfl⟩

end Endpoint
end OAuthGrant

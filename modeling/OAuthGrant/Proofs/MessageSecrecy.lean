import OAuthGrant.Proofs.SanitizedFields

/-!
# Messages tell no secrets

Dictionaries that differ only in secrets, and in what follows the first ten characters of tokens and codes,
make the same messages. Such dictionaries are exactly those that look the same when they are sanitized.
-/

namespace OAuthGrant.Log

/-- That two texts agree in their first ten characters and in whether they are longer. -/
structure SameOpening (s t : String) : Prop where
  take : s.toList.take 10 = t.toList.take 10
  long_iff : 10 < s.length ↔ 10 < t.length

theorem sameOpening_iff (s t : String) : SameOpening s t ↔ cutText s = cutText t := by
  constructor
  · intro h
    rcases Nat.lt_or_ge cutLength s.length with hs | hs
    · have ht : cutLength < t.length := h.long_iff.mp hs
      have htake : s.toList.take cutLength = t.toList.take cutLength := h.take
      rw [cutText_of_lt hs, cutText_of_lt ht, htake]
    · have ht : t.length ≤ cutLength := Nat.not_lt.mp fun hlong => Nat.not_lt.mpr hs (h.long_iff.mpr hlong)
      -- Nothing is left out of either text, so that they are equal.
      have htexts : s.toList = t.toList := by
        have htake := h.take
        rwa [List.take_of_length_le (String.length_toList ▸ hs),
          List.take_of_length_le (String.length_toList ▸ ht)] at htake
      rw [String.toList_inj.mp htexts]
  · intro h
    constructor
    · have hs : (cutText s).toList.take 10 = s.toList.take 10 := take_cutText s
      have ht : (cutText t).toList.take 10 = t.toList.take 10 := take_cutText t
      rw [← hs, ← ht, h]
    · have hs : 10 < (cutText s).length ↔ 10 < s.length := lt_length_cutText_iff
      have ht : 10 < (cutText t).length ↔ 10 < t.length := lt_length_cutText_iff
      rw [← hs, ← ht, h]

/-- That two entries have the same name, and the same value unless it is that of a secret or of a token. The
value of a secret may be any other, and in that of a token the texts may be any others that begin alike. -/
inductive SameButSecrets : String × Value → String × Value → Prop
  | same (e : String × Value) : SameButSecrets e e
  | secret {name : String} {v w : Value} (h : NamesSecret name) : SameButSecrets (name, v) (name, w)
  | token {name : String} {v w : Value} (h : NamesToken name) (sameShape : v.SameShape SameOpening w) :
      SameButSecrets (name, v) (name, w)

theorem apply_eq_apply_iff {name : String} {v w : Value} :
    (exposure name).apply v = (exposure name).apply w ↔ SameButSecrets (name, v) (name, w) := by
  by_cases hsecret : NamesSecret name
  · rw [exposure_of_namesSecret hsecret]
    exact ⟨fun _ => .secret hsecret, fun _ => rfl⟩
  · by_cases htoken : NamesToken name
    · rw [exposure_of_namesToken hsecret htoken]
      constructor
      · intro h
        exact .token htoken ((cut_eq_cut_iff sameOpening_iff v w).mp h)
      · intro h
        cases h with
        | same _ => rfl
        | secret h => exact absurd h hsecret
        | token _ hshape => exact (cut_eq_cut_iff sameOpening_iff v w).mpr hshape
    · rw [exposure_of_others hsecret htoken]
      constructor
      · intro h
        have hvalues : v = w := h
        rw [hvalues]
        exact .same _
      · intro h
        cases h with
        | same _ => rfl
        | secret h => exact absurd h hsecret
        | token h _ => exact absurd h htoken

theorem SameButSecrets.name_eq {e e' : String × Value} (h : SameButSecrets e e') : e.1 = e'.1 := by
  cases h <;> rfl

/-- Sanitizing leaves the same of two dictionaries if and only if they differ in nothing but secrets. -/
theorem sanitize_eq_sanitize_iff {fields fields' : Fields} :
    sanitize fields = sanitize fields' ↔ List.Forall₂ SameButSecrets fields fields' := by
  induction fields generalizing fields' with
  | nil => cases fields' <;> simp [sanitize]
  | cons e rest ih =>
      cases fields' with
      | nil => simp [sanitize]
      | cons e' rest' =>
          obtain ⟨name, v⟩ := e
          obtain ⟨name', w⟩ := e'
          rw [sanitize_cons, sanitize_cons, List.cons.injEq, List.forall₂_cons, Prod.mk.injEq, ih]
          constructor
          · rintro ⟨⟨rfl, hvalues⟩, hrest⟩
            exact ⟨apply_eq_apply_iff.mp hvalues, hrest⟩
          · rintro ⟨hentry, hrest⟩
            obtain rfl : name = name' := hentry.name_eq
            exact ⟨⟨rfl, apply_eq_apply_iff.mpr hentry⟩, hrest⟩

/-- That two headers have the same name, and the same value unless they hold credentials. -/
inductive SameButCredentials : String × Value → String × Value → Prop
  | same (e : String × Value) : SameButCredentials e e
  | credentials {name : String} {v w : Value}
      (h : Text.lower name ∈ ["authorization", "cookie", "x-api-key"]) :
      SameButCredentials (name, v) (name, w)

theorem sanitizeHeaders_cons (e : String × Value) (rest : Fields) :
    Message.sanitizeHeaders (e :: rest) =
      (e.1, if Message.redactedHeaders.contains (Text.lower e.1) then redacted else e.2) ::
        Message.sanitizeHeaders rest := rfl

theorem sanitizeHeaders_eq {headers headers' : Fields}
    (h : List.Forall₂ SameButCredentials headers headers') :
    Message.sanitizeHeaders headers = Message.sanitizeHeaders headers' := by
  induction h with
  | nil => rfl
  | @cons e e' rest rest' hentry _ ih =>
      cases hentry with
      | same _ => rw [sanitizeHeaders_cons, sanitizeHeaders_cons, ih]
      | @credentials name v w hname =>
          have hcontains : Message.redactedHeaders.contains (Text.lower name) = true :=
            List.contains_iff_mem.mpr hname
          rw [sanitizeHeaders_cons, sanitizeHeaders_cons, ih, if_pos hcontains, if_pos hcontains]

/-- Dictionaries look the same when they are sanitized if and only if they differ in nothing but secrets.
Then they make the same messages, whoever exchanges them, of whatever type, with whatever success and at
whatever time. The same is true of the parameters of a request, and of its headers if they differ in nothing
but credentials. -/
theorem messages_tell_no_secrets (fields fields' : Fields) :
    (sanitize fields = sanitize fields' ↔ List.Forall₂ SameButSecrets fields fields') ∧
    (List.Forall₂ SameButSecrets fields fields' →
      (∀ (source destination type : String) (severity : Severity) (now : Int),
        Message.exchange source destination type fields severity now =
          Message.exchange source destination type fields' severity now) ∧
      ∀ headers headers', List.Forall₂ SameButCredentials headers headers' →
        ∀ (component : Component) (method path : Value) (now : Int),
          Message.httpRequest component method path fields headers now =
            Message.httpRequest component method path fields' headers' now) := by
  refine ⟨sanitize_eq_sanitize_iff, ?_⟩
  intro hfields
  have hsanitized : sanitize fields = sanitize fields' := sanitize_eq_sanitize_iff.mpr hfields
  constructor
  · intro source destination type severity now
    rw [Message.exchange_congr hsanitized]
  · intro headers headers' hheaders component method path now
    rw [Message.httpRequest_congr hsanitized (sanitizeHeaders_eq hheaders)]

/-- Fields with a secret, a list that a code stands in and an error code. -/
def secretFields (secret : Value) (code : String) : Fields :=
  [("Client_Secret", secret), ("CODE", .list [.text code, .list [.text "short"]]),
   ("error_code", .text "invalid_grant")]

/-- Headers with a cookie. -/
def cookieHeaders (cookie : String) : Fields := [("Cookie", .text cookie), ("Accept", .text "*/*")]

/-- Two secrets of different kinds, two codes of different lengths and two cookies make the same messages. -/
theorem secretFields_untold :
    List.Forall₂ SameButSecrets (secretFields (.int 1) "0123456789a") (secretFields .null "0123456789bc") ∧
    List.Forall₂ SameButCredentials (cookieHeaders "a") (cookieHeaders "b") ∧
    Message.exchange "CLIENT" "SYSTEM" "ERROR" (secretFields (.int 1) "0123456789a") .warning 0 =
      Message.exchange "CLIENT" "SYSTEM" "ERROR" (secretFields .null "0123456789bc") .warning 0 ∧
    Message.httpRequest .client (.text "GET") (.text "/") (secretFields (.int 1) "0123456789a")
        (cookieHeaders "a") 0 =
      Message.httpRequest .client (.text "GET") (.text "/") (secretFields .null "0123456789bc")
        (cookieHeaders "b") 0 := by
  have hsecret : NamesSecret "Client_Secret" := namesSecret_iff.mp (by decide +kernel)
  have htoken : NamesToken "CODE" := namesToken_iff.mp (by decide +kernel)
  have hcodes : SameOpening "0123456789a" "0123456789bc" := ⟨by decide, by decide⟩
  have hlists : (Value.list [.text "0123456789a", .list [.text "short"]]).SameShape SameOpening
      (.list [.text "0123456789bc", .list [.text "short"]]) := by
    refine .list (.cons (.text hcodes) (.cons (.list (.cons (.text ?_) .nil)) .nil))
    exact ⟨rfl, Iff.rfl⟩
  have hfields : List.Forall₂ SameButSecrets (secretFields (.int 1) "0123456789a")
      (secretFields .null "0123456789bc") :=
    .cons (.secret hsecret) (.cons (.token htoken hlists) (.cons (.same _) .nil))
  have hcookie : Text.lower "Cookie" ∈ ["authorization", "cookie", "x-api-key"] := by decide +kernel
  have hheaders : List.Forall₂ SameButCredentials (cookieHeaders "a") (cookieHeaders "b") :=
    .cons (.credentials hcookie) (.cons (.same _) .nil)
  obtain ⟨-, hsame⟩ := messages_tell_no_secrets (secretFields (.int 1) "0123456789a")
    (secretFields .null "0123456789bc")
  obtain ⟨hexchange, hrequest⟩ := hsame hfields
  exact ⟨hfields, hheaders, hexchange _ _ _ _ _, hrequest _ _ hheaders _ _ _ _⟩

end OAuthGrant.Log

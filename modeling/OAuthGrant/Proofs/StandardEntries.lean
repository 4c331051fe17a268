import OAuthGrant.Proofs.EndpointCourse
import OAuthGrant.Proofs.ResponseEntries

/-!
# Standard entries and extensions

A token is read from data under rules of its own, and its response is a model with other rules. Every token
that has been read satisfies these too, whatever its extensions are: only the name of an extension can be
refused. What the extensions are has no say in the standard entries of the body either.
-/

namespace OAuthGrant
open Text (isWhole)

/-- That a token has been read from named data. -/
def AccessToken.IsAdmitted (t : AccessToken) : Prop := ∃ fields, AccessToken.ofFields fields = .ok t

def AccessToken.withExtensions (t : AccessToken) (extensions : Fields) : AccessToken :=
  { t with extensions := extensions }

namespace Reader

theorem tokenType_name (type : TokenType) : tokenType (.text type.name) = .valid type := by
  cases type
  rfl

theorem integerFrom_natCast (n : Nat) : integerFrom 0 (.int n) = .valid (n : Int) := by
  change (if (n : Int) < 0 then Checked.fault (.below 0) else .valid (n : Int)) = _
  rw [if_neg (Int.not_lt.mpr (Int.natCast_nonneg n))]

end Reader

namespace AccessToken

variable {t : AccessToken}

theorem value_of_check {type : TokenType} {value : { s : String // s ≠ "" }}
    {issuedAt expiresAt : Time.Timestamp} {scopes : ScopeSet} {extensions : Fields}
    (h : check type value issuedAt expiresAt scopes extensions = .ok t) : t.value = value := by
  unfold check at h
  split at h
  · split at h
    · cases h
      rfl
    · cases h
  · cases h

/-- The value of a token that has been read is whole. -/
theorem IsAdmitted.isWhole_value (h : t.IsAdmitted) : isWhole t.value = true := by
  obtain ⟨fields, h⟩ := h
  unfold ofFields at h
  split at h
  · next token hread =>
      simp only [Checked.seq_eq_valid_iff, Checked.map_eq_valid_iff, Reader.required,
        Checked.within_eq_valid_iff] at hread
      -- From the last field back to the value, which is the second one.
      obtain ⟨_, _, ⟨_, _, ⟨_, _, ⟨_, _, hfields, -, rfl⟩, -, rfl⟩, -, rfl⟩, -, rfl⟩ := hread
      obtain ⟨_, value, ⟨_, -, rfl⟩, hvalue, rfl⟩ := hfields
      rw [value_of_check h]
      cases hfind : fields.find? "token_value" with
      | none =>
          rw [hfind] at hvalue
          cases hvalue
      | some v =>
          rw [hfind] at hvalue
          exact (Reader.nonEmpty_eq_valid_iff.mp hvalue).2
  · cases h

end AccessToken

namespace TokenResponse

variable {t : AccessToken} {body : Fields}

theorem nonStandard_entries (t : AccessToken) :
    nonStandard (ofToken t).entries = nonStandard t.extensions := by
  have hstandard : nonStandard (ofToken t).standardEntries = [] := rfl
  rw [entries, nonStandard_append, hstandard, List.nil_append]
  exact nonStandard_nonStandard t.extensions

/-- The entries of a response are read back as that response, unless the name of an extension has a
surrogate: no token is empty, and none has a negative lifetime. -/
theorem ofFields_entries (h : isWhole t.value = true) :
    ofFields (ofToken t).entries =
      if (nonStandard t.extensions).all (fun e => isWhole e.1) then .valid (ofToken t)
      else .fault .notUnicode := by
  have hvalue : Reader.required Reader.nonEmptyText "access_token" (ofToken t).entries =
      .valid t.value := by
    have hread : Reader.nonEmptyText (.text t.value) = .valid t.value :=
      Reader.nonEmptyText_of_isWhole t.value_ne h
    change (Reader.nonEmptyText (.text t.value)).within "access_token" = _
    rw [hread]
    rfl
  have htype : Reader.withDefault Reader.tokenType "token_type" .bearer (ofToken t).entries =
      .valid t.tokenType := by
    change (Reader.tokenType (.text t.tokenType.name)).within "token_type" = _
    rw [Reader.tokenType_name]
    rfl
  have hexpires : Reader.required (Reader.integerFrom 0) "expires_in" (ofToken t).entries =
      .valid (t.expiresIn : Int) := by
    change (Reader.integerFrom 0 (.int t.expiresIn)).within "expires_in" = _
    rw [Reader.integerFrom_natCast]
    rfl
  have hscope : Reader.withDefault Reader.optionalText "scope" none (ofToken t).entries =
      .valid (ofToken t).scope := by
    change (Reader.optionalText (.ofOption (ofToken t).scope)).within "scope" = _
    rw [Reader.optionalText_eq_valid_iff.mpr rfl]
    rfl
  rw [ofFields, nonStandard_entries, named, hvalue, htype, hexpires, hscope]
  split
  · rfl
  · rfl

/-- That a body has the standard entries of a token. There is no scope in it if its text would be empty. -/
structure HasStandard (body : Fields) (t : AccessToken) : Prop where
  value : body.find? "access_token" = some (.text t.value)
  type : body.find? "token_type" = some (.text "Bearer")
  lifetime : body.find? "expires_in" = some (.int t.expiresIn)
  scope : body.find? "scope" =
    if t.scopes.text = "" then none else some (.text (" ".intercalate t.scopes.toList))

theorem hasStandard_append {kept : Fields} (h : ∀ e ∈ kept, e.1 ∉ standard) :
    HasStandard (("access_token", .text t.value) :: t.plainRest ++ kept) t := by
  have hscope : kept.lookup "scope" = none := by
    apply lookup_eq_none_of_not_mem
    intro hmem
    obtain ⟨e, he, hname⟩ := List.mem_map.mp hmem
    exact h e he (hname ▸ by decide)
  have htype : t.tokenType.name = "Bearer" := by
    cases t.tokenType
    rfl
  refine ⟨rfl, ?_, rfl, ?_⟩
  · rw [← htype]
    rfl
  · rw [Fields.find?, List.lookup_append]
    unfold AccessToken.plainRest
    by_cases hnone : t.scopes.text = ""
    · rw [if_pos hnone, if_pos hnone, hscope]
      rfl
    · rw [if_neg hnone, if_neg hnone]
      rfl

theorem hasStandard_of_body (h : tokenResponseBody t = .ok body) : HasStandard body t := by
  obtain ⟨last, rfl, hlast⟩ := exists_of_tokenResponseBody h
  exact hasStandard_append hlast

theorem HasStandard.find?_eq {body' : Fields} (h : HasStandard body t) (h' : HasStandard body' t) :
    ∀ name ∈ standard, body.find? name = body'.find? name := by
  intro name hname
  simp only [standard, List.mem_cons, List.not_mem_nil, or_false] at hname
  rcases hname with rfl | rfl | rfl | rfl
  · rw [h.value, h'.value]
  · rw [h.type, h'.type]
  · rw [h.lifetime, h'.lifetime]
  · rw [h.scope, h'.scope]

theorem tokenResponseBody_eq_read (h : isWhole t.value = true) :
    tokenResponseBody t = (ofFields (ofToken t).entries).toExcept >>= TokenResponse.body := by
  have hextensions : (ofToken t).extensions = nonStandard t.extensions := rfl
  rw [ofFields_entries h, tokenResponseBody, named, hextensions]
  by_cases hnames : (nonStandard t.extensions).all (fun e => isWhole e.1) = true
  · rw [if_pos hnames, if_pos hnames]
    rfl
  · rw [if_neg hnames, if_neg hnames]
    rfl

/-- The rules for a response never refuse a token with a whole value, as any that has been read has, except for
the name of an extension that has a surrogate. With extensions of JSON there is a body exactly if these can be
written (see `Text.isStandIn` for texts this says nothing of). Any two bodies for the token with other
extensions have the same standard entries, which are those of the token. -/
theorem standard_entries_kept (t : AccessToken) (hwhole : isWhole t.value = true) :
    (∀ x, ofFields (ofToken (t.withExtensions x)).entries =
        (if (nonStandard x).all (fun e => isWhole e.1) then .valid (ofToken (t.withExtensions x))
        else .fault .notUnicode) ∧
      tokenResponseBody (t.withExtensions x) =
        (ofFields (ofToken (t.withExtensions x)).entries).toExcept >>= TokenResponse.body) ∧
    (∀ x, (∀ e ∈ x, e.2.isJson = true) →
      ((∃ body, tokenResponseBody (t.withExtensions x) = .ok body) ↔ IsWritable x)) ∧
    ∀ x y body body', tokenResponseBody (t.withExtensions x) = .ok body →
      tokenResponseBody (t.withExtensions y) = .ok body' →
      (∀ name ∈ standard, body.find? name = body'.find? name) ∧
      HasStandard body t ∧ HasStandard body' t := by
  have hkept : ∀ x body, tokenResponseBody (t.withExtensions x) = .ok body → HasStandard body t := by
    intro x body h
    have hstandard : HasStandard body (t.withExtensions x) := hasStandard_of_body h
    exact ⟨hstandard.value, hstandard.type, hstandard.lifetime, hstandard.scope⟩
  refine ⟨fun x => ⟨?_, ?_⟩, fun x json => ?_, fun x y body body' h h' => ?_⟩
  · exact ofFields_entries (t := t.withExtensions x) hwhole
  · exact tokenResponseBody_eq_read (t := t.withExtensions x) hwhole
  · exact exists_body_iff (t := t.withExtensions x) json
  · have hbody := hkept x body h
    have hbody' := hkept y body' h'
    exact ⟨hbody.find?_eq hbody', hbody, hbody'⟩

theorem admitted_extended : (extended []).IsAdmitted := by
  have hissued : Time.Timestamp.ofText? "0001-01-01T00:00:00Z" = some (.utc 0) := by decide +kernel
  have hexpires : Time.Timestamp.ofText? "0001-01-01T00:01:00Z" = some (.utc (60 * Time.perSecond)) := by
    decide +kernel
  have hvalue : Reader.nonEmpty (.text "token-value") = .valid ⟨"token-value", by decide⟩ := by
    rw [Reader.nonEmpty_eq_valid_iff]
    exact ⟨rfl, by decide +kernel⟩
  have hcheck : AccessToken.check .bearer ⟨"token-value", by decide⟩ (.utc 0)
      (.utc (60 * Time.perSecond)) .empty [] = .ok (extended []) := by with_unfolding_all rfl
  refine ⟨[("token_value", .text "token-value"), ("issued_at", .text "0001-01-01T00:00:00Z"),
    ("expires_at", .text "0001-01-01T00:01:00Z")], ?_⟩
  simp [AccessToken.ofFields, Reader.required, Reader.withDefault, Fields.find?, List.lookup_cons,
    Reader.timestamp, hissued, hexpires, hvalue, hcheck]

/-- An extension that takes the place of a standard entry has no effect, whether there is an entry or not. -/
theorem standard_entries_kept_sample :
    ∃ body body',
      tokenResponseBody ((extended []).withExtensions [("scope", .text "admin"),
        ("access_token", .null), ("x", .int 1)]) = .ok body ∧
      tokenResponseBody ((extended []).withExtensions []) = .ok body' ∧
      body.find? "scope" = none ∧ body.find? "access_token" = some (.text "token-value") ∧
      ∀ name ∈ standard, body.find? name = body'.find? name := by
  obtain ⟨-, hwritable, hsame⟩ := standard_entries_kept (extended []) admitted_extended.isWhole_value
  obtain ⟨body, h⟩ := (hwritable [("scope", .text "admin"), ("access_token", .null), ("x", .int 1)]
    (by decide)).mpr (by decide)
  obtain ⟨body', h'⟩ := (hwritable [] (by decide)).mpr (by decide)
  obtain ⟨hnames, hstandard, -⟩ := hsame _ _ body body' h h'
  exact ⟨body, body', h, h', hstandard.scope, hstandard.value, hnames⟩

def nested : Nat → Value
  | 0 => .list []
  | n + 1 => .list [nested n]

theorem isJson_nested (n : Nat) : (nested n).isJson = true := by
  induction n with
  | zero => rfl
  | succ n ih => simp [nested, Value.isJson, Value.areJson, ih]

theorem depth_nested (n : Nat) : (nested n).depth = n + 1 := by
  induction n with
  | zero => rfl
  | succ n ih => simp [nested, Value.depth, Value.depthOfItems, ih]

/-- There is no body with 256 lists inside each other. -/
theorem deep_extension_refused :
    (extended []).IsAdmitted ∧ (∀ e ∈ [("x", nested 255)], e.2.isJson = true) ∧
    ∀ body, tokenResponseBody ((extended []).withExtensions [("x", nested 255)]) ≠ .ok body := by
  have json : ∀ e ∈ [("x", nested 255)], e.2.isJson = true := by
    intro e he
    rw [List.mem_singleton.mp he]
    exact isJson_nested 255
  refine ⟨admitted_extended, json, fun body h => ?_⟩
  obtain ⟨hwritable, -⟩ := (tokenResponseBody_eq_ok_iff json).mp h
  have hmem : ("x", nested 255) ∈ nonStandard [("x", nested 255)] :=
    mem_nonStandard.mpr ⟨List.mem_singleton.mpr rfl, by decide⟩
  have hshallow := (hwritable _ hmem).shallow
  rw [depth_nested] at hshallow
  exact absurd hshallow (by decide)

end TokenResponse
end OAuthGrant

import OAuthGrant.Proofs.JsonData
import OAuthGrant.Proofs.NamedEntries
import OAuthGrant.Proofs.PairedReplies

/-!
# The entries of a token response

A body has the standard entries of a token and after them its extensions. What can be written at all is
said by `TokenResponse.IsWritable`. Whatever is written, the standard entries are those of the token, and
the extensions are copied as they are, except that one which is null itself is left out.
-/

namespace OAuthGrant
open Text (isWhole)

namespace TokenResponse

/-- That the extensions of a token can be written into a body: those that are not named like a standard
entry fit into it. -/
def IsWritable (extensions : Fields) : Prop :=
  ∀ e ∈ nonStandard extensions, Value.FitsInto maxNesting e

instance (extensions : Fields) : Decidable (IsWritable extensions) := List.decidableBAll _ _

/-- That a body has the extensions of a token as they are: it binds every other name than a standard one to
the same value, and it consists of standard entries and of the extensions after them. -/
structure IsVerbatim (body extensions : Fields) : Prop where
  bound : ∀ name, name ∉ standard → body.find? name = extensions.find? name
  ordered : ∃ first, (∀ e ∈ first, e.1 ∈ standard) ∧ body = first ++ nonStandard extensions

variable {t : AccessToken} {body extensions fields first : Fields} {name : String}

theorem mem_nonStandard {e : String × Value} :
    e ∈ nonStandard fields ↔ e ∈ fields ∧ e.1 ∉ standard := by
  rw [nonStandard, List.mem_filter]
  simp

theorem nonStandard_append (fields more : Fields) :
    nonStandard (fields ++ more) = nonStandard fields ++ nonStandard more :=
  List.filter_append ..

theorem nonStandard_eq_nil (h : ∀ e ∈ fields, e.1 ∈ standard) : nonStandard fields = [] := by
  rw [List.eq_nil_iff_forall_not_mem]
  intro e he
  obtain ⟨hmem, hname⟩ := mem_nonStandard.mp he
  exact hname (h e hmem)

theorem nonStandard_eq_self (h : ∀ e ∈ fields, e.1 ∉ standard) : nonStandard fields = fields := by
  rw [nonStandard, List.filter_eq_self]
  intro e he
  simpa using h e he

@[simp] theorem nonStandard_nonStandard (fields : Fields) :
    nonStandard (nonStandard fields) = nonStandard fields :=
  nonStandard_eq_self fun _ he => (mem_nonStandard.mp he).2

theorem find?_nonStandard (h : name ∉ standard) : (nonStandard fields).find? name = fields.find? name :=
  lookup_filter_fst (fun n => !standard.contains n) fields (by simpa using h)

theorem find?_append_of_standard (hfirst : ∀ e ∈ first, e.1 ∈ standard) (h : name ∉ standard) :
    (first ++ fields).find? name = fields.find? name := by
  have hnone : first.lookup name = none := by
    apply lookup_eq_none_of_not_mem
    intro hmem
    obtain ⟨e, he, rfl⟩ := List.mem_map.mp hmem
    exact h (hfirst e he)
  rw [Fields.find?, List.lookup_append, hnone]
  rfl

theorem filter_standardEntries (t : AccessToken) :
    (ofToken t).standardEntries.filter hasValue = ("access_token", .text t.value) :: t.plainRest := by
  unfold standardEntries ofToken AccessToken.plainRest
  split <;> rfl

theorem plainRest_standard :
    ∀ e ∈ ("access_token", Value.text t.value) :: t.plainRest, e.1 ∈ standard := by
  unfold AccessToken.plainRest
  split <;> simp [standard]

theorem standardEntries_fit (t : AccessToken) :
    ∀ e ∈ ("access_token", Value.text t.value) :: t.plainRest,
      e.2.isJson = true ∧ Value.FitsInto maxNesting e := by
  have hnames : isWhole "access_token" = true ∧ isWhole "token_type" = true ∧
      isWhole "expires_in" = true ∧ isWhole "scope" = true := by decide
  obtain ⟨h₁, h₂, h₃, h₄⟩ := hnames
  intro e he
  have hcases : e ∈ [("access_token", Value.text t.value), ("token_type", .text t.tokenType.name),
      ("expires_in", .int t.expiresIn), ("scope", .text t.scopes.text)] := by
    unfold AccessToken.plainRest at he
    split at he
    · simp only [List.mem_cons, List.not_mem_nil, or_false] at he ⊢
      tauto
    · exact he
  have hroom : 1 ≤ maxNesting := by decide
  simp only [List.mem_cons, List.not_mem_nil, or_false] at hcases
  rcases hcases with rfl | rfl | rfl | rfl
  · exact ⟨rfl, h₁, hroom, rfl⟩
  · exact ⟨rfl, h₂, hroom, rfl⟩
  · exact ⟨rfl, h₃, hroom, rfl⟩
  · exact ⟨rfl, h₄, hroom, rfl⟩

theorem hasValue_iff {e : String × Value} : hasValue e = true ↔ e.2 ≠ .null := by
  unfold hasValue
  split <;> simp_all

theorem not_mem_standard_of_written {e : String × Value} (h : e ∈ (nonStandard extensions).filter hasValue) :
    e.1 ∉ standard :=
  (mem_nonStandard.mp (List.mem_filter.mp h).1).2

theorem fitsInto_of_not_hasValue {e : String × Value} (h : ¬ hasValue e = true)
    (hname : isWhole e.1 = true) : Value.FitsInto maxNesting e := by
  have hnull : e.2 = .null := by simpa [hasValue_iff] using h
  exact ⟨hname, by rw [hnull]; decide, by rw [hnull]; rfl⟩

/-- Extensions can be written exactly if their names are whole and those that have a value fit. -/
theorem isWritable_iff : IsWritable extensions ↔
    (∀ e ∈ nonStandard extensions, isWhole e.1 = true) ∧
      ∀ e ∈ (nonStandard extensions).filter hasValue, Value.FitsInto maxNesting e := by
  constructor
  · intro h
    exact ⟨fun e he => (h e he).named, fun e he => h e (List.mem_filter.mp he).1⟩
  · rintro ⟨hnames, hfits⟩ e he
    by_cases hvalue : hasValue e = true
    · exact hfits e (List.mem_filter.mpr ⟨he, hvalue⟩)
    · exact fitsInto_of_not_hasValue hvalue (hnames e he)

theorem body_ofToken (t : AccessToken) : (ofToken t).body = Value.jsonReadyFields maxNesting
    (("access_token", .text t.value) :: t.plainRest ++ (nonStandard t.extensions).filter hasValue) := by
  have hextensions : (ofToken t).extensions = nonStandard t.extensions := rfl
  rw [TokenResponse.body, entries, hextensions, List.filter_append, filter_standardEntries]

theorem exists_of_tokenResponseBody (h : tokenResponseBody t = .ok body) :
    ∃ last, body = ("access_token", .text t.value) :: t.plainRest ++ last ∧
      ∀ e ∈ last, e.1 ∉ standard := by
  obtain ⟨-, -, hbody⟩ := bind_eq_ok_iff.mp h
  rw [body_ofToken] at hbody
  obtain ⟨first, last, hfirst, hlast, rfl⟩ := Value.of_jsonReadyFields_append hbody
  have hstandard := standardEntries_fit t
  rw [Value.jsonReadyFields_eq_ok_iff_fits fun e he => (hstandard e he).1] at hfirst
  obtain ⟨rfl, -⟩ := hfirst
  refine ⟨last, rfl, fun e he => ?_⟩
  have hname : e.1 ∈ last.map Prod.fst := List.mem_map_of_mem he
  rw [Value.map_fst_of_jsonReadyFields hlast] at hname
  obtain ⟨e', he', hsame⟩ := List.mem_map.mp hname
  exact hsame ▸ not_mem_standard_of_written he'

/-- A token with extensions of JSON has a body exactly if they can be written. Those that are not null stand
behind the standard entries in it. -/
theorem tokenResponseBody_eq_ok_iff (json : ∀ e ∈ t.extensions, e.2.isJson = true) :
    tokenResponseBody t = .ok body ↔ IsWritable t.extensions ∧
      body = ("access_token", .text t.value) :: t.plainRest ++
        (nonStandard t.extensions).filter hasValue := by
  have hextensions : (ofToken t).extensions = nonStandard t.extensions := rfl
  have hstandard := standardEntries_fit t
  have hjson : ∀ e ∈ ("access_token", .text t.value) :: t.plainRest ++
      (nonStandard t.extensions).filter hasValue, e.2.isJson = true := by
    intro e he
    rcases List.mem_append.mp he with he | he
    · exact (hstandard e he).1
    · exact json e (mem_nonStandard.mp (List.mem_filter.mp he).1).1
  rw [tokenResponseBody, hextensions, body_ofToken, named, isWritable_iff]
  split
  · next hnames =>
      have hwhole : ∀ e ∈ nonStandard t.extensions, isWhole e.1 = true := List.all_eq_true.mp hnames
      change Value.jsonReadyFields _ _ = .ok body ↔ _
      rw [Value.jsonReadyFields_eq_ok_iff_fits hjson]
      constructor
      · rintro ⟨rfl, hfits⟩
        exact ⟨⟨hwhole, fun e he => hfits e (List.mem_append_right _ he)⟩, rfl⟩
      · rintro ⟨⟨-, hfits⟩, rfl⟩
        refine ⟨rfl, fun e he => ?_⟩
        rcases List.mem_append.mp he with he | he
        · exact (hstandard e he).2
        · exact hfits e he
  · next hnames =>
      constructor
      · intro h
        cases h
      · rintro ⟨⟨hwhole, -⟩, -⟩
        exact absurd (List.all_eq_true.mpr hwhole) hnames

theorem exists_body_iff (json : ∀ e ∈ t.extensions, e.2.isJson = true) :
    (∃ body, tokenResponseBody t = .ok body) ↔ IsWritable t.extensions := by
  constructor
  · rintro ⟨body, h⟩
    exact ((tokenResponseBody_eq_ok_iff json).mp h).1
  · intro h
    exact ⟨_, (tokenResponseBody_eq_ok_iff json).mpr ⟨h, rfl⟩⟩

/-- Extensions that have a value are copied as they are behind standard entries, and only those. -/
theorem isVerbatim_append_iff (hfirst : ∀ e ∈ first, e.1 ∈ standard) :
    IsVerbatim (first ++ (nonStandard extensions).filter hasValue) extensions ↔
      ∀ e ∈ nonStandard extensions, e.2 ≠ .null := by
  have hself : ((nonStandard extensions).filter hasValue = nonStandard extensions) ↔
      ∀ e ∈ nonStandard extensions, e.2 ≠ .null := by
    rw [List.filter_eq_self]
    exact forall₂_congr fun e _ => hasValue_iff
  rw [← hself]
  constructor
  · rintro ⟨-, first', hfirst', heq⟩
    have hkept : nonStandard ((nonStandard extensions).filter hasValue) =
        (nonStandard extensions).filter hasValue :=
      nonStandard_eq_self fun e he => not_mem_standard_of_written he
    -- What is not standard is the extensions with a value on the left, and all of them on the right.
    have hrest := congrArg nonStandard heq
    rw [nonStandard_append, nonStandard_append, nonStandard_eq_nil hfirst, nonStandard_eq_nil hfirst',
      hkept, nonStandard_nonStandard] at hrest
    exact hrest
  · intro hvalues
    rw [hvalues]
    refine ⟨fun name hname => ?_, first, hfirst, rfl⟩
    rw [find?_append_of_standard hfirst hname, find?_nonStandard hname]

/-- A token with extensions of JSON has a body exactly if they can be written (see `Text.isStandIn` for names
this says nothing of). The body has the standard
entries first and then, in their order, the extensions that are not null. So the extensions are copied as
they are exactly if none of them is null; a null inside a list or a dictionary is copied. -/
theorem extensions_copied (t : AccessToken) (json : ∀ e ∈ t.extensions, e.2.isJson = true) :
    ((∃ body, tokenResponseBody t = .ok body) ↔ IsWritable t.extensions) ∧
    ∀ body, tokenResponseBody t = .ok body →
      body = ("access_token", .text t.value) :: t.plainRest ++
        (nonStandard t.extensions).filter hasValue ∧
      (IsVerbatim body t.extensions ↔ ∀ e ∈ nonStandard t.extensions, e.2 ≠ .null) := by
  refine ⟨exists_body_iff json, fun body h => ?_⟩
  obtain ⟨-, rfl⟩ := (tokenResponseBody_eq_ok_iff json).mp h
  exact ⟨rfl, isVerbatim_append_iff plainRest_standard⟩

/-- A token for a minute, with extensions. -/
def extended (extensions : Fields) : AccessToken where
  tokenType := .bearer
  value := "token-value"
  issuedAt := .utc 0
  expiresAt := .utc (60 * Time.perSecond)
  scopes := .empty
  extensions := extensions
  value_ne := by decide
  comparable := by decide
  expiresLater := by decide

/-- A null inside a list is copied, and an entry with a standard name is no extension. -/
theorem extensions_copied_inside :
    ∃ body, tokenResponseBody (extended [("scope", .text "admin"), ("x", .list [.null])]) = .ok body ∧
      IsVerbatim body [("scope", .text "admin"), ("x", .list [.null])] := by
  obtain ⟨hwritable, hcopied⟩ :=
    extensions_copied (extended [("scope", .text "admin"), ("x", .list [.null])]) (by decide)
  obtain ⟨body, h⟩ := hwritable.mpr (by decide)
  refine ⟨body, h, (hcopied body h).2.mpr fun e he => ?_⟩
  obtain ⟨he, hname⟩ := mem_nonStandard.mp he
  simp only [extended, List.mem_cons, List.not_mem_nil, or_false] at he
  rcases he with rfl | rfl
  · exact absurd (by decide) hname
  · exact nofun

/-- An extension that is null itself is left out of the body. -/
theorem null_extension_left_out :
    (∀ e ∈ (extended [("x", .null)]).extensions, e.2.isJson = true) ∧
    ∃ body, tokenResponseBody (extended [("x", .null)]) = .ok body ∧
      (extended [("x", .null)]).extensions.find? "x" = some .null ∧ body.find? "x" = none ∧
      ¬ IsVerbatim body (extended [("x", .null)]).extensions := by
  refine ⟨by simp [extended, Value.isJson], _, rfl, rfl, by decide +kernel, fun h => ?_⟩
  have hbound := h.bound "x" (by decide)
  cases hbound

end TokenResponse
end OAuthGrant

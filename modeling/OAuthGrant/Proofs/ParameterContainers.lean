import OAuthGrant.Http.Form
import OAuthGrant.Proofs.ParameterRules

/-!
# The containers of request parameters

Reading a token request asks a container for nothing but the values of five names. So containers that give
the same values for these names are read alike: pairs in order, a mapping from names to lists of values, a
mapping that gives a single value as it is, and pairs in another order or among pairs of other names.
-/

namespace OAuthGrant
open Http (Form)

def Param.recognized : List String :=
  [Param.grantType, Param.clientId, Param.code, Param.redirectUri, Param.scope]

namespace Parameters

variable {p q : Parameters} {name : String} {names : List String}

theorem atMostOne_congr (h : p.values name = q.values name) : p.atMostOne name = q.atMostOne name := by
  rw [atMostOne, atMostOne, h]

theorem exactlyOne_congr (h : p.values name = q.values name) :
    p.exactlyOne name = q.exactlyOne name := by
  rw [exactlyOne, exactlyOne, atMostOne_congr h]

theorem rejectRepeated_congr (h : ∀ name ∈ names, p.values name = q.values name) :
    p.rejectRepeated names = q.rejectRepeated names := by
  induction names with
  | nil => rfl
  | cons name names ih =>
      have hfirst : p.atMostOne name = q.atMostOne name := atMostOne_congr (h name List.mem_cons_self)
      have hrest := ih fun name hname => h name (List.mem_cons_of_mem _ hname)
      rw [rejectRepeated, rejectRepeated, hfirst, hrest]

end Parameters

/-- Containers that give the same values for the names that are read are read alike. -/
theorem TokenRequest.ofParameters_congr {p q : Parameters}
    (h : ∀ name ∈ Param.recognized, p.values name = q.values name) :
    ofParameters p = ofParameters q := by
  simp only [Param.recognized, List.forall_mem_cons, List.not_mem_nil] at h
  obtain ⟨hgrant, hclient, hcode, huri, hscope, -⟩ := h
  have hscopes : p.rejectRepeated [Param.scope] = q.rejectRepeated [Param.scope] := by
    apply Parameters.rejectRepeated_congr
    simpa using hscope
  have hothers : p.rejectRepeated [Param.code, Param.redirectUri] =
      q.rejectRepeated [Param.code, Param.redirectUri] := by
    apply Parameters.rejectRepeated_congr
    simpa using ⟨hcode, huri⟩
  have hcodeParameters : ofCodeParameters p = ofCodeParameters q := by
    funext clientId
    rw [ofCodeParameters, ofCodeParameters, Parameters.exactlyOne_congr hcode,
      Parameters.atMostOne_congr huri, hscopes]
  have hcredentials : ofCredentialsParameters p = ofCredentialsParameters q := by
    funext clientId
    rw [ofCredentialsParameters, ofCredentialsParameters, Parameters.atMostOne_congr hscope, hothers]
  rw [ofParameters, ofParameters, Parameters.exactlyOne_congr hgrant, hcodeParameters, hcredentials,
    Parameters.atMostOne_congr hclient]

theorem mem_names_iff {form : Form} {name : String} : name ∈ form.names ↔ name ∈ form.map Prod.fst := by
  suffices ∀ names : List String,
      name ∈ form.foldl (fun names e => if names.contains e.1 then names else names ++ [e.1]) names ↔
        name ∈ names ∨ name ∈ form.map Prod.fst by
    simpa [Form.names] using this []
  induction form with
  | nil => simp
  | cons e rest ih =>
      intro names
      rw [List.foldl_cons, ih, List.map_cons, List.mem_cons]
      by_cases he : names.contains e.1 = true
      · have hknown : e.1 ∈ names := List.contains_iff_mem.mp he
        rw [if_pos he]
        constructor
        · rintro (h | h)
          · exact .inl h
          · exact .inr (.inr h)
        · rintro (h | rfl | h)
          · exact .inl h
          · exact .inl hknown
          · exact .inr h
      · rw [if_neg he, List.mem_append, List.mem_singleton, or_assoc]

theorem nodup_names (form : Form) : form.names.Nodup := by
  suffices ∀ names : List String, names.Nodup →
      (form.foldl (fun names e => if names.contains e.1 then names else names ++ [e.1]) names).Nodup from
    this [] List.nodup_nil
  induction form with
  | nil => exact fun names h => h
  | cons e rest ih =>
      intro names h
      rw [List.foldl_cons]
      apply ih
      split
      · exact h
      · next hnew =>
          have hnotin : e.1 ∉ names := fun hmem => hnew (List.contains_iff_mem.mpr hmem)
          exact List.nodup_append.mpr ⟨h, List.nodup_singleton _, by
            intro a ha b hb hab
            rw [List.mem_singleton.mp hb] at hab
            exact hnotin (hab ▸ ha)⟩

namespace TextParameters

def valuesAmong (entries : List (String × String)) (name : String) : List String :=
  (entries.filter fun e => e.1 == name).map Prod.snd

/-- The mapping from each name that occurs to the list of its values. -/
def listed (entries : List (String × String)) : List (String × GivenTexts) :=
  (Form.names (entries.map fun e => (e.1, .text e.2))).map fun name =>
    (name, .several (valuesAmong entries name))

/-- That a mapping spells the values of some pairs. All names that occur are there with their values, a
single one perhaps as it is; any further name is there with an empty list. -/
structure Spells (fields : List (String × GivenTexts)) (entries : List (String × String)) : Prop where
  distinct : (fields.map Prod.fst).Nodup
  named : ∀ e ∈ entries, e.1 ∈ fields.map Prod.fst
  texts : ∀ field ∈ fields, field.2.texts = valuesAmong entries field.1

variable {entries entries' : List (String × String)} {fields : List (String × GivenTexts)}
  {name : String}

theorem valuesAmong_eq_nil (h : name ∉ entries.map Prod.fst) : valuesAmong entries name = [] := by
  rw [valuesAmong, List.map_eq_nil_iff, List.filter_eq_nil_iff]
  intro e he hname
  exact h (List.mem_map.mpr ⟨e, he, beq_iff_eq.mp hname⟩)

/-- The plain mapping from names to lists spells the values. -/
theorem spells_listed (entries : List (String × String)) : Spells (listed entries) entries := by
  have hnames : (listed entries).map Prod.fst =
      Form.names (entries.map fun e => (e.1, .text e.2)) := by
    rw [listed, List.map_map]
    exact List.map_id _
  refine ⟨?_, ?_, ?_⟩
  · rw [hnames]
    exact nodup_names _
  · intro e he
    rw [hnames, mem_names_iff, List.map_map]
    exact List.mem_map.mpr ⟨e, he, rfl⟩
  · intro field hfield
    obtain ⟨name, -, rfl⟩ := List.mem_map.mp hfield
    rfl

theorem Spells.values_eq (h : Spells fields entries) (name : String) :
    (mapping fields).values name = (pairs entries).values name := by
  change ((fields.lookup name).map GivenTexts.texts).getD [] = valuesAmong entries name
  cases hfind : fields.lookup name with
  | some given =>
      obtain ⟨l₁, l₂, hsplit, -⟩ := List.lookup_eq_some_iff.mp hfind
      have hmem : (name, given) ∈ fields := by
        rw [hsplit]
        exact List.mem_append_right _ List.mem_cons_self
      exact h.texts _ hmem
  | none =>
      have habsent : name ∉ entries.map Prod.fst := by
        intro hmem
        obtain ⟨e, he, rfl⟩ := List.mem_map.mp hmem
        obtain ⟨field, hfield, hname⟩ := List.mem_map.mp (h.named e he)
        have hne := List.lookup_eq_none_iff.mp hfind field hfield
        rw [hname, bne_self_eq_false] at hne
        cases hne
      exact (valuesAmong_eq_nil habsent).symm

/-- Dropping pairs of names that are not read changes no values that are. -/
theorem valuesAmong_filter (hname : name ∈ Param.recognized) :
    valuesAmong (entries.filter fun e => Param.recognized.contains e.1) name =
      valuesAmong entries name := by
  rw [valuesAmong, valuesAmong, List.filter_filter]
  congr 1
  apply List.filter_congr
  intro e _
  cases he : e.1 == name with
  | false => rfl
  | true =>
      rw [beq_iff_eq.mp he, Bool.true_and]
      exact List.contains_iff_mem.mpr hname

theorem ofParameters_eq_of_values {t t' : TextParameters}
    (h : ∀ name ∈ Param.recognized, t.values name = t'.values name) :
    TokenRequest.ofParameters t.toParameters = TokenRequest.ofParameters t'.toParameters := by
  apply TokenRequest.ofParameters_congr
  intro name hname
  rw [t.gives_toParameters name, t'.gives_toParameters name, h name hname]

/-- Pairs are read like every mapping that spells their values, the plain mapping from names to lists among
them. Neither the order of the pairs matters, as long as that of the values of each name is kept, nor any
pairs of other names than those that are read. -/
theorem container_does_not_matter (entries : List (String × String)) :
    Spells (listed entries) entries ∧
    (∀ fields, Spells fields entries →
      TokenRequest.ofParameters (mapping fields).toParameters =
        TokenRequest.ofParameters (pairs entries).toParameters) ∧
    (∀ entries', entries'.Perm entries →
      (∀ name, valuesAmong entries' name = valuesAmong entries name) →
      TokenRequest.ofParameters (pairs entries').toParameters =
        TokenRequest.ofParameters (pairs entries).toParameters) ∧
    (∀ entries', (entries'.filter fun e => Param.recognized.contains e.1) =
        (entries.filter fun e => Param.recognized.contains e.1) →
      TokenRequest.ofParameters (pairs entries').toParameters =
        TokenRequest.ofParameters (pairs entries).toParameters) := by
  refine ⟨spells_listed entries, ?_, ?_, ?_⟩
  · intro fields h
    apply ofParameters_eq_of_values
    intro name _
    exact h.values_eq name
  · intro entries' _ horder
    apply ofParameters_eq_of_values
    intro name _
    exact horder name
  · intro entries' h
    apply ofParameters_eq_of_values
    intro name hname
    change valuesAmong entries' name = valuesAmong entries name
    rw [← valuesAmong_filter hname, h, valuesAmong_filter hname]

/-- Pairs with a repeated scope and a name that is not read. -/
def repeatedScope : List (String × String) :=
  [("grant_type", "client_credentials"), ("scope", "a"), ("x", "1"), ("scope", "b")]

/-- The same in a mapping, with single values as they are and an empty list. -/
def repeatedScopeFields : List (String × GivenTexts) :=
  [("scope", .several ["a", "b"]), ("code", .several []), ("x", .one "1"),
   ("grant_type", .one "client_credentials")]

/-- A repeated scope is reported alike from a mapping, from pairs in another order and without the name that
is not read. -/
theorem repeatedScope_in_all_containers :
    ∃ f, f.text = "OAuth 2.0 Parameter: scope" ∧
      TokenRequest.ofParameters (pairs repeatedScope).toParameters = .error f ∧
      TokenRequest.ofParameters (mapping repeatedScopeFields).toParameters = .error f ∧
      TokenRequest.ofParameters (pairs [("scope", "a"), ("x", "1"), ("scope", "b"),
        ("grant_type", "client_credentials")]).toParameters = .error f ∧
      TokenRequest.ofParameters (pairs [("grant_type", "client_credentials"), ("scope", "a"),
        ("scope", "b")]).toParameters = .error f := by
  obtain ⟨-, hmapping, hordered, hothers⟩ := container_does_not_matter repeatedScope
  have hread : TokenRequest.ofParameters (pairs repeatedScope).toParameters =
      .error (Parameters.faulty Param.scope) := by rfl
  have hspells : Spells repeatedScopeFields repeatedScope := ⟨by decide, by decide, by decide⟩
  refine ⟨_, by decide, hread, (hmapping _ hspells).trans hread, (hordered _ (by decide) ?_).trans hread,
    (hothers _ (by decide)).trans hread⟩
  intro name
  by_cases hgrant : "grant_type" = name
  · subst hgrant
    decide
  · have hother : ("grant_type" == name) = false := beq_eq_false_iff_ne.mpr hgrant
    simp [valuesAmong, repeatedScope, List.filter_cons, hother]

end TextParameters
end OAuthGrant

import OAuthGrant.Parameters
import OAuthGrant.Proofs.NamedEntries
import OAuthGrant.Proofs.ValidData

/-!
# The rules on request parameters

What is asked of the parameters of a token request is a list of rules, in the order in which they are
checked. They speak of the values that each name has, so that it does not matter in which container the
parameters come. Parameters are read exactly if they obey all rules, and otherwise the first rule that is
broken is reported. The rules together are the grammar of token requests.
-/

namespace OAuthGrant

/-- The texts that a container gives for every name. -/
def Parameters.Gives (p : Parameters) (values : String → List String) : Prop :=
  ∀ name, p.values name = .ok (values name)

/-- The grant that some parameters ask for, if it is one that is handled. -/
def grantOf? (values : String → List String) : Option GrantType :=
  (values Param.grantType).head?.bind GrantType.ofName?

/-- A rule on the parameters of a token request: a parameter has exactly one value and this is not empty,
the grant type is one that is handled, or a parameter has at most one value. -/
inductive ParameterRule where
  | given (name : String)
  | supported
  | unrepeated (name : String)
  deriving DecidableEq

namespace ParameterRule

def isObeyed (values : String → List String) : ParameterRule → Bool
  | given name => (values name).length == 1 && (values name).head? != some ""
  | supported => (grantOf? values).isSome
  | unrepeated name => (values name).length ≤ 1

/-- How it is reported that a rule is broken. -/
def refusal (values : String → List String) : ParameterRule → Refusal
  | given name => .parameter name
  | supported => .unsupportedGrantType (.text ((values Param.grantType).headD ""))
  | unrepeated name => .parameter name

/-- The rules on the parameters of a grant, and those on the parameters that the grant has no use for. -/
def ofGrant : GrantType → List ParameterRule
  | .authorizationCode => [given Param.code, unrepeated Param.redirectUri, unrepeated Param.scope]
  | .clientCredentials =>
      [unrepeated Param.scope, unrepeated Param.code, unrepeated Param.redirectUri]

/-- All rules on some parameters, in order. -/
def all (values : String → List String) : List ParameterRule :=
  given Param.grantType :: supported :: unrepeated Param.clientId ::
    ((grantOf? values).map ofGrant).getD []

def firstBroken? (values : String → List String) (rules : List ParameterRule) :
    Option ParameterRule :=
  rules.find? fun rule => !rule.isObeyed values

variable {values : String → List String} {rules : List ParameterRule} {rule : ParameterRule}
  {name : String}

theorem firstBroken?_cons_of_isObeyed (h : rule.isObeyed values = true) :
    firstBroken? values (rule :: rules) = firstBroken? values rules :=
  List.find?_cons_of_neg (by simp [h])

theorem firstBroken?_cons_of_not_isObeyed (h : rule.isObeyed values = false) :
    firstBroken? values (rule :: rules) = some rule :=
  List.find?_cons_of_pos (by simp [h])

theorem isObeyed_given_iff :
    (given name).isObeyed values = true ↔ ∃ s, values name = [s] ∧ s ≠ "" := by
  rw [isObeyed, Bool.and_eq_true, beq_iff_eq, bne_iff_ne]
  constructor
  · rintro ⟨hlength, hne⟩
    obtain ⟨s, hs⟩ := List.length_eq_one_iff.mp hlength
    refine ⟨s, hs, ?_⟩
    rintro rfl
    exact hne (by rw [hs]; rfl)
  · rintro ⟨s, hs, hne⟩
    rw [hs]
    exact ⟨rfl, fun h => hne (Option.some.inj h)⟩

theorem isObeyed_supported_iff :
    supported.isObeyed values = true ↔ ∃ g, grantOf? values = some g :=
  Option.isSome_iff_exists

theorem isObeyed_unrepeated_iff :
    (unrepeated name).isObeyed values = true ↔ (values name).length ≤ 1 :=
  decide_eq_true_iff

theorem firstBroken?_eq_none_iff :
    firstBroken? values rules = none ↔ ∀ rule ∈ rules, rule.isObeyed values = true := by
  simp [firstBroken?]

end ParameterRule

/-- The grammar of token requests for a grant: which parameters have which number of values. -/
structure IsTokenRequest (values : String → List String) (grant : GrantType) : Prop where
  grantType : values Param.grantType = [grant.name]
  unrepeated : ∀ name ∈ [Param.clientId, Param.code, Param.redirectUri, Param.scope],
    (values name).length ≤ 1
  code : grant = .authorizationCode → ∃ s, values Param.code = [s] ∧ s ≠ ""

/-- A token request holds the parameters of its grant as they are given; what is not given and what the
grant has no use for is left out. -/
structure TokenRequest.IsMadeOf (request : TokenRequest) (values : String → List String) : Prop where
  grantType : values Param.grantType = [request.grantType.name]
  clientId : request.clientId = (values Param.clientId).head?
  code : request.code =
    if request.grantType = .authorizationCode then (values Param.code).head? else none
  redirectUri : request.redirectUri =
    if request.grantType = .authorizationCode then (values Param.redirectUri).head? else none
  scope : request.scope =
    if request.grantType = .clientCredentials then (values Param.scope).head? else none

section Rules

open ParameterRule

variable {p : Parameters} {values : String → List String} {rules : List ParameterRule} {name : String}
  {good : TokenRequest → Prop} {grant : GrantType}

theorem grantOf?_eq_some_of (h : values Param.grantType = [grant.name]) :
    grantOf? values = some grant := by
  rw [grantOf?, h]
  exact GrantType.ofName?_name grant

theorem forall_ofGrant_iff : (∀ rule ∈ ofGrant grant, rule.isObeyed values = true) ↔
    (∀ name ∈ [Param.code, Param.redirectUri, Param.scope], (values name).length ≤ 1) ∧
      (grant = .authorizationCode → ∃ s, values Param.code = [s] ∧ s ≠ "") := by
  cases grant with
  | authorizationCode =>
      simp only [ofGrant, List.forall_mem_cons, List.not_mem_nil, isObeyed_given_iff,
        isObeyed_unrepeated_iff]
      constructor
      · rintro ⟨⟨s, hs, hne⟩, huri, hscope, -⟩
        have hcode : (values Param.code).length ≤ 1 := by rw [hs]; exact Nat.le_refl 1
        exact ⟨⟨hcode, huri, hscope, nofun⟩, fun _ => ⟨s, hs, hne⟩⟩
      · rintro ⟨⟨-, huri, hscope, -⟩, hcode⟩
        exact ⟨hcode trivial, huri, hscope, nofun⟩
  | clientCredentials =>
      simp only [ofGrant, List.forall_mem_cons, List.not_mem_nil, isObeyed_unrepeated_iff]
      constructor
      · rintro ⟨hscope, hcode, huri, -⟩
        exact ⟨⟨hcode, huri, hscope, nofun⟩, nofun⟩
      · rintro ⟨⟨hcode, huri, hscope, -⟩, -⟩
        exact ⟨hscope, hcode, huri, nofun⟩

/-- The grammar holds if and only if no rule is broken. -/
theorem firstBroken?_all_eq_none_iff :
    firstBroken? values (all values) = none ↔ ∃ grant, IsTokenRequest values grant := by
  rw [firstBroken?_eq_none_iff, all, List.forall_mem_cons, List.forall_mem_cons, List.forall_mem_cons,
    isObeyed_given_iff, isObeyed_supported_iff, isObeyed_unrepeated_iff]
  constructor
  · rintro ⟨⟨s, hs, -⟩, ⟨grant, hgrant⟩, hclient, hrest⟩
    have hname : s = grant.name := by
      rw [grantOf?, hs] at hgrant
      exact GrantType.ofName?_eq_some_iff.mp hgrant
    rw [hgrant, Option.map_some, Option.getD_some, forall_ofGrant_iff] at hrest
    exact ⟨grant, by rw [hs, hname], List.forall_mem_cons.mpr ⟨hclient, hrest.1⟩, hrest.2⟩
  · rintro ⟨grant, h⟩
    have hgrant := grantOf?_eq_some_of h.grantType
    have hname : grant.name ≠ "" := by cases grant <;> decide
    obtain ⟨hclient, hothers⟩ := List.forall_mem_cons.mp h.unrepeated
    rw [hgrant, Option.map_some, Option.getD_some, forall_ofGrant_iff]
    exact ⟨⟨_, h.grantType, hname⟩, ⟨grant, rfl⟩, hclient, hothers, h.code⟩

namespace Parameters

theorem atMostOne_of_length_le (hp : p.Gives values) (h : (values name).length ≤ 1) :
    p.atMostOne name = .ok (values name).head? := by
  rw [atMostOne, hp name]
  match hvalues : values name with
  | [] => rfl
  | [s] => rfl
  | _ :: _ :: _ => simp [hvalues] at h

theorem atMostOne_of_lt_length (hp : p.Gives values) (h : 1 < (values name).length) :
    p.atMostOne name = .error (faulty name) := by
  rw [atMostOne, hp name]
  match hvalues : values name with
  | [] => simp [hvalues] at h
  | [s] => simp [hvalues] at h
  | _ :: _ :: _ => rfl

theorem exactlyOne_of_single (hp : p.Gives values) {s : String} (h : values name = [s]) (hne : s ≠ "") :
    p.exactlyOne name = .ok ⟨s, hne⟩ := by
  rw [exactlyOne, atMostOne_of_length_le hp (by simp [h]), h]
  exact dif_neg hne

theorem exactlyOne_of_not_single (hp : p.Gives values) (h : ¬ ∃ s, values name = [s] ∧ s ≠ "") :
    p.exactlyOne name = .error (faulty name) := by
  rw [exactlyOne]
  by_cases hlength : (values name).length ≤ 1
  · rw [atMostOne_of_length_le hp hlength]
    match hvalues : values name with
    | [] => rfl
    | [s] =>
        have hs : s = "" := Classical.byContradiction fun hne => h ⟨s, hvalues, hne⟩
        exact dif_pos hs
    | _ :: _ :: _ => simp [hvalues] at hlength
  · rw [atMostOne_of_lt_length hp (by omega)]
    rfl

end Parameters

/-- What comes of checking rules in order: if all are obeyed a request of which something is known, and
otherwise the refusal of the first one that is broken. -/
def Settles (values : String → List String) (rules : List ParameterRule) (good : TokenRequest → Prop)
    (out : Except Failure TokenRequest) : Prop :=
  match firstBroken? values rules with
  | none => ∃ request, out = .ok request ∧ good request
  | some rule => out = .error (.refused (rule.refusal values))

/-- Either no rule is broken and there is a request, or the first rule that is broken is reported. -/
theorem Settles.elim {out : Except Failure TokenRequest} (h : Settles values rules good out) :
    (firstBroken? values rules = none ∧ ∃ request, out = .ok request ∧ good request) ∨
      ∃ rule, firstBroken? values rules = some rule ∧
        out = .error (.refused (rule.refusal values)) := by
  unfold Settles at h
  cases hbroken : firstBroken? values rules with
  | none =>
      rw [hbroken] at h
      exact .inl ⟨rfl, h⟩
  | some rule =>
      rw [hbroken] at h
      exact .inr ⟨rule, rfl, h⟩

theorem settles_nil {request : TokenRequest} (h : good request) : Settles values [] good (.ok request) :=
  ⟨request, rfl, h⟩

theorem settles_unrepeated (hp : p.Gives values) {next : Option String → Except Failure TokenRequest}
    (h : Settles values rules good (next (values name).head?)) :
    Settles values (unrepeated name :: rules) good (p.atMostOne name >>= next) := by
  unfold Settles
  by_cases hlength : (values name).length ≤ 1
  · rw [firstBroken?_cons_of_isObeyed (isObeyed_unrepeated_iff.mpr hlength),
      Parameters.atMostOne_of_length_le hp hlength]
    exact h
  · have hbroken : (unrepeated name).isObeyed values = false :=
      Bool.eq_false_iff.mpr fun hobeyed => hlength (isObeyed_unrepeated_iff.mp hobeyed)
    rw [firstBroken?_cons_of_not_isObeyed hbroken,
      Parameters.atMostOne_of_lt_length hp (by omega)]
    rfl

theorem settles_given (hp : p.Gives values)
    {next : { s : String // s ≠ "" } → Except Failure TokenRequest}
    (h : ∀ s, values name = [s.1] → Settles values rules good (next s)) :
    Settles values (given name :: rules) good (p.exactlyOne name >>= next) := by
  unfold Settles
  by_cases hone : ∃ s, values name = [s] ∧ s ≠ ""
  · obtain ⟨s, hs, hne⟩ := hone
    rw [firstBroken?_cons_of_isObeyed (isObeyed_given_iff.mpr ⟨s, hs, hne⟩),
      Parameters.exactlyOne_of_single hp hs hne]
    exact h ⟨s, hne⟩ hs
  · have hbroken : (given name).isObeyed values = false :=
      Bool.eq_false_iff.mpr fun hobeyed => hone (isObeyed_given_iff.mp hobeyed)
    rw [firstBroken?_cons_of_not_isObeyed hbroken, Parameters.exactlyOne_of_not_single hp hone]
    rfl

theorem settles_rejectRepeated (hp : p.Gives values) (names : List String)
    {next : Unit → Except Failure TokenRequest} (h : Settles values rules good (next ())) :
    Settles values (names.map unrepeated ++ rules) good (p.rejectRepeated names >>= next) := by
  induction names with
  | nil => exact h
  | cons name names ih =>
      have hbind : (p.rejectRepeated (name :: names) >>= next) =
          p.atMostOne name >>= fun _ => p.rejectRepeated names >>= next := by
        rw [Parameters.rejectRepeated]
        cases p.atMostOne name <;> rfl
      rw [hbind]
      exact settles_unrepeated hp ih

/-- Reading parameters checks all rules in order, and makes a request of the values if all are obeyed. -/
theorem settles_ofParameters (hp : p.Gives values) :
    Settles values (all values) (fun request => request.IsMadeOf values)
      (TokenRequest.ofParameters p) := by
  refine settles_given hp fun s hs => ?_
  have hgrant : grantOf? values = GrantType.ofName? s.1 := by rw [grantOf?, hs]; rfl
  rw [hgrant]
  cases hname : GrantType.ofName? s.1 with
  | none =>
      have hbroken : supported.isObeyed values = false := by rw [isObeyed, hgrant, hname]; rfl
      have hrefusal : supported.refusal values = .unsupportedGrantType (.text s.1) := by
        rw [refusal, hs]
        rfl
      unfold Settles
      rw [firstBroken?_cons_of_not_isObeyed hbroken]
      exact congrArg (fun r => Except.error (Failure.refused r)) hrefusal.symm
  | some grant =>
      have hobeyed : supported.isObeyed values = true := by rw [isObeyed, hgrant, hname]; rfl
      have hvalue : values Param.grantType = [grant.name] := by
        rw [hs, GrantType.ofName?_eq_some_iff.mp hname]
      unfold Settles
      rw [firstBroken?_cons_of_isObeyed hobeyed]
      refine settles_unrepeated hp ?_
      cases grant with
      | authorizationCode =>
          refine settles_given hp fun code hcode => ?_
          refine settles_unrepeated hp ?_
          refine settles_rejectRepeated hp [Param.scope] (settles_nil ?_)
          exact ⟨hvalue, rfl, by rw [hcode]; rfl, rfl, rfl⟩
      | clientCredentials =>
          refine settles_unrepeated hp ?_
          refine settles_rejectRepeated hp [Param.code, Param.redirectUri] (settles_nil ?_)
          exact ⟨hvalue, rfl, rfl, rfl, rfl⟩

/-- A broken rule is reported as a faulty parameter or as an unsupported grant type, never as data that do
not fit a model. -/
theorem ParameterRule.name_refusal (rule : ParameterRule) (values : String → List String) :
    (rule.refusal values).name = "InvalidRequestParameterError" ∨
      (rule.refusal values).name = "UnsupportedGrantTypeError" := by
  cases rule with
  | given name => exact .inl rfl
  | supported => exact .inr rfl
  | unrepeated name => exact .inl rfl

theorem ofParameters_eq_ok_iff (hp : p.Gives values) :
    (∃ request, TokenRequest.ofParameters p = .ok request) ↔ ∃ grant, IsTokenRequest values grant := by
  rw [← firstBroken?_all_eq_none_iff]
  rcases (settles_ofParameters hp).elim with ⟨hnone, request, hrequest, -⟩ | ⟨rule, hrule, herror⟩
  · exact ⟨fun _ => hnone, fun _ => ⟨request, hrequest⟩⟩
  · simp [hrule, herror]

theorem isMadeOf_of_ofParameters (hp : p.Gives values) {request : TokenRequest}
    (hrequest : TokenRequest.ofParameters p = .ok request) : request.IsMadeOf values := by
  rcases (settles_ofParameters hp).elim with ⟨-, request', hrequest', hmade⟩ | ⟨rule, -, herror⟩
  · cases hrequest.symm.trans hrequest'
    exact hmade
  · cases hrequest.symm.trans herror

theorem ofParameters_eq_error_iff (hp : p.Gives values) {f : Failure} :
    TokenRequest.ofParameters p = .error f ↔
      ∃ rule, firstBroken? values (all values) = some rule ∧ f = .refused (rule.refusal values) := by
  rcases (settles_ofParameters hp).elim with ⟨hnone, request, hrequest, -⟩ | ⟨rule, hrule, herror⟩
  · simp [hnone, hrequest]
  · simp [hrule, herror, eq_comm]

end Rules

/-- What a mapping gives for a name: a text or a list of texts. -/
inductive GivenTexts where
  | one (s : String)
  | several (texts : List String)

namespace GivenTexts

def texts : GivenTexts → List String
  | one s => [s]
  | several texts => texts

def toValue : GivenTexts → Value
  | one s => .text s
  | several texts => .list (texts.map .text)

theorem areWritable_texts (texts : List String) : Value.areWritable (texts.map .text) = true := by
  induction texts with
  | nil => rfl
  | cons s rest ih => exact ih

theorem valuesOf_toValue (given : GivenTexts) : Parameters.valuesOf given.toValue = .ok given.texts := by
  cases given with
  | one s => rfl
  | several texts =>
      rw [toValue, Parameters.valuesOf, areWritable_texts, List.map_map]
      exact congrArg Except.ok (List.map_id texts)

end GivenTexts

/-- Parameters whose values are all texts: in order and perhaps repeated, or in a mapping. -/
inductive TextParameters where
  | pairs (entries : List (String × String))
  | mapping (fields : List (String × GivenTexts))

namespace TextParameters

def toParameters : TextParameters → Parameters
  | pairs entries => .pairs (entries.map fun e => (e.1, .text e.2))
  | mapping fields => .mapping (fields.map fun e => (e.1, e.2.toValue))

def values : TextParameters → String → List String
  | pairs entries, name => (entries.filter fun e => e.1 == name).map Prod.snd
  | mapping fields, name => ((fields.lookup name).map GivenTexts.texts).getD []

theorem gives_toParameters (t : TextParameters) : t.toParameters.Gives t.values := by
  intro name
  cases t with
  | pairs entries =>
      simp only [toParameters, Parameters.values, values, List.filter_map, List.map_map]
      rfl
  | mapping fields =>
      rw [toParameters, Parameters.values, Fields.find?, lookup_map_snd, values]
      cases fields.lookup name with
      | none => rfl
      | some given => exact given.valuesOf_toValue

end TextParameters

def TokenRequest.toFields (r : TokenRequest) : Fields :=
  [(Param.grantType, .text r.grantType.name), (Param.code, .ofOption r.code),
   (Param.redirectUri, .ofOption r.redirectUri), (Param.scope, .ofOption r.scope),
   (Param.clientId, .ofOption r.clientId)]

/-- The rules that a token request itself has are obeyed by every request that has been made. -/
theorem TokenRequest.ofFields_toFields (r : TokenRequest) : ofFields r.toFields = .valid r := by
  have hcode : Reader.optionalText (.ofOption r.code) = .valid r.code :=
    Reader.optionalText_eq_valid_iff.mpr rfl
  have huri : Reader.optionalText (.ofOption r.redirectUri) = .valid r.redirectUri :=
    Reader.optionalText_eq_valid_iff.mpr rfl
  have hscope : Reader.optionalText (.ofOption r.scope) = .valid r.scope :=
    Reader.optionalText_eq_valid_iff.mpr rfl
  have hclient : Reader.optionalText (.ofOption r.clientId) = .valid r.clientId :=
    Reader.optionalText_eq_valid_iff.mpr rfl
  have hgrant : Reader.grantType (.text r.grantType.name) = .valid r.grantType := by
    cases r.grantType <;> rfl
  have hread : ofFields r.toFields =
      check r.grantType r.code r.redirectUri r.scope r.clientId := by
    change (_ <$> (Reader.grantType (.text r.grantType.name)).within Param.grantType
      <*> (Reader.optionalText (.ofOption r.code)).within Param.code
      <*> (Reader.optionalText (.ofOption r.redirectUri)).within Param.redirectUri
      <*> (Reader.optionalText (.ofOption r.scope)).within Param.scope
      <*> (Reader.optionalText (.ofOption r.clientId)).within Param.clientId : Checked _).andThen id = _
    rw [hgrant, hcode, huri, hscope, hclient]
    rfl
  rw [hread, check, dif_pos r.codeRule]

namespace TextParameters
open ParameterRule (firstBroken? all)

/-- Parameters that are texts are read as a token request if and only if they obey its grammar, and the
request is made of them and valid by its own rules. Otherwise the first rule that is broken is reported,
and there is no other way to fail. -/
theorem read_by_rules (t : TextParameters) :
    ((∃ request, TokenRequest.ofParameters t.toParameters = .ok request) ↔
      ∃ grant, IsTokenRequest t.values grant) ∧
    (∀ request, TokenRequest.ofParameters t.toParameters = .ok request →
      request.IsMadeOf t.values ∧ TokenRequest.ofFields request.toFields = .valid request) ∧
    (∀ f, TokenRequest.ofParameters t.toParameters = .error f ↔
      ∃ rule, firstBroken? t.values (all t.values) = some rule ∧
        f = .refused (rule.refusal t.values)) ∧
    (∀ f, TokenRequest.ofParameters t.toParameters = .error f →
      f.name = "InvalidRequestParameterError" ∨ f.name = "UnsupportedGrantTypeError") := by
  have hgives := t.gives_toParameters
  refine ⟨ofParameters_eq_ok_iff hgives, ?_, fun f => ofParameters_eq_error_iff hgives, ?_⟩
  · intro request hrequest
    exact ⟨isMadeOf_of_ofParameters hgives hrequest, request.ofFields_toFields⟩
  · intro f hf
    obtain ⟨rule, -, rfl⟩ := (ofParameters_eq_error_iff hgives).mp hf
    exact rule.name_refusal t.values

/-- An empty redirect URI is kept as it is given, and of two broken rules the earlier one is reported. -/
theorem read_by_rules_sample :
    (∃ request, TokenRequest.ofParameters (mapping [(Param.grantType, .one "authorization_code"),
        (Param.code, .several ["c"]), (Param.redirectUri, .one "")]).toParameters = .ok request ∧
      request.redirectUri = some "") ∧
    (∃ f, TokenRequest.ofParameters (pairs [(Param.scope, "a"), (Param.clientId, "a"),
        (Param.clientId, "b"), (Param.grantType, "authorization_code")]).toParameters = .error f ∧
      f.text = "OAuth 2.0 Parameter: client_id") := by
  constructor
  · obtain ⟨request, hrequest⟩ := (read_by_rules (mapping [(Param.grantType, .one "authorization_code"),
      (Param.code, .several ["c"]), (Param.redirectUri, .one "")])).1.mpr
        ⟨.authorizationCode, rfl, by decide, fun _ => ⟨"c", rfl, by decide⟩⟩
    refine ⟨request, hrequest, ?_⟩
    have hmade := ((read_by_rules _).2.1 request hrequest).1
    have hgrant : request.grantType = .authorizationCode := by
      have h : ["authorization_code"] = [request.grantType.name] := hmade.grantType
      cases hg : request.grantType with
      | authorizationCode => rfl
      | clientCredentials => rw [hg] at h; exact absurd h (by decide)
    rw [hmade.redirectUri, if_pos hgrant]
    rfl
  · exact ⟨_, ((read_by_rules (pairs [(Param.scope, "a"), (Param.clientId, "a"), (Param.clientId, "b"),
      (Param.grantType, "authorization_code")])).2.2.1 _).mpr ⟨.unrepeated Param.clientId, rfl, rfl⟩,
        by decide⟩

end TextParameters
end OAuthGrant

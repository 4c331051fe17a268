import Mathlib.Data.List.Forall2
import OAuthGrant.Log.Message

/-!
# What sanitizing does to fields

Sanitizing goes by the names of fields. Under the name of a secret nothing of the value remains, under the
name of a token its texts are cut, and under all other names it stays as it is. What has been sanitized once
does not change any more, although a cut text is longer than what cutting keeps. So the message on a request,
for which the parameters are sanitized first and then all fields, shows what either of the two leaves.
-/

namespace OAuthGrant

namespace Value

/-- Whether a value is neither a text nor a list. -/
def isLeaf : Value → Bool
  | text _ => false
  | list _ => false
  | _ => true

/-- That two values have the same shape: lists of the same length at every depth, related texts in the same
places, and the same value everywhere else. -/
inductive SameShape (R : String → String → Prop) : Value → Value → Prop
  | text {s t : String} (related : R s t) : SameShape R (text s) (text t)
  | list {items items' : List Value} (related : List.Forall₂ (SameShape R) items items') :
      SameShape R (list items) (list items')
  | leaf {v : Value} (isLeaf : v.isLeaf = true) : SameShape R v v

end Value

namespace Log

theorem cutText_of_le {s : String} (h : s.length ≤ cutLength) : cutText s = s := by
  rw [cutText, if_neg (Nat.not_lt.mpr h)]

theorem cutText_of_lt {s : String} (h : cutLength < s.length) :
    cutText s = String.ofList (s.toList.take cutLength) ++ "..." := by
  rw [cutText, if_pos h]

theorem length_take_of_lt {s : String} (h : cutLength < s.length) :
    (s.toList.take cutLength).length = cutLength := by
  have hlength : s.toList.length = s.length := String.length_toList
  rw [List.length_take]
  omega

theorem lt_length_cutText_iff {s : String} : cutLength < (cutText s).length ↔ cutLength < s.length := by
  rcases Nat.lt_or_ge cutLength s.length with h | h
  · have hlength : (cutText s).length = cutLength + 3 := by
      rw [cutText_of_lt h, String.length_append, String.length_ofList, length_take_of_lt h]
      rfl
    omega
  · rw [cutText_of_le h]

theorem take_cutText (s : String) :
    (cutText s).toList.take cutLength = s.toList.take cutLength := by
  rcases Nat.lt_or_ge cutLength s.length with h | h
  · rw [cutText_of_lt h, String.toList_append, String.toList_ofList]
    exact List.take_left' (length_take_of_lt h)
  · rw [cutText_of_le h]

theorem cutText_cutText (s : String) : cutText (cutText s) = cutText s := by
  rcases Nat.lt_or_ge cutLength s.length with h | h
  · rw [cutText_of_lt (lt_length_cutText_iff.mpr h), take_cutText, cutText_of_lt h]
  · rw [cutText_of_le h, cutText_of_le h]

theorem cut_of_isLeaf {v : Value} (h : v.isLeaf = true) : cut v = v := by
  cases v with
  | text s => cases h
  | list items => cases h
  | _ => simp only [cut]

theorem isLeaf_cut (v : Value) : (cut v).isLeaf = v.isLeaf := by
  cases v with
  | text s => rw [cut_text]; rfl
  | list items => rw [cut_list]; rfl
  | _ => rw [cut_of_isLeaf rfl]

section Shapes

variable {R : String → String → Prop} {v w : Value}

theorem isLeaf_eq_of_cut_eq (h : cut v = cut w) : v.isLeaf = w.isLeaf := by
  rw [← isLeaf_cut v, h, isLeaf_cut]

theorem cut_eq_cut_iff_of_isLeaf (hv : v.isLeaf = true) : cut v = cut w ↔ v.SameShape R w := by
  constructor
  · intro h
    have hw : w.isLeaf = true := isLeaf_eq_of_cut_eq h ▸ hv
    rw [cut_of_isLeaf hv, cut_of_isLeaf hw] at h
    subst h
    exact .leaf hv
  · intro h
    cases h with
    | text _ => cases hv
    | list _ => cases hv
    | leaf _ => rfl

mutual

/-- Cutting keeps the shape of a value and all of it that is no text. -/
theorem sameShape_cut (hR : ∀ s, R s (cutText s)) : (v : Value) → v.SameShape R (cut v)
  | .text s => by
      rw [cut_text]
      exact .text (hR s)
  | .list items => by
      rw [cut_list]
      exact .list (sameShape_cutItems hR items)
  | .null => .leaf rfl
  | .bool _ => .leaf rfl
  | .int _ => .leaf rfl
  | .float _ => .leaf rfl
  | .object _ => .leaf rfl
  | .foreign _ _ => .leaf rfl

theorem sameShape_cutItems (hR : ∀ s, R s (cutText s)) :
    (items : List Value) → List.Forall₂ (Value.SameShape R) items (cutItems items)
  | [] => by
      rw [cutItems_nil]
      exact .nil
  | v :: rest => by
      rw [cutItems_cons]
      exact .cons (sameShape_cut hR v) (sameShape_cutItems hR rest)

end

mutual

/-- Two values are cut to the same value if and only if they have the same shape and their texts are cut to
the same texts. -/
theorem cut_eq_cut_iff (hR : ∀ s t, R s t ↔ cutText s = cutText t) :
    (v w : Value) → (cut v = cut w ↔ v.SameShape R w)
  | .text s, w => by
      constructor
      · intro h
        cases w with
        | text t =>
            rw [cut_text, cut_text] at h
            exact .text ((hR s t).mpr (Value.text.inj h))
        | list items => simp at h
        | _ => cases isLeaf_eq_of_cut_eq h
      · intro h
        cases h with
        | @text _ t hst => rw [cut_text, cut_text, (hR s t).mp hst]
        | leaf _ => rfl
  | .list items, w => by
      constructor
      · intro h
        cases w with
        | text t => simp at h
        | list items' =>
            rw [cut_list, cut_list] at h
            exact .list ((cutItems_eq_cutItems_iff hR items items').mp (Value.list.inj h))
        | _ => cases isLeaf_eq_of_cut_eq h
      · intro h
        cases h with
        | @list _ items' hitems =>
            rw [cut_list, cut_list, (cutItems_eq_cutItems_iff hR items items').mpr hitems]
        | leaf _ => rfl
  | .null, _ => cut_eq_cut_iff_of_isLeaf rfl
  | .bool _, _ => cut_eq_cut_iff_of_isLeaf rfl
  | .int _, _ => cut_eq_cut_iff_of_isLeaf rfl
  | .float _, _ => cut_eq_cut_iff_of_isLeaf rfl
  | .object _, _ => cut_eq_cut_iff_of_isLeaf rfl
  | .foreign _ _, _ => cut_eq_cut_iff_of_isLeaf rfl

theorem cutItems_eq_cutItems_iff (hR : ∀ s t, R s t ↔ cutText s = cutText t) :
    (items items' : List Value) →
      (cutItems items = cutItems items' ↔ List.Forall₂ (Value.SameShape R) items items')
  | [], [] => by simp
  | [], _ :: _ => by simp
  | _ :: _, [] => by simp
  | v :: rest, w :: rest' => by
      rw [cutItems_cons, cutItems_cons, List.cons.injEq, List.forall₂_cons, cut_eq_cut_iff hR v w,
        cutItems_eq_cutItems_iff hR rest rest']

end

theorem cut_cut (v : Value) : cut (cut v) = cut v := by
  have hshape : v.SameShape (fun s t => cutText s = cutText t) (cut v) :=
    sameShape_cut (R := fun s t => cutText s = cutText t) (fun s => (cutText_cutText s).symm) v
  exact ((cut_eq_cut_iff (fun _ _ => Iff.rfl) v (cut v)).mpr hshape).symm

end Shapes

/-- That one of some fragments stands in a name, in lower case. -/
def Names (fragments : List String) (name : String) : Prop :=
  ∃ fragment ∈ fragments, ∃ before after,
    (Text.lower name).toList = before ++ fragment.toList ++ after

def NamesSecret (name : String) : Prop := Names ["password", "secret", "key"] name

/-- That a name is that of a token or of a code, but not of an error code. -/
def NamesToken (name : String) : Prop := Names ["token", "code"] name ∧ Text.lower name ≠ "error_code"

theorem Names.mono {fragments more : List String} {name : String} (h : Names fragments name)
    (hsub : fragments ⊆ more) : Names more name := by
  obtain ⟨fragment, hmem, hfound⟩ := h
  exact ⟨fragment, hsub hmem, hfound⟩

theorem hasFragment_lower_iff {fragments : List String} {name : String} :
    Text.hasFragment fragments (Text.lower name) = true ↔ Names fragments name := by
  rw [Text.hasFragment, List.any_eq_true]
  constructor
  · rintro ⟨fragment, hmem, h⟩
    exact ⟨fragment, hmem, Text.occursIn_iff.mp h⟩
  · rintro ⟨fragment, hmem, h⟩
    exact ⟨fragment, hmem, Text.occursIn_iff.mpr h⟩

section Exposures

variable {name : String}

theorem namesSecret_iff :
    Text.hasFragment redactedFragments (Text.lower name) = true ↔ NamesSecret name := hasFragment_lower_iff

theorem namesToken_iff :
    (Text.lower name ≠ "error_code" ∧ Text.hasFragment cutFragments (Text.lower name) = true) ↔
      NamesToken name :=
  (and_congr_right' hasFragment_lower_iff).trans and_comm

theorem exposure_of_namesSecret (h : NamesSecret name) : exposure name = .hidden := by
  have hredacted := namesSecret_iff.mpr h
  simp only [exposure, if_pos hredacted]

theorem exposure_of_namesToken (hsecret : ¬ NamesSecret name) (h : NamesToken name) :
    exposure name = .shortened := by
  have hother := mt namesSecret_iff.mp hsecret
  have hcut := namesToken_iff.mpr h
  simp only [exposure, if_neg hother, if_pos hcut]

theorem exposure_of_others (hsecret : ¬ NamesSecret name) (htoken : ¬ NamesToken name) :
    exposure name = .whole := by
  have hother := mt namesSecret_iff.mp hsecret
  have hwhole := mt namesToken_iff.mp htoken
  simp only [exposure, if_neg hother, if_neg hwhole]

/-- The name of an error code has a fragment of the names of codes, but its value is shown. -/
theorem exposure_of_errorCode (h : Text.lower name = "error_code") : exposure name = .whole := by
  have hsecret : ¬ NamesSecret name := by
    rw [← namesSecret_iff, h]
    decide
  have htoken : ¬ NamesToken name := fun htoken => htoken.2 h
  exact exposure_of_others hsecret htoken

end Exposures

theorem Exposure.apply_apply (e : Exposure) (v : Value) : e.apply (e.apply v) = e.apply v := by
  cases e with
  | hidden => rfl
  | shortened => exact cut_cut v
  | whole => rfl

/-- How an entry is shown: without its value, with its texts cut, or as it is. -/
inductive ShownAs : String × Value → String × Value → Prop
  | hidden {name : String} {value : Value} (secret : NamesSecret name) :
      ShownAs (name, value) (name, .text "[REDACTED]")
  | shortened {name : String} {value shown : Value} (other : ¬ NamesSecret name) (token : NamesToken name)
      (sameShape : value.SameShape (fun s t => t = cutText s) shown) : ShownAs (name, value) (name, shown)
  | whole {name : String} {value : Value} (other : ¬ NamesSecret name) (other' : ¬ NamesToken name) :
      ShownAs (name, value) (name, value)

theorem shownAs_apply (name : String) (value : Value) :
    ShownAs (name, value) (name, (exposure name).apply value) := by
  by_cases hsecret : NamesSecret name
  · rw [exposure_of_namesSecret hsecret]
    exact .hidden hsecret
  · by_cases htoken : NamesToken name
    · rw [exposure_of_namesToken hsecret htoken]
      exact .shortened hsecret htoken (sameShape_cut (R := fun s t => t = cutText s) (fun _ => rfl) value)
    · rw [exposure_of_others hsecret htoken]
      exact .whole hsecret htoken

theorem sanitize_sanitize (fields : Fields) : sanitize (sanitize fields) = sanitize fields := by
  induction fields with
  | nil => rfl
  | cons e rest ih =>
      obtain ⟨name, value⟩ := e
      rw [sanitize_cons, sanitize_cons, Exposure.apply_apply, ih]

theorem map_fst_sanitize (fields : Fields) : (sanitize fields).map Prod.fst = fields.map Prod.fst := by
  rw [sanitize, List.map_map]
  rfl

theorem forall₂_shownAs_sanitize (fields : Fields) : List.Forall₂ ShownAs fields (sanitize fields) := by
  induction fields with
  | nil => exact .nil
  | cons e rest ih =>
      obtain ⟨name, value⟩ := e
      rw [sanitize_cons]
      exact .cons (shownAs_apply name value) ih

theorem find?_sanitize (fields : Fields) (name : String) :
    (sanitize fields).find? name = (fields.find? name).map (exposure name).apply := by
  induction fields with
  | nil => rfl
  | cons e rest ih =>
      obtain ⟨n, v⟩ := e
      unfold Fields.find? at ih ⊢
      rw [sanitize_cons, List.lookup_cons, List.lookup_cons, ih]
      by_cases h : name = n
      · simp [h]
      · rw [beq_false_of_ne h]

theorem sanitize_put (name : String) (value : Value) (fields : Fields) :
    sanitize (Fields.put name value fields) =
      Fields.put name ((exposure name).apply value) (sanitize fields) := by
  induction fields with
  | nil => rfl
  | cons e rest ih =>
      obtain ⟨n, v⟩ := e
      rw [Fields.put, sanitize_cons, Fields.put]
      by_cases h : n = name
      · rw [if_pos h, if_pos h, sanitize_cons, h]
      · rw [if_neg h, if_neg h, sanitize_cons, ih]

theorem sanitize_merge (fields more : Fields) :
    sanitize (Fields.merge fields more) = Fields.merge (sanitize fields) (sanitize more) := by
  induction more generalizing fields with
  | nil => rfl
  | cons e rest ih =>
      obtain ⟨name, value⟩ := e
      rw [Fields.merge_cons, ih, sanitize_put, sanitize_cons, Fields.merge_cons]

namespace Message

/-- A message shows no more of its fields than what remains when they are sanitized. -/
theorem exchange_congr {fields fields' : Fields} (h : sanitize fields = sanitize fields')
    (source destination type : String) (severity : Severity) :
    exchange source destination type fields severity =
      exchange source destination type fields' severity := by
  funext now
  rw [exchange, exchange, h]

theorem httpRequest_congr {parameters parameters' headers headers' : Fields}
    (hparameters : sanitize parameters = sanitize parameters')
    (hheaders : sanitizeHeaders headers = sanitizeHeaders headers') (component : Component)
    (method path : Value) :
    httpRequest component method path parameters headers =
      httpRequest component method path parameters' headers' := by
  have hempty : headers.isEmpty = headers'.isEmpty := by
    have hmapped := congrArg List.isEmpty hheaders
    unfold sanitizeHeaders at hmapped
    rwa [List.isEmpty_map, List.isEmpty_map] at hmapped
  funext now
  unfold httpRequest requestFields
  rw [hparameters, hheaders, hempty]

/-- The fields of a request and its parameters and headers, none of them sanitized but the headers. -/
def plainRequestFields (method path : Value) (parameters headers : Fields) : Fields :=
  let fields := Fields.merge [("method", method), ("path", path)] parameters
  if headers.isEmpty then fields
  else Fields.put "headers" (.object (sanitizeHeaders headers)) fields

theorem exposure_method : exposure "method" = .whole := by decide +kernel

theorem exposure_path : exposure "path" = .whole := by decide +kernel

theorem exposure_headers : exposure "headers" = .whole := by decide +kernel

/-- It makes no difference whether parameters are sanitized before they stand among the fields of a request
or with them. -/
theorem sanitize_plainRequestFields (method path : Value) (parameters headers : Fields) :
    sanitize (plainRequestFields method path parameters headers) =
      requestFields method path parameters headers := by
  have hbase : sanitize [("method", method), ("path", path)] = [("method", method), ("path", path)] := by
    rw [sanitize_cons, sanitize_cons, exposure_method, exposure_path]
    rfl
  unfold plainRequestFields requestFields
  dsimp only
  split
  · rw [sanitize_merge, hbase]
  · rw [sanitize_put, sanitize_merge, hbase, exposure_headers]
    rfl

theorem sanitize_requestFields (method path : Value) (parameters headers : Fields) :
    sanitize (requestFields method path parameters headers) =
      requestFields method path parameters headers := by
  rw [← sanitize_plainRequestFields, sanitize_sanitize]

/-- The lines of a message on a request that shows some fields as they are. -/
def requestLines (component : Component) (now : Int) (fields : Fields) : List String :=
  header now Component.client.name component.title ::
    paint (typeColour "HTTP-REQUEST" .information) ("HTTP-REQUEST" ++ ":") ::
      (fields.map fun (name, value) => fieldLine name value) ++ [separator]

theorem lines_httpRequest (component : Component) (method path : Value) (parameters headers : Fields)
    (now : Int) :
    (httpRequest component method path parameters headers now).lines =
      requestLines component now (requestFields method path parameters headers) := by
  rw [httpRequest, exchange, sanitize_requestFields]
  rfl

end Message

/-- Sanitizing twice is sanitizing once. It keeps the names and their order, and every value except that it
leaves out the values of secrets and cuts the texts of tokens, at any depth of lists and nowhere else. The
message on a request shows the fields that are left when the parameters alone are sanitized, or when all
fields are sanitized once. -/
theorem sanitized_once_for_all (fields : Fields) :
    sanitize (sanitize fields) = sanitize fields ∧
    (sanitize fields).map Prod.fst = fields.map Prod.fst ∧
    List.Forall₂ ShownAs fields (sanitize fields) ∧
    (∀ name, ¬ Names ["password", "secret", "key", "token", "code"] name ∨ Text.lower name = "error_code" →
      (sanitize fields).find? name = fields.find? name) ∧
    ∀ (component : Component) (method path : Value) (headers : Fields) (now : Int),
      (Message.httpRequest component method path fields headers now).lines =
        Message.requestLines component now (Message.plainRequestFields method path (sanitize fields) headers) ∧
      (Message.httpRequest component method path fields headers now).lines =
        Message.requestLines component now (sanitize (Message.plainRequestFields method path fields headers)) := by
  refine ⟨sanitize_sanitize fields, map_fst_sanitize fields, forall₂_shownAs_sanitize fields, ?_, ?_⟩
  · intro name hname
    have hwhole : exposure name = .whole := by
      rcases hname with hnone | herror
      · have hsecret : ¬ NamesSecret name := fun h => hnone (h.mono (by decide))
        have htoken : ¬ NamesToken name := fun h => hnone (h.1.mono (by decide))
        exact exposure_of_others hsecret htoken
      · exact exposure_of_errorCode herror
    rw [find?_sanitize, hwhole]
    cases fields.find? name <;> rfl
  · intro component method path headers now
    have hlines := Message.lines_httpRequest component method path fields headers now
    constructor
    · exact hlines
    · rw [Message.sanitize_plainRequestFields]
      exact hlines

/-- Fields with names of all kinds: a token whose value has more than texts in it, an error code, a secret
that is that of a token too, and a name that tells of neither. -/
def mixedFields : Fields :=
  [("Access_Token", .list [.text "0123456789abcdef", .list [.text "short", .int 12345678901]]),
   ("ERROR_CODE", .text "authorization_code_expired"), ("token_secret", .object [("a", .null)]),
   ("scope", .text "read everything")]

/-- The error code and the scope of these fields are shown as they are, however often they are sanitized. -/
theorem mixedFields_sanitized_once :
    Text.lower "ERROR_CODE" = "error_code" ∧
    ¬ Names ["password", "secret", "key", "token", "code"] "scope" ∧
    (sanitize (sanitize mixedFields)).find? "ERROR_CODE" = some (.text "authorization_code_expired") ∧
    (sanitize (sanitize mixedFields)).find? "scope" = some (.text "read everything") := by
  obtain ⟨hagain, -, -, hkept, -⟩ := sanitized_once_for_all mixedFields
  have hlower : Text.lower "ERROR_CODE" = "error_code" := by decide +kernel
  have hscope : ¬ Names ["password", "secret", "key", "token", "code"] "scope" := by
    intro h
    exact absurd (hasFragment_lower_iff.mpr h) (by decide +kernel)
  refine ⟨hlower, hscope, ?_, ?_⟩
  · rw [hagain, hkept "ERROR_CODE" (.inr hlower)]
    simp [mixedFields, Fields.find?, List.lookup_cons]
  · rw [hagain, hkept "scope" (.inl hscope)]
    simp [mixedFields, Fields.find?, List.lookup_cons]

end Log
end OAuthGrant

import OAuthGrant.Proofs.WholeText
import OAuthGrant.TokenResponse

/-!
# JSON text without surrogates

Writing a value as JSON escapes no surrogate and makes none, so that the text is whole if and only if
all texts and names in the value are. Together with what `Value.jsonReady` refuses this tells exactly
which values can stand in a body that can be sent.
-/

namespace OAuthGrant.Value
open Text (isWhole isStandIn Ascii)

mutual

def wholeTexts : Value → Bool
  | text s => isWhole s
  | list items => wholeItems items
  | object fields => wholeFields fields
  | _ => true

def wholeItems : List Value → Bool
  | [] => true
  | v :: rest => v.wholeTexts && wholeItems rest

def wholeFields : List (String × Value) → Bool
  | [] => true
  | (name, v) :: rest => isWhole name && v.wholeTexts && wholeFields rest

end

theorem any_isStandIn_jsonChar (c : Char) : (jsonChar c).any isStandIn = isStandIn c := by
  unfold jsonChar
  split
  · next h => subst h; decide
  split
  · next h => subst h; decide
  split
  · next h => subst h; decide
  split
  · next h => subst h; decide
  split
  · next h => subst h; decide
  split
  · next h => rw [Text.isStandIn_of_lt (c := c) (by omega)]; decide
  split
  · next h => rw [Text.isStandIn_of_lt (c := c) (by omega)]; decide
  split
  · next h =>
      rw [Text.isStandIn_of_lt (c := c) (by omega), List.any_cons, List.any_cons,
        (Text.ascii_hex 4 c.toNat).any_isStandIn]
      decide
  · simp

theorem isWhole_jsonText (s : String) : isWhole (jsonText s) = isWhole s := by
  rw [jsonText, Text.isWhole_ofList, isWhole, List.any_append, List.any_cons, List.any_flatMap]
  simp only [any_isStandIn_jsonChar]
  have hquote : isStandIn '"' = false := by decide
  simp [hquote]

mutual

/-- The JSON text of a value is whole if and only if its texts are. -/
theorem isWhole_json : (v : Value) → isWhole v.json = v.wholeTexts
  | null => rfl
  | bool b => by cases b <;> rfl
  | int n => Text.isWhole_toString n
  | float x => by
      rw [json]
      split
      · exact isWhole_shownFloat x
      · rfl
  | text s => isWhole_jsonText s
  | list items => by
      have hopen : isWhole "[" = true := by decide
      have hclose : isWhole "]" = true := by decide
      rw [json, Text.isWhole_append, Text.isWhole_append, Text.isWhole_intercalate (by decide),
        isWhole_jsonItems items, hopen, hclose, Bool.true_and, Bool.and_true, wholeTexts]
  | object fields => by
      have hopen : isWhole "\x7b" = true := by decide
      have hclose : isWhole "\x7d" = true := by decide
      rw [json, Text.isWhole_append, Text.isWhole_append, Text.isWhole_intercalate (by decide),
        isWhole_jsonFields fields, hopen, hclose, Bool.true_and, Bool.and_true, wholeTexts]
  | foreign kind shown => by
      have hnull : isWhole "null" = true := by decide
      simp [json, wholeTexts, hnull]

theorem isWhole_jsonItems : (items : List Value) → (jsonItems items).all isWhole = wholeItems items
  | [] => rfl
  | v :: rest => by
      rw [jsonItems, List.all_cons, isWhole_json v, isWhole_jsonItems rest, wholeItems]

theorem isWhole_jsonFields :
    (fields : List (String × Value)) → (jsonFields fields).all isWhole = wholeFields fields
  | [] => rfl
  | (name, v) :: rest => by
      rw [jsonFields, List.all_cons, Text.isWhole_append, Text.isWhole_append, isWhole_jsonText,
        isWhole_json v, isWhole_jsonFields rest, wholeFields, show isWhole ":" = true by decide,
        Bool.and_true]

end

mutual

/-- Whether a value can stand in a body inside `room - 1` others: nothing in it comes from outside the
data formats, no integer in it has too many digits, no text or name has a surrogate, and it is not nested
too deep. -/
def isSendable (room : Nat) (v : Value) : Bool :=
  match room, v with
  | 0, _ => false
  | _ + 1, int n => Decimal.Numeral.isWritable n
  | _ + 1, text s => isWhole s
  | room + 1, list items => areSendable room items
  | room + 1, object fields => haveSendable room fields
  | _ + 1, foreign _ _ => false
  | _ + 1, _ => true

def areSendable (room : Nat) (items : List Value) : Bool :=
  match items with
  | [] => true
  | v :: rest => v.isSendable room && areSendable room rest

/-- Whether all entries of a dictionary can stand in a body. -/
def haveSendable (room : Nat) (fields : List (String × Value)) : Bool :=
  match fields with
  | [] => true
  | (name, v) :: rest => isWhole name && v.isSendable room && haveSendable room rest

end

mutual

/-- A value that can stand in a body is made ready without a failure, and then its texts are whole and it
can be written; no other value is. -/
theorem isSendable_iff (room : Nat) (v : Value) :
    v.isSendable room = true ↔
      ∃ w, v.jsonReady room = .ok w ∧ w.wholeTexts = true ∧ w.isWritable = true := by
  match room, v with
  | 0, v => simp [isSendable, jsonReady]
  | _ + 1, null => simp [isSendable, jsonReady, wholeTexts, isWritable]
  | _ + 1, bool b => simp [isSendable, jsonReady, wholeTexts, isWritable]
  | _ + 1, int n => simp [isSendable, jsonReady, wholeTexts, isWritable]
  | _ + 1, float x =>
      cases h : x.isFinite <;> simp [isSendable, jsonReady, wholeTexts, isWritable, h]
  | _ + 1, text s => simp [isSendable, jsonReady, wholeTexts, isWritable]
  | _ + 1, foreign kind shown => simp [isSendable, jsonReady]
  | room + 1, list items =>
      rw [isSendable, jsonReady, areSendable_iff room items]
      cases jsonReadyItems room items with
      | error f => simp [bind, Except.bind]
      | ok ready => simp [bind, Except.bind, wholeTexts, isWritable]
  | room + 1, object fields =>
      rw [isSendable, jsonReady, haveSendable_iff room fields]
      cases jsonReadyFields room fields with
      | error f => simp [bind, Except.bind]
      | ok ready => simp [bind, Except.bind, wholeTexts, isWritable]

theorem areSendable_iff (room : Nat) (items : List Value) :
    areSendable room items = true ↔
      ∃ ready, jsonReadyItems room items = .ok ready ∧ wholeItems ready = true ∧
        areWritable ready = true := by
  match items with
  | [] => simp [areSendable, jsonReadyItems, wholeItems, areWritable]
  | v :: rest =>
      rw [areSendable, jsonReadyItems, Bool.and_eq_true, isSendable_iff room v,
        areSendable_iff room rest]
      cases v.jsonReady room with
      | error f => simp [bind, Except.bind]
      | ok w =>
          cases jsonReadyItems room rest with
          | error f => simp [bind, Except.bind]
          | ok ready =>
              simp only [bind, Except.bind, Except.ok.injEq, exists_eq_left', wholeItems, areWritable,
                Bool.and_eq_true]
              exact and_and_and_comm

theorem haveSendable_iff (room : Nat) (fields : List (String × Value)) :
    haveSendable room fields = true ↔
      ∃ ready, jsonReadyFields room fields = .ok ready ∧ wholeFields ready = true ∧
        haveWritable ready = true := by
  match fields with
  | [] => simp [haveSendable, jsonReadyFields, wholeFields, haveWritable]
  | (name, v) :: rest =>
      rw [haveSendable, jsonReadyFields, Bool.and_eq_true, Bool.and_eq_true, isSendable_iff room v,
        haveSendable_iff room rest, ← Text.Unencodable.inUtf8?_eq_none_iff]
      cases hname : Text.Unencodable.inUtf8? name with
      | some characters => simp
      | none =>
          have hwhole : isWhole name = true := Text.Unencodable.inUtf8?_eq_none_iff.mp hname
          cases v.jsonReady room with
          | error f => simp [bind, Except.bind]
          | ok w =>
              cases jsonReadyFields room rest with
              | error f => simp [bind, Except.bind]
              | ok ready =>
                  simp only [bind, Except.bind, Except.ok.injEq, exists_eq_left', wholeFields,
                    haveWritable, hwhole, true_and, Bool.and_eq_true]
                  exact and_and_and_comm

end

end OAuthGrant.Value

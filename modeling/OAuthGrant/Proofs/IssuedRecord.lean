import OAuthGrant.CodeStore
import OAuthGrant.Proofs.ValidData

/-!
# The record of an issued code

`CodeRecord.new` takes any values and makes a record of them only if they are what a record holds. The
main statement `new_eq_ok` says that such a record has exactly the client, the scopes and the redirect
URI it was asked for, and lives from the instant of its issue for the lifetime of the store.
-/

namespace OAuthGrant
open Time (Timestamp)

theorem Time.Timestamp.later?_eq_some_iff {t u : Timestamp} {d : Int} :
    t.later? d = some u ↔ Timestamp.inRange (t.wall + d) = true ∧ u = { t with wall := t.wall + d } := by
  unfold Timestamp.later?
  split
  · next h => simp [h, eq_comm]
  · next h => simp [h]

namespace CodeRecord

/-- Whether a text is an element of the set that is made of a value. -/
def HasElement : Value → String → Prop
  | .list items, x => .text x ∈ items
  | .text s, x => ∃ c ∈ s.toList, x = String.singleton c
  | .object fields, x => x ∈ fields.map Prod.fst
  | _, _ => False

theorem sameElement_text {x : String} {v : Value} :
    (Value.text x).sameElement v = true ↔ v = .text x := by
  cases v with
  | text s =>
      rw [show (Value.text x).sameElement (.text s) = (x == s) from rfl, beq_iff_eq, Value.text.injEq]
      exact eq_comm
  | float f => cases h : f.toInt? <;> simp [Value.sameElement, Value.number?, h]
  | _ => simp [Value.sameElement, Value.number?]

theorem text_mem_distinct {x : String} {items : List Value} :
    .text x ∈ elementsOf.distinct items ↔ .text x ∈ items := by
  suffices ∀ kept : List Value,
      .text x ∈ items.foldl (fun kept v => if kept.any v.sameElement then kept else kept ++ [v]) kept ↔
        .text x ∈ kept ∨ .text x ∈ items by
    simpa [elementsOf.distinct] using this []
  induction items with
  | nil => simp
  | cons v rest ih =>
      intro kept
      rw [List.foldl_cons, ih, List.mem_cons]
      by_cases hv : v = .text x
      · subst hv
        -- A text that is dropped has been kept before.
        have known : kept.any (Value.text x).sameElement = true ↔ .text x ∈ kept := by
          simp [List.any_eq_true, sameElement_text]
        split
        · next h => simp [known.mp h]
        · simp
      · have hne : Value.text x ≠ v := Ne.symm hv
        split <;> simp [hne]

theorem text_mem_elementsOf {v : Value} {elements : List Value} (h : elementsOf v = .ok elements)
    (x : String) : .text x ∈ elements ↔ HasElement v x := by
  cases v with
  | list items =>
      simp only [elementsOf] at h
      split at h
      · cases h
      · cases h
        exact text_mem_distinct
  | text s =>
      cases h
      simp only [text_mem_distinct, HasElement, List.mem_map, Value.text.injEq, eq_comm]
  | object fields =>
      cases h
      simp only [text_mem_distinct, HasElement, List.mem_map, Value.text.injEq]
  | _ => cases h

/-- That a record says what a code was asked for: under which code, for which client, scopes and redirect
URI, at which instant, and for how long. -/
structure Describes (r : CodeRecord) (lifetime now : Int) (code : String)
    (clientId scopes redirectUri : Value) : Prop where
  code : r.code = code
  clientId : clientId = .text r.clientId
  scopes : ∀ x, x ∈ r.scopes ↔ HasElement scopes x
  redirectUri : redirectUri = .ofOption r.redirectUri
  createdAt : r.createdAt = Timestamp.utc now
  expiresAt : r.expiresAt = Timestamp.utc (now + lifetime)

theorem new_eq_ok {lifetime now : Int} {code : String} {clientId scopes redirectUri : Value}
    {r : CodeRecord} (h : new lifetime now code clientId scopes redirectUri = .ok r) :
    r.Describes lifetime now code clientId scopes redirectUri := by
  unfold new at h
  cases he : elementsOf scopes with
  | error f => simp [he, bind, Except.bind] at h
  | ok elements =>
      simp only [he, bind, Except.bind] at h
      split at h
      · cases h
      · next expiresAt hl =>
        simp only [Checked.toExcept_eq_ok_iff, Checked.seq_eq_valid_iff, Checked.map_eq_valid_iff,
          Checked.within_eq_valid_iff, Reader.text_eq_valid_iff, Reader.items_text_eq_valid_iff,
          Reader.optionalText_eq_valid_iff] at h
        obtain ⟨_, uri, ⟨_, xs, ⟨id, rfl, rfl⟩, hxs, rfl⟩, rfl, rfl⟩ := h
        refine ⟨rfl, rfl, fun x => ?_, rfl, rfl, (Timestamp.later?_eq_some_iff.mp hl).2⟩
        rw [ScopeSet.mem_ofList, ← text_mem_elementsOf he x, hxs]
        simp

theorem new_congr {lifetime lifetime' now now' : Int} (hlifetime : lifetime' = lifetime)
    (hnow : now' = now) (code code' : String) (clientId scopes redirectUri : Value) :
    new lifetime' now' code' clientId scopes redirectUri =
      (new lifetime now code clientId scopes redirectUri).map fun r => { r with code := code' } := by
  rw [hlifetime, hnow]
  unfold new
  cases elementsOf scopes with
  | error f => rfl
  | ok elements =>
      dsimp only [bind, Except.bind]
      cases (Time.Timestamp.utc now).later? lifetime with
      | none => rfl
      | some expiresAt =>
          dsimp only
          cases (Reader.text clientId).within "client_id" <;>
            cases (Reader.items Reader.text 0 elements).within "scopes" <;>
              cases (Reader.optionalText redirectUri).within "redirect_uri" <;> rfl

theorem Describes.unique {r r' : CodeRecord} {lifetime now : Int} {code : String}
    {clientId scopes redirectUri : Value}
    (h : r.Describes lifetime now code clientId scopes redirectUri)
    (h' : r'.Describes lifetime now code clientId scopes redirectUri) : r = r' := by
  obtain ⟨rc, rid, rs, ru, rcr, re⟩ := r
  obtain ⟨rc', rid', rs', ru', rcr', re'⟩ := r'
  obtain ⟨h₁, h₂, h₃, h₄, h₅, h₆⟩ := h
  obtain ⟨h₁', h₂', h₃', h₄', h₅', h₆'⟩ := h'
  have hid : rid = rid' := by simpa [h₂] using h₂'
  have hs : rs = rs' := ScopeSet.ext fun x => (h₃ x).trans (h₃' x).symm
  have hu : ru = ru' := Value.ofOption_injective (h₄.symm.trans h₄')
  simp only [CodeRecord.mk.injEq]
  exact ⟨h₁.trans h₁'.symm, hid, hs, hu, h₅.trans h₅'.symm, h₆.trans h₆'.symm⟩

end CodeRecord
end OAuthGrant

/-!
# Fragments of a text

Whether a text occurs inside another one.
-/

namespace OAuthGrant.Text

/-- Whether the characters of `fragment` occur next to each other. -/
def occursIn (fragment : List Char) : List Char → Bool
  | [] => fragment.isEmpty
  | c :: cs => fragment.isPrefixOf (c :: cs) || occursIn fragment cs

def hasFragment (fragments : List String) (s : String) : Bool :=
  fragments.any fun f => occursIn f.toList s.toList

theorem occursIn_iff {fragment cs : List Char} :
    occursIn fragment cs = true ↔ ∃ before after, cs = before ++ fragment ++ after := by
  induction cs with
  | nil =>
    simp only [occursIn, List.isEmpty_iff]
    constructor
    · rintro rfl
      exact ⟨[], [], rfl⟩
    · rintro ⟨before, after, h⟩
      have h' := h.symm
      simp only [List.append_eq_nil_iff] at h'
      exact h'.1.2
  | cons c cs ih =>
    simp only [occursIn, Bool.or_eq_true, ih, List.isPrefixOf_iff_prefix]
    constructor
    · rintro (⟨after, h⟩ | ⟨before, after, h⟩)
      · exact ⟨[], after, by simp [h]⟩
      · exact ⟨c :: before, after, by simp [h]⟩
    · rintro ⟨before, after, h⟩
      cases before with
      | nil => exact Or.inl ⟨after, by simpa using h.symm⟩
      | cons d before =>
        simp only [List.cons_append, List.cons.injEq] at h
        exact Or.inr ⟨before, after, h.2⟩

end OAuthGrant.Text

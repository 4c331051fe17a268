import OAuthGrant.GrantRequest
import OAuthGrant.ProtocolError

/-!
# Reading that succeeds

A `Checked` value is valid exactly if all that it was read from is valid. The equivalences below open a
successful reading into its parts, and say for each reader of texts which values it takes.
-/

namespace OAuthGrant

/-- A step succeeds exactly if what it starts from is there and it succeeds on that. -/
theorem bind_eq_ok_iff {α β : Type} {x : Except Failure α} {f : α → Except Failure β} {b : β} :
    (x >>= f) = .ok b ↔ ∃ a, x = .ok a ∧ f a = .ok b := by
  cases x <;> simp [bind, Except.bind]

namespace Checked

variable {α β : Type}

theorem map_eq_valid_iff {f : α → β} {c : Checked α} {b : β} :
    f <$> c = valid b ↔ ∃ a, c = valid a ∧ f a = b := by
  cases c with
  | valid a => simp
  | invalid issues => simp

theorem seq_eq_valid_iff {f : Checked (α → β)} {c : Checked α} {b : β} :
    f <*> c = valid b ↔ ∃ g a, f = valid g ∧ c = valid a ∧ g a = b := by
  cases f <;> cases c <;> simp [Seq.seq, ap]

theorem within_eq_valid_iff {step : String} {c : Checked α} {a : α} :
    c.within step = valid a ↔ c = valid a := by
  cases c <;> simp [within]

theorem toExcept_eq_ok_iff {c : Checked α} {a : α} : c.toExcept = .ok a ↔ c = valid a := by
  cases c <;> simp

end Checked

namespace Value

theorem ofOption_injective {a b : Option String} (h : ofOption a = ofOption b) : a = b := by
  cases a <;> cases b <;> simp_all [ofOption]

end Value

namespace Reader

theorem text_eq_valid_iff {v : Value} {s : String} : text v = .valid s ↔ v = .text s := by
  cases v <;> simp [text, Checked.fault]

theorem whole_eq_valid_iff {α : Type} {read : String → Checked α} {s : String} {a : α} :
    whole read s = .valid a ↔ Text.isWhole s = true ∧ read s = .valid a := by
  unfold whole
  split
  · next h => simp [h]
  · next h => simp [h, Checked.fault]

theorem nonEmpty_eq_valid_iff {v : Value} {s : { s : String // s ≠ "" }} :
    nonEmpty v = .valid s ↔ v = .text s.1 ∧ Text.isWhole s.1 = true := by
  obtain ⟨s, hs⟩ := s
  cases v with
  | text u =>
      rw [nonEmpty, whole_eq_valid_iff]
      by_cases hu : u = ""
      · subst hu
        simp [Checked.fault, hs.symm]
      · simp only [hu, dite_false, Checked.valid.injEq, Subtype.mk.injEq, Value.text.injEq]
        constructor
        · rintro ⟨hwhole, rfl⟩
          exact ⟨rfl, hwhole⟩
        · rintro ⟨rfl, hwhole⟩
          exact ⟨hwhole, rfl⟩
  | _ => simp [nonEmpty, Checked.fault]

theorem optionalText_eq_valid_iff {v : Value} {o : Option String} :
    optionalText v = .valid o ↔ v = .ofOption o := by
  cases v <;> cases o <;> simp [optionalText, text, Value.ofOption, Checked.fault]

/-- Reading a list of texts gives back the texts it was made of. -/
theorem items_text_eq_valid_iff {position : Nat} {vs : List Value} {xs : List String} :
    items text position vs = .valid xs ↔ vs = xs.map .text := by
  induction vs generalizing position xs with
  | nil => cases xs <;> simp [items]
  | cons v vs ih =>
      simp only [items, Checked.seq_eq_valid_iff, Checked.map_eq_valid_iff,
        Checked.within_eq_valid_iff, text_eq_valid_iff, ih]
      constructor
      · rintro ⟨g, ys, ⟨y, rfl, rfl⟩, rfl, rfl⟩
        rfl
      · intro h
        cases xs with
        | nil => simp at h
        | cons x xs =>
            simp only [List.map_cons, List.cons.injEq] at h
            exact ⟨List.cons x, xs, ⟨x, h.1, rfl⟩, h.2, rfl⟩

end Reader
end OAuthGrant

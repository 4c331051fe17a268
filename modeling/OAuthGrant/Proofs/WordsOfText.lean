import OAuthGrant.Text.Blank

/-!
# The words of a text

`Text.words` splits a text from left to right. What it finds is said here without the order in which it
works: a word is a run of characters that are not blank, with a blank or an end of the text on either
side. A blank cuts a text into two parts with words of their own, and a part without blanks is one word.
-/

namespace OAuthGrant.Text

/-- A run of characters that are not blank, which cannot be made longer on either side. -/
structure IsRun (w cs : List Char) : Prop where
  ne_nil : w ≠ []
  solid : ∀ c ∈ w, isBlank c = false
  longest : ∃ before after, cs = before ++ w ++ after ∧
    (∀ c, before.getLast? = some c → isBlank c = true) ∧
    (∀ c, after.head? = some c → isBlank c = true)

def IsWord (w s : String) : Prop := IsRun w.toList s.toList

variable {w u v : List Char} {c : Char}

theorem IsRun.not_mem (h : IsRun w u) (hc : isBlank c = true) : c ∉ w := by
  intro hmem
  rw [h.solid c hmem] at hc
  cases hc

/-- A run on the left of a blank or on the right of it is a run of the whole. -/
theorem IsRun.of_parts (hc : isBlank c = true) (h : IsRun w u ∨ IsRun w v) : IsRun w (u ++ c :: v) := by
  rcases h with ⟨hne, hsolid, before, after, rfl, hbefore, hafter⟩ |
    ⟨hne, hsolid, before, after, rfl, hbefore, hafter⟩
  · refine ⟨hne, hsolid, before, after ++ c :: v, by simp, hbefore, ?_⟩
    intro d hd
    cases after with
    | nil => cases hd; exact hc
    | cons a after => exact hafter d hd
  · refine ⟨hne, hsolid, u ++ c :: before, after, by simp, ?_, hafter⟩
    intro d hd
    rw [List.getLast?_append, List.getLast?_cons] at hd
    cases hlast : before.getLast? with
    | none => rw [hlast] at hd; cases hd; exact hc
    | some e => rw [hlast] at hd; cases hd; exact hbefore _ hlast

theorem IsRun.in_part (hc : isBlank c = true) (h : IsRun w (u ++ c :: v)) : IsRun w u ∨ IsRun w v := by
  have hmem := h.not_mem hc
  obtain ⟨hne, hsolid, before, after, heq, hbefore, hafter⟩ := h
  rcases List.append_eq_append_iff.mp heq with ⟨t, hleft, hright⟩ | ⟨t, rfl, rfl⟩
  · cases t with
    | nil =>
        -- The run ends where the blank stands.
        rw [List.append_nil] at hleft
        exact .inl ⟨hne, hsolid, before, [], by rw [List.append_nil, hleft], hbefore, nofun⟩
    | cons d t =>
        cases hright
        rcases List.append_eq_append_iff.mp hleft with ⟨a, rfl, rfl⟩ | ⟨a, rfl, hrun⟩
        · exact absurd (List.mem_append_right a List.mem_cons_self) hmem
        · cases a with
          | nil =>
              rw [List.nil_append] at hrun
              exact absurd (hrun ▸ List.mem_cons_self) hmem
          | cons e a =>
              cases hrun
              refine .inr ⟨hne, hsolid, a, after, rfl, ?_, hafter⟩
              intro d hd
              apply hbefore d
              rw [List.getLast?_append, List.getLast?_cons, hd]
              rfl
  · refine .inl ⟨hne, hsolid, before, t, rfl, hbefore, ?_⟩
    intro d hd
    apply hafter d
    rw [List.head?_append, hd]
    rfl

theorem isRun_of_solid (h : ∀ c ∈ u, isBlank c = false) : IsRun w u ↔ u ≠ [] ∧ w = u := by
  constructor
  · rintro ⟨hne, -, before, after, rfl, hbefore, hafter⟩
    have hfirst : before = [] := by
      cases hlast : before.getLast? with
      | none => exact List.getLast?_eq_none_iff.mp hlast
      | some d =>
          have hblank := hbefore d hlast
          rw [h d (by simp [List.mem_of_getLast? hlast])] at hblank
          cases hblank
    have hend : after = [] := by
      cases after with
      | nil => rfl
      | cons d after =>
          have hblank := hafter d rfl
          rw [h d (by simp)] at hblank
          cases hblank
    subst hfirst hend
    simpa using hne
  · rintro ⟨hne, rfl⟩
    exact ⟨hne, h, [], [], by simp, nofun, nofun⟩

/-- Splitting finds the runs of what has been read and what is left to read. -/
theorem mem_splitBlank {word cs : List Char} (h : ∀ c ∈ word, isBlank c = false) :
    w ∈ splitBlank word cs ↔ IsRun w (word ++ cs) := by
  induction cs generalizing word with
  | nil =>
      rw [splitBlank, List.append_nil, isRun_of_solid h]
      by_cases hword : word = [] <;> simp [hword]
  | cons c cs ih =>
      rw [splitBlank]
      cases hc : isBlank c with
      | true =>
          have hparts : IsRun w (word ++ c :: cs) ↔ (word ≠ [] ∧ w = word) ∨ IsRun w cs := by
            rw [← isRun_of_solid h]
            exact ⟨IsRun.in_part hc, IsRun.of_parts hc⟩
          have hrest : w ∈ splitBlank [] cs ↔ IsRun w cs := @ih [] nofun
          rw [hparts, ← hrest, if_pos rfl]
          by_cases hword : word = [] <;> simp [hword]
      | false =>
          have hsolid : ∀ d ∈ word ++ [c], isBlank d = false := by
            intro d hd
            rcases List.mem_append.mp hd with hd | hd
            · exact h d hd
            · rw [List.mem_singleton.mp hd, hc]
          rw [if_neg Bool.false_ne_true, ih hsolid, List.append_assoc]
          rfl

/-- The words that are found are the words of the text. -/
theorem mem_words {w s : String} : w ∈ words s ↔ IsWord w s := by
  have hsplit : w.toList ∈ splitBlank [] s.toList ↔ IsRun w.toList s.toList :=
    @mem_splitBlank w.toList [] s.toList nofun
  rw [words, IsWord, ← hsplit, List.mem_map]
  constructor
  · rintro ⟨cs, hcs, rfl⟩
    rw [String.toList_ofList]
    exact hcs
  · intro h
    exact ⟨w.toList, h, String.ofList_toList⟩

end OAuthGrant.Text

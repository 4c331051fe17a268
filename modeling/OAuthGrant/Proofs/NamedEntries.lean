import Mathlib.Data.List.Nodup

/-!
# Entries with names

A list of entries is looked up by the name of an entry, and the first entry of a name counts. When no name
comes twice there is only one, so that entries can be dropped or changed without another one of the same
name coming to light.
-/

namespace OAuthGrant

variable {α β : Type} {name : String}

theorem lookup_eq_none_of_not_mem {entries : List (String × α)} (h : name ∉ entries.map Prod.fst) :
    entries.lookup name = none := by
  rw [List.lookup_eq_none_iff]
  intro e he
  have hne : name ≠ e.1 := fun heq => h (List.mem_map.mpr ⟨e, he, heq.symm⟩)
  simpa using hne

theorem mem_of_lookup_eq_some {entries : List (String × α)} {a : α} (h : entries.lookup name = some a) :
    name ∈ entries.map Prod.fst := by
  by_contra habsent
  rw [lookup_eq_none_of_not_mem habsent] at h
  cases h

theorem lookup_map_snd (f : α → β) (entries : List (String × α)) (name : String) :
    (entries.map fun e => (e.1, f e.2)).lookup name = (entries.lookup name).map f := by
  induction entries with
  | nil => rfl
  | cons e rest ih =>
      rw [List.map_cons, List.lookup_cons, List.lookup_cons, ih]
      cases name == e.1 <;> rfl

/-- Dropping the entries of some names changes nothing for another one. -/
theorem lookup_filter_fst (p : String → Bool) (entries : List (String × α)) (h : p name = true) :
    (entries.filter fun e => p e.1).lookup name = entries.lookup name := by
  induction entries with
  | nil => rfl
  | cons e rest ih =>
      rw [List.filter_cons, List.lookup_cons]
      cases hp : p e.1 with
      | true => rw [if_pos rfl, List.lookup_cons, ih]
      | false =>
          have hne : name ≠ e.1 := by
            rintro rfl
            rw [h] at hp
            cases hp
          rw [if_neg Bool.false_ne_true, beq_false_of_ne hne]
          exact ih

theorem lookup_filter_snd {entries : List (String × α)} (h : (entries.map Prod.fst).Nodup)
    (p : α → Bool) (name : String) :
    (entries.filter fun e => p e.2).lookup name = (entries.lookup name).filter p := by
  induction entries with
  | nil => rfl
  | cons e rest ih =>
      obtain ⟨n, a⟩ := e
      rw [List.map_cons, List.nodup_cons] at h
      have hrest := ih h.2
      rw [List.filter_cons, List.lookup_cons]
      by_cases hname : name = n
      · subst hname
        have hnone := lookup_eq_none_of_not_mem h.1
        -- No other entry has the name, so that nothing is found behind one that is dropped.
        cases hp : p a with
        | true => simp [Option.filter, hp]
        | false => simp [Option.filter, hp, hrest, hnone]
      · have hne : (name == n) = false := by simpa using hname
        cases p a with
        | true => simp [List.lookup_cons, hne, hrest]
        | false => simp [hne, hrest]

theorem lookup_filterMap_snd (f : α → β) {entries : List (String × Option α)}
    (h : (entries.map Prod.fst).Nodup) (name : String) :
    (entries.filterMap fun (n, value) => value.map fun v => (n, f v)).lookup name =
      (entries.lookup name).join.map f := by
  induction entries with
  | nil => rfl
  | cons e rest ih =>
      obtain ⟨n, value⟩ := e
      rw [List.map_cons, List.nodup_cons] at h
      have hrest := ih h.2
      rw [List.lookup_cons]
      by_cases hname : name = n
      · subst hname
        have hnone := lookup_eq_none_of_not_mem h.1
        rw [hnone] at hrest
        cases value with
        | none => simpa using hrest
        | some v => simp
      · have hne : (name == n) = false := by simpa using hname
        cases value with
        | none => simpa [hne] using hrest
        | some v => simpa [hne, List.lookup_cons] using hrest

/-- What is found among some entries is found among more, if no name comes twice there. -/
theorem lookup_of_sublist {entries entries' : List (String × α)} {a : α} (h : entries.Sublist entries')
    (hnodup : (entries'.map Prod.fst).Nodup) (hfind : entries.lookup name = some a) :
    entries'.lookup name = some a := by
  induction h with
  | slnil => exact hfind
  | @cons _ more e hsub ih =>
      rw [List.map_cons, List.nodup_cons] at hnodup
      have hrest := ih hnodup.2 hfind
      have hne : name ≠ e.1 := by
        rintro rfl
        exact hnodup.1 (mem_of_lookup_eq_some hrest)
      rw [List.lookup_cons, beq_false_of_ne hne]
      exact hrest
  | cons_cons e hsub ih =>
      rw [List.map_cons, List.nodup_cons] at hnodup
      rw [List.lookup_cons] at hfind ⊢
      cases hname : name == e.1 with
      | true => rwa [hname] at hfind
      | false =>
          rw [hname] at hfind
          exact ih hnodup.2 hfind

end OAuthGrant

import OAuthGrant.CodeStore
import OAuthGrant.Proofs.NamedEntries

/-!
# Live records

A record is live at an instant if it is stored and has not expired. Putting, erasing and pruning are
described here by what they do to the stored codes and to the live record of each code. In a store with
one record for each code, pruning cannot be seen by looking for live records, now or later.
-/

namespace OAuthGrant.CodeStore

def live? (store : CodeStore) (now : Int) (code : String) : Option CodeRecord :=
  (store.find? code).filter fun r => !r.isExpired now

variable {store : CodeStore} {now : Int} {c code : String} {r : CodeRecord}

theorem live?_eq_some_iff :
    store.live? now code = some r ↔ store.find? code = some r ∧ now ≤ r.expiresAt.instant := by
  simp [live?, Option.filter_eq_some_iff, CodeRecord.isExpired]

theorem mem_codes_of_find? (h : store.find? code = some r) : code ∈ store.codes :=
  mem_of_lookup_eq_some h

theorem mem_codes_of_live? (h : store.live? now code = some r) : code ∈ store.codes :=
  mem_codes_of_find? (live?_eq_some_iff.mp h).1

theorem live?_eq_none (h : code ∉ store.codes) : store.live? now code = none := by
  cases hlive : store.live? now code with
  | none => rfl
  | some r => exact absurd (mem_codes_of_live? hlive) h

theorem mem_codes_of_mem_prune (h : c ∈ (store.prune now).codes) : c ∈ store.codes := by
  obtain ⟨e, he, rfl⟩ := List.mem_map.mp h
  exact List.mem_map.mpr ⟨e, (List.mem_filter.mp he).1, rfl⟩

theorem map_fst_putEntry_of_mem {entries : List (String × CodeRecord)}
    (h : code ∈ entries.map Prod.fst) :
    (putEntry code r entries).map Prod.fst = entries.map Prod.fst := by
  induction entries with
  | nil => cases h
  | cons e rest ih =>
      rw [putEntry]
      split
      · next hcode => rw [List.map_cons, List.map_cons, hcode]
      · next hcode =>
          have hrest : code ∈ rest.map Prod.fst := by
            rcases List.mem_cons.mp h with rfl | hrest
            · exact absurd rfl hcode
            · exact hrest
          rw [List.map_cons, List.map_cons, ih hrest]

/-- A code that is known keeps its place, and a new one comes last. -/
theorem codes_put (store : CodeStore) (r : CodeRecord) :
    (store.put r).codes = if r.code ∈ store.codes then store.codes else store.codes ++ [r.code] := by
  unfold codes put
  split
  · next h => exact map_fst_putEntry_of_mem h
  · next h => rw [putEntry_of_not_mem h, List.map_append]; rfl

theorem mem_codes_put : c ∈ (store.put r).codes ↔ c ∈ store.codes ∨ c = r.code := by
  rw [codes_put]
  split
  · next h =>
      constructor
      · exact Or.inl
      · rintro (hc | rfl)
        · exact hc
        · exact h
  · rw [List.mem_append, List.mem_singleton]

theorem nodup_codes_erase (h : store.codes.Nodup) : (store.erase code).codes.Nodup :=
  h.sublist (List.filter_sublist.map Prod.fst)

theorem nodup_codes_prune (h : store.codes.Nodup) : (store.prune now).codes.Nodup :=
  h.sublist (List.filter_sublist.map Prod.fst)

theorem nodup_codes_put (h : store.codes.Nodup) : (store.put r).codes.Nodup := by
  rw [codes_put]
  split
  · exact h
  · next hnew =>
      rw [List.nodup_append]
      refine ⟨h, List.nodup_singleton _, ?_⟩
      intro x hx y hy hxy
      rw [List.mem_singleton] at hy
      exact hnew (hy ▸ hxy ▸ hx)

theorem live?_erase_of_ne (h : c ≠ code) : (store.erase code).live? now c = store.live? now c := by
  rw [live?, live?, find?_erase_of_ne store h]

theorem live?_put_of_ne (h : c ≠ r.code) : (store.put r).live? now c = store.live? now c := by
  rw [live?, live?, find?_put_of_ne store h]

theorem find?_prune (h : store.codes.Nodup) (now : Int) (c : String) :
    (store.prune now).find? c = (store.find? c).filter fun r => !r.isExpired now :=
  lookup_filter_snd h (fun r => !r.isExpired now) c

/-- Pruning removes no record that will be looked for when it is still live. -/
theorem live?_prune (h : store.codes.Nodup) {later : Int} (hlater : now ≤ later) :
    (store.prune now).live? later c = store.live? later c := by
  rw [live?, find?_prune h, Option.filter_filter, live?]
  congr 1
  funext r
  cases hexp : r.isExpired now with
  | false => simp
  | true => simp [CodeRecord.isExpired_mono hlater hexp]

end OAuthGrant.CodeStore

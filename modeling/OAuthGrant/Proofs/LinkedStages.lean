import Mathlib.Data.List.GetD
import OAuthGrant.Proofs.HandledRequests

/-!
# Stages of two runs that differ by requests left out

One run has made requests that the other has not. `Tracked` is what holds of the codes of a single run:
they are drawn one by one and never again, and the record of each is that of the client it was issued to.
`Linked` relates the stages of the two runs: the clocks agree, and under the name of each code they have
the same record, unless a request that was left out has used the code up. Every step that is made in both
runs keeps the link, and so does a request that is made in one of them only.
-/

namespace OAuthGrant
open CodeStore (codeBytes nextCode)
open InMemoryAuthority (tokenBytes)
open Text (isWhole)

/-- A random source that never gives a code twice. Its codes are legible, and its token values are whole
and never empty. -/
structure SoundSource (Legible : String → Prop) (random : Nat → Nat → String) : Prop where
  distinct : ∀ i j, random codeBytes i = random codeBytes j → i = j
  legible : ∀ i, Legible (random codeBytes i)
  token_ne : ∀ i, random tokenBytes i ≠ ""
  token_whole : ∀ i, isWhole (random tokenBytes i) = true

theorem getD_concat (codes : List String) (c : String) (k : Nat) :
    (codes ++ [c]).getD k "" = if k = codes.length then c else codes.getD k "" := by
  rcases Nat.lt_trichotomy k codes.length with hlt | rfl | hgt
  · rw [List.getD_append _ _ _ _ hlt, if_neg (by omega)]
  · rw [List.getD_append_right _ _ _ _ (Nat.le_refl _), Nat.sub_self, if_pos rfl]
    rfl
  · have hlength : (codes ++ [c]).length ≤ k := by rw [List.length_append]; exact hgt
    rw [List.getD_eq_default _ _ hlength, List.getD_eq_default _ _ (by omega), if_neg (by omega)]

theorem getD_concat_empty (codes : List String) (k : Nat) :
    (codes ++ [""]).getD k "" = codes.getD k "" := by
  rw [getD_concat]
  split
  · next hk => rw [hk, List.getD_eq_default _ _ (Nat.le_refl _)]
  · rfl

namespace CodeStore

variable {store store' : CodeStore} {c : String} {r : CodeRecord}

theorem erase_of_not_mem (h : c ∉ store.codes) : store.erase c = store := by
  have hall : store.entries.filter (fun e => e.1 != c) = store.entries := by
    rw [List.filter_eq_self]
    intro e he
    rw [bne_iff_ne]
    rintro rfl
    exact h (List.mem_map.mpr ⟨e, he, rfl⟩)
  rw [erase, hall]

theorem codes_sublist (h : store.entries.Sublist store'.entries) : store.codes.Sublist store'.codes :=
  h.map Prod.fst

theorem find?_of_sublist (h : store.entries.Sublist store'.entries) (hnodup : store'.codes.Nodup)
    (hfind : store.find? c = some r) : store'.find? c = some r :=
  lookup_of_sublist h hnodup hfind

end CodeStore

/-- What holds of the codes of a run at each stage, where the codes of all calls have the given owners. -/
structure Tracked (Legible : String → Prop) (owners : List Value) (stage : Stage) : Prop where
  source : SoundSource Legible stage.service.random
  nodup : stage.service.state.codes.Nodup
  issued : ∀ c ∈ stage.codes, c = "" ∨ WasDrawn stage.service c
  stored : ∀ c ∈ stage.service.state.codes, WasDrawn stage.service c
  owner : ∀ k r, stage.service.state.find? (stage.codes.getD k "") = some r →
    owners[k]? = some (.text r.clientId)
  once : ∀ j k, stage.codes.getD j "" = stage.codes.getD k "" → stage.codes.getD j "" ≠ "" → j = k

namespace Tracked

variable {Legible : String → Prop} {owners : List Value} {stage : Stage}

theorem issued_getD (h : Tracked Legible owners stage) (k : Nat) :
    stage.codes.getD k "" = "" ∨ WasDrawn stage.service (stage.codes.getD k "") :=
  getD_of_forall (P := fun c => c = "" ∨ WasDrawn stage.service c) (.inl rfl) h.issued k

theorem not_mem_empty (h : Tracked Legible owners stage) (hread : IsReadable Legible) :
    "" ∉ stage.service.state.codes := by
  intro hmem
  obtain ⟨n, -, hn⟩ := h.stored _ hmem
  exact (hread _ (h.source.legible n)).1 hn

theorem start {s : Service CodeStore} (hsource : SoundSource Legible s.random)
    (hempty : s.state.entries = []) : Tracked Legible owners ⟨s, []⟩ := by
  have hcodes : s.state.codes = [] := by rw [CodeStore.codes, hempty, List.map_nil]
  refine ⟨hsource, by rw [hcodes]; exact List.nodup_nil, ?_, ?_, ?_, ?_⟩
  · intro c hc
    cases hc
  · intro c hc
    rw [hcodes] at hc
    cases hc
  · intro k r hfind
    rw [CodeStore.find?, hempty] at hfind
    cases hfind
  · intro j k _ hne
    exact absurd List.getD_nil hne

/-- A run stays tracked when its store only loses entries, whatever the clock shows. -/
theorem shrink (h : Tracked Legible owners stage) {now : Int} {store : CodeStore} {drawn : Nat}
    {journal : Log.Journal} (hdrawn : stage.service.drawn ≤ drawn)
    (hsub : store.entries.Sublist stage.service.state.entries) :
    Tracked Legible owners
      ⟨{ stage.service with now, state := store, drawn, journal }, stage.codes⟩ := by
  have hwas : ∀ c, WasDrawn stage.service c →
      WasDrawn { stage.service with now, state := store, drawn, journal } c := by
    rintro c ⟨n, hn, hc⟩
    exact ⟨n, Nat.le_trans hn hdrawn, hc⟩
  have hcodes := CodeStore.codes_sublist hsub
  exact {
    source := h.source
    nodup := h.nodup.sublist hcodes
    issued := fun c hc => (h.issued c hc).imp_right (hwas c)
    stored := fun c hc => hwas c (h.stored c (hcodes.subset hc))
    owner := fun k r hfind => h.owner k r (CodeStore.find?_of_sublist hsub h.nodup hfind)
    once := h.once }

/-- A code that has not been drawn yet is under no name. -/
theorem getD_ne_of_undrawn (h : Tracked Legible owners stage) (hread : IsReadable Legible)
    (k : Nat) : stage.codes.getD k "" ≠ nextCode stage.service := by
  intro heq
  rcases h.issued_getD k with hempty | ⟨n, hn, hc⟩
  · exact (hread _ (h.source.legible _)).1 (heq.symm.trans hempty)
  · have := h.source.distinct _ _ (hc.trans heq)
    omega

/-- A run stays tracked when a call issues the next code to its owner. -/
theorem put (h : Tracked Legible owners stage) (hread : IsReadable Legible) {r : CodeRecord}
    (hcode : r.code = nextCode stage.service)
    (howner : owners[stage.codes.length]? = some (.text r.clientId)) (journal : Log.Journal) :
    Tracked Legible owners
      ⟨{ stage.service with
          state := stage.service.state.put r, drawn := stage.service.drawn + 1, journal },
        stage.codes ++ [nextCode stage.service]⟩ := by
  have hlegible := h.source.legible (stage.service.drawn + 1)
  have hnew : WasDrawn { stage.service with
      state := stage.service.state.put r, drawn := stage.service.drawn + 1, journal }
        (nextCode stage.service) := ⟨_, Nat.le_refl _, rfl⟩
  have hwas : ∀ c, WasDrawn stage.service c → WasDrawn { stage.service with
      state := stage.service.state.put r, drawn := stage.service.drawn + 1, journal } c := by
    rintro c ⟨n, hn, hc⟩
    exact ⟨n, Nat.le_succ_of_le hn, hc⟩
  have hne := h.getD_ne_of_undrawn hread
  refine ⟨h.source, CodeStore.nodup_codes_put h.nodup, ?_, ?_, ?_, ?_⟩
  · intro c hc
    rcases List.mem_append.mp hc with hc | hc
    · exact (h.issued c hc).imp_right (hwas c)
    · rw [List.mem_singleton.mp hc]
      exact .inr hnew
  · intro c hc
    rcases CodeStore.mem_codes_put.mp hc with hc | rfl
    · exact hwas c (h.stored c hc)
    · rw [hcode]
      exact hnew
  · intro k r' hfind
    rw [getD_concat] at hfind
    split at hfind
    · next hk =>
      rw [← hcode, CodeStore.find?_put_self] at hfind
      rw [hk, howner, Option.some.inj hfind]
    · rw [CodeStore.find?_put_of_ne _ (by rw [hcode]; exact hne k)] at hfind
      exact h.owner k r' hfind
  · intro j k heq hnonempty
    rw [getD_concat, getD_concat] at heq
    rw [getD_concat] at hnonempty
    split at heq
    · next hj =>
      split at heq
      · next hk => rw [hj, hk]
      · exact absurd heq.symm (hne k)
    · next hj =>
      rw [if_neg hj] at hnonempty
      split at heq
      · exact absurd heq (hne j)
      · exact h.once j k heq hnonempty

/-- A run stays tracked when a call issues nothing. -/
theorem concat_empty (h : Tracked Legible owners stage) :
    Tracked Legible owners ⟨stage.service, stage.codes ++ [""]⟩ := by
  have hgetD := getD_concat_empty stage.codes
  refine ⟨h.source, h.nodup, ?_, h.stored, ?_, ?_⟩
  · intro c hc
    rcases List.mem_append.mp hc with hc | hc
    · exact h.issued c hc
    · exact .inl (List.mem_singleton.mp hc)
  · intro k r hfind
    exact h.owner k r (hgetD k ▸ hfind)
  · intro j k heq hnonempty
    exact h.once j k (hgetD j ▸ hgetD k ▸ heq) (hgetD j ▸ hnonempty)

/-- What is found under the name of a code after a code has been presented. A fixed text that is no code of
the random source finds nothing and changes nothing. -/
theorem find?_erase (h : Tracked Legible owners stage) (hread : IsReadable Legible) {name : CodeName}
    (hfixed : ∀ t, name = .fixed t → ∀ i, stage.service.random codeBytes i ≠ t) (k : Nat) :
    (stage.service.state.erase (name.text stage.codes)).find? (stage.codes.getD k "") =
      if name = .issued k then none else stage.service.state.find? (stage.codes.getD k "") := by
  split
  · next hname =>
    rw [hname]
    exact CodeStore.find?_erase_self _ _
  · next hname =>
    by_cases hc : stage.codes.getD k "" = name.text stage.codes
    · -- The same code under another name is no code at all.
      have habsent : name.text stage.codes ∉ stage.service.state.codes := by
        intro hmem
        cases name with
        | fixed t =>
            obtain ⟨n, -, hn⟩ := h.stored _ hmem
            exact hfixed t rfl n hn
        | issued j =>
            have hne : stage.codes.getD j "" ≠ "" := by
              intro hempty
              exact h.not_mem_empty hread (hempty ▸ hmem)
            exact hname (congrArg CodeName.issued (h.once j k hc.symm hne))
      rw [CodeStore.erase_of_not_mem habsent]
    · exact CodeStore.find?_erase_of_ne _ hc

end Tracked

/-- The records under one name in two runs: the same, apart from the code, or only the second run still
has one, because a request that was left out in it has used up the code. -/
inductive LinkedRecord (gone : Prop) : Option CodeRecord → Option CodeRecord → Prop
  | neither : LinkedRecord gone none none
  | both (record : CodeRecord) (code : String) :
      LinkedRecord gone (some record) (some { record with code := code })
  | second (used : gone) (record : CodeRecord) : LinkedRecord gone none (some record)

namespace LinkedRecord

variable {gone : Prop} {found found' : Option CodeRecord}

theorem mono {gone' : Prop} (h : LinkedRecord gone found found') (himp : gone → gone') :
    LinkedRecord gone' found found' := by
  cases h with
  | neither => exact .neither
  | both record code => exact .both record code
  | second used record => exact .second (himp used) record

theorem filter_isExpired (h : LinkedRecord gone found found') (now : Int) :
    LinkedRecord gone (found.filter fun r => !r.isExpired now)
      (found'.filter fun r => !r.isExpired now) := by
  cases h with
  | neither => exact .neither
  | both record code =>
      have hexpired : ({ record with code := code } : CodeRecord).isExpired now = record.isExpired now :=
        rfl
      rw [Option.filter_some, Option.filter_some, hexpired]
      split
      · exact .both record code
      · exact .neither
  | second used record =>
      rw [Option.filter_none, Option.filter_some]
      split
      · exact .second used record
      · exact .neither

/-- A code may be used up in the first run only. -/
theorem used_in_first (h : LinkedRecord gone found found') (used : gone) :
    LinkedRecord gone none found' := by
  cases h with
  | neither => exact .neither
  | both record code => exact .second used _
  | second used record => exact .second used record

end LinkedRecord

/-- The stages of two runs, where the requests that were left out in the second one may have used up
certain codes in the first. -/
structure Linked (Legible : String → Prop) (random : Nat → Nat → String) (owners : List Value)
    (gone : Nat → Prop) (full rest : Stage) : Prop where
  first : Tracked Legible owners full
  second : Tracked Legible owners rest
  now : rest.service.now = full.service.now
  source : full.service.random = random
  source' : rest.service.random = random
  lifetime : rest.service.state.lifetime = full.service.state.lifetime
  codes : List.Forall₂ (IssuedInBoth Legible) full.codes rest.codes
  records : ∀ k, LinkedRecord (gone k)
    (full.service.state.find? (full.codes.getD k "")) (rest.service.state.find? (rest.codes.getD k ""))

namespace Linked

variable {Legible : String → Prop} {random : Nat → Nat → String} {owners : List Value}
  {gone : Nat → Prop} {full rest : Stage}
  {drawn drawn' : Nat} {journal journal' : Log.Journal}

theorem start {s : Service CodeStore} (hsource : SoundSource Legible s.random)
    (hempty : s.state.entries = []) : Linked Legible s.random owners gone ⟨s, []⟩ ⟨s, []⟩ where
  first := .start hsource hempty
  second := .start hsource hempty
  now := rfl
  source := rfl
  source' := rfl
  lifetime := rfl
  codes := .nil
  records := by
    intro k
    rw [CodeStore.find?, hempty]
    exact .neither

/-- Two linked stages stay linked when the stores only lose entries and the records stay linked. -/
theorem shrink (h : Linked Legible random owners gone full rest) (hdrawn : full.service.drawn ≤ drawn)
    (hdrawn' : rest.service.drawn ≤ drawn') {now now' : Int} (hnow : now' = now)
    {store store' : CodeStore} (hsub : store.entries.Sublist full.service.state.entries)
    (hsub' : store'.entries.Sublist rest.service.state.entries)
    (hlifetime : store'.lifetime = store.lifetime)
    (hrecords : ∀ k, LinkedRecord (gone k)
      (store.find? (full.codes.getD k "")) (store'.find? (rest.codes.getD k ""))) :
    Linked Legible random owners gone
      ⟨{ full.service with now, state := store, drawn, journal }, full.codes⟩
      ⟨{ rest.service with now := now', state := store', drawn := drawn', journal := journal' },
        rest.codes⟩ where
  first := h.first.shrink hdrawn hsub
  second := h.second.shrink hdrawn' hsub'
  now := hnow
  source := h.source
  source' := h.source'
  lifetime := hlifetime
  codes := h.codes
  records := hrecords

/-- Only the clock, the number of values drawn and the journals change. -/
theorem idle (h : Linked Legible random owners gone full rest) (hdrawn : full.service.drawn ≤ drawn)
    (hdrawn' : rest.service.drawn ≤ drawn') {now now' : Int} (hnow : now' = now) :
    Linked Legible random owners gone
      ⟨{ full.service with now, drawn, journal }, full.codes⟩
      ⟨{ rest.service with now := now', drawn := drawn', journal := journal' }, rest.codes⟩ :=
  h.shrink hdrawn hdrawn' hnow (List.Sublist.refl _) (List.Sublist.refl _) h.lifetime h.records

theorem prune (h : Linked Legible random owners gone full rest) (hdrawn : full.service.drawn ≤ drawn)
    (hdrawn' : rest.service.drawn ≤ drawn') (journal journal' : Log.Journal) :
    Linked Legible random owners gone
      ⟨{ full.service with state := full.service.state.prune full.service.now, drawn, journal },
        full.codes⟩
      ⟨{ rest.service with
          state := rest.service.state.prune rest.service.now, drawn := drawn', journal := journal' },
        rest.codes⟩ := by
  refine h.shrink hdrawn hdrawn' h.now List.filter_sublist List.filter_sublist h.lifetime ?_
  intro k
  rw [CodeStore.find?_prune h.first.nodup, CodeStore.find?_prune h.second.nodup, h.now]
  exact (h.records k).filter_isExpired _

theorem erase (h : Linked Legible random owners gone full rest) (hread : IsReadable Legible) {name : CodeName}
    (hfixed : ∀ t, name = .fixed t → ∀ i, random codeBytes i ≠ t)
    (hdrawn : full.service.drawn ≤ drawn) (hdrawn' : rest.service.drawn ≤ drawn') :
    Linked Legible random owners gone
      ⟨{ full.service with state := full.service.state.erase (name.text full.codes), drawn, journal },
        full.codes⟩
      ⟨{ rest.service with
          state := rest.service.state.erase (name.text rest.codes), drawn := drawn'
          journal := journal' }, rest.codes⟩ := by
  refine h.shrink hdrawn hdrawn' h.now List.filter_sublist List.filter_sublist h.lifetime ?_
  intro k
  rw [h.first.find?_erase hread (h.source.symm ▸ hfixed),
    h.second.find?_erase hread (h.source'.symm ▸ hfixed)]
  split
  · exact .neither
  · exact h.records k

/-- A code that may be used up is presented in the first run only. -/
theorem erase_first (h : Linked Legible random owners gone full rest) (hread : IsReadable Legible)
    {name : CodeName} (hfixed : ∀ t, name = .fixed t → ∀ i, random codeBytes i ≠ t)
    (hgone : ∀ k, name = .issued k → gone k) (hdrawn : full.service.drawn ≤ drawn) :
    Linked Legible random owners gone
      ⟨{ full.service with state := full.service.state.erase (name.text full.codes), drawn, journal },
        full.codes⟩ rest := by
  refine h.shrink hdrawn (Nat.le_refl _) h.now List.filter_sublist (List.Sublist.refl _) h.lifetime ?_
  intro k
  rw [h.first.find?_erase hread (h.source.symm ▸ hfixed)]
  split
  · next hname => exact (h.records k).used_in_first (hgone k hname)
  · exact h.records k

/-- Both runs issue their next code to the same owner. -/
theorem put (h : Linked Legible random owners gone full rest) (hread : IsReadable Legible) {r : CodeRecord}
    (hcode : r.code = nextCode full.service)
    (howner : owners[full.codes.length]? = some (.text r.clientId)) :
    Linked Legible random owners gone
      ⟨{ full.service with
          state := full.service.state.put r, drawn := full.service.drawn + 1, journal },
        full.codes ++ [nextCode full.service]⟩
      ⟨{ rest.service with
          state := rest.service.state.put { r with code := nextCode rest.service }
          drawn := rest.service.drawn + 1, journal := journal' },
        rest.codes ++ [nextCode rest.service]⟩ where
  first := h.first.put hread hcode howner journal
  second := h.second.put hread rfl (h.codes.length_eq ▸ howner) journal'
  now := h.now
  source := h.source
  source' := h.source'
  lifetime := h.lifetime
  codes := List.rel_append h.codes
    (.cons (.inr ⟨h.first.source.legible _, h.second.source.legible _⟩) .nil)
  records := by
    intro k
    rw [getD_concat, getD_concat, h.codes.length_eq]
    split
    · rw [← hcode, CodeStore.find?_put_self]
      have hself := CodeStore.find?_put_self rest.service.state { r with code := nextCode rest.service }
      dsimp only at hself ⊢
      rw [hself]
      exact .both r _
    · have hne : full.codes.getD k "" ≠ r.code := hcode ▸ h.first.getD_ne_of_undrawn hread k
      have hne' : rest.codes.getD k "" ≠ ({ r with code := nextCode rest.service } : CodeRecord).code :=
        h.second.getD_ne_of_undrawn hread k
      rw [CodeStore.find?_put_of_ne _ hne, CodeStore.find?_put_of_ne _ hne']
      exact h.records k

theorem concat_empty (h : Linked Legible random owners gone full rest) :
    Linked Legible random owners gone ⟨full.service, full.codes ++ [""]⟩
      ⟨rest.service, rest.codes ++ [""]⟩ where
  first := h.first.concat_empty
  second := h.second.concat_empty
  now := h.now
  source := h.source
  source' := h.source'
  lifetime := h.lifetime
  codes := List.rel_append h.codes (.cons (.inl ⟨rfl, rfl⟩) .nil)
  records := by
    intro k
    rw [getD_concat_empty, getD_concat_empty]
    exact h.records k

end Linked
end OAuthGrant

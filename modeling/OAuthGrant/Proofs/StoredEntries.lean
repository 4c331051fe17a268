import OAuthGrant.Proofs.CodeLiveness

/-!
# What a store of codes holds

Each entry of a store stands under the code of its record, and the record expires when the lifetime of the
store has passed since its creation. Issuing a code drops the entries that have expired and puts the new
one behind all others; when it fails, nothing is put there. Whether it fails is settled by its arguments
and the instant alone.
-/

namespace OAuthGrant
open CodeStore (nextCode)
open Time (Timestamp)

namespace CodeRecord

/-- Whether all elements of the set that is made of a value are texts, where a list stands for whatever items
can be taken from. A value that no set can be made of, as a foreign one, has no such elements. -/
def HasTextElements : Value → Prop
  | .list items => ∀ v ∈ items, ∃ x, v = .text x
  | .text _ => True
  | .object _ => True
  | _ => False

/-- That a code can be issued at an instant: the arguments are what a record holds, and the lifetime ends
at a date that there is. -/
structure Issuable (lifetime now : Int) (clientId scopes redirectUri : Value) : Prop where
  clientId : ∃ id, clientId = .text id
  scopes : HasTextElements scopes
  redirectUri : ∃ uri, redirectUri = .ofOption uri
  expiry : Timestamp.inRange (now + lifetime) = true

variable {lifetime now : Int} {code : String} {clientId scopes redirectUri v : Value}
  {items : List Value} {r : CodeRecord}

theorem exists_map_text_iff : (∃ xs : List String, items = xs.map .text) ↔ ∀ v ∈ items, ∃ x, v = .text x := by
  constructor
  · rintro ⟨xs, rfl⟩ v hv
    obtain ⟨x, -, rfl⟩ := List.mem_map.mp hv
    exact ⟨x, rfl⟩
  · intro h
    induction items with
    | nil => exact ⟨[], rfl⟩
    | cons v rest ih =>
        obtain ⟨x, rfl⟩ := h v List.mem_cons_self
        obtain ⟨xs, rfl⟩ := ih fun w hw => h w (List.mem_cons_of_mem _ hw)
        exact ⟨x :: xs, rfl⟩

theorem eq_text_of_sameElement {x : String} (h : v.sameElement (.text x) = true) : v = .text x := by
  cases v with
  | text s =>
      have hs : (s == x) = true := h
      rw [beq_iff_eq.mp hs]
  | float f => cases hf : f.toInt? <;> simp [Value.sameElement, Value.number?, hf] at h
  | _ => simp [Value.sameElement, Value.number?] at h

theorem exists_kept_of_mem (h : v ∈ items) :
    ∃ w ∈ elementsOf.distinct items, v = w ∨ v.sameElement w = true := by
  suffices ∀ kept : List Value, ((∃ w ∈ kept, v = w ∨ v.sameElement w = true) ∨ v ∈ items) →
      ∃ w ∈ items.foldl (fun kept v => if kept.any v.sameElement then kept else kept ++ [v]) kept,
        v = w ∨ v.sameElement w = true from this [] (.inr h)
  clear h
  induction items with
  | nil =>
      intro kept h
      rcases h with h | h
      · exact h
      · cases h
  | cons u rest ih =>
      intro kept h
      rw [List.foldl_cons]
      apply ih
      rcases h with ⟨w, hw, hsame⟩ | h
      · left
        refine ⟨w, ?_, hsame⟩
        split
        · exact hw
        · exact List.mem_append_left _ hw
      · rcases List.mem_cons.mp h with rfl | h
        · left
          split
          · next hany =>
              obtain ⟨w, hw, hsame⟩ := List.any_eq_true.mp hany
              exact ⟨w, hw, .inr hsame⟩
          · exact ⟨v, List.mem_append_right _ List.mem_cons_self, .inl rfl⟩
        · exact .inr h

theorem mem_of_mem_distinct (h : v ∈ elementsOf.distinct items) : v ∈ items := by
  suffices ∀ kept : List Value,
      v ∈ items.foldl (fun kept v => if kept.any v.sameElement then kept else kept ++ [v]) kept →
        v ∈ kept ∨ v ∈ items by
    simpa using this [] h
  clear h
  induction items with
  | nil => exact fun kept h => .inl h
  | cons u rest ih =>
      intro kept h
      rw [List.foldl_cons] at h
      rw [List.mem_cons]
      rcases ih _ h with h | h
      · split at h
        · exact .inl h
        · rcases List.mem_append.mp h with h | h
          · exact .inl h
          · exact .inr (.inl (List.mem_singleton.mp h))
      · exact .inr (.inr h)

/-- Dropping repeated items leaves texts only if there were texts only. -/
theorem distinct_eq_texts_iff : (∃ xs : List String, elementsOf.distinct items = xs.map .text) ↔
    ∀ v ∈ items, ∃ x, v = .text x := by
  rw [exists_map_text_iff]
  constructor
  · intro h v hv
    obtain ⟨w, hw, hsame⟩ := exists_kept_of_mem hv
    obtain ⟨x, rfl⟩ := h w hw
    rcases hsame with rfl | hsame
    · exact ⟨x, rfl⟩
    · exact ⟨x, eq_text_of_sameElement hsame⟩
  · intro h v hv
    exact h v (mem_of_mem_distinct hv)

theorem elementsOf_eq_texts_iff : (∃ xs : List String, elementsOf v = .ok (xs.map .text)) ↔
    HasTextElements v := by
  cases v with
  | list items =>
      rw [HasTextElements, ← distinct_eq_texts_iff, elementsOf]
      cases hfind : items.find? fun v => !v.isElement with
      | none => simp
      | some v =>
          -- What is no element of a set is no text either.
          have hnot := List.find?_some (p := fun v : Value => !v.isElement) hfind
          have hmem := List.mem_of_find?_eq_some hfind
          constructor
          · rintro ⟨xs, h⟩
            cases h
          · intro h
            obtain ⟨x, rfl⟩ := distinct_eq_texts_iff.mp h v hmem
            cases hnot
  | text s =>
      simp only [elementsOf, HasTextElements, Except.ok.injEq, distinct_eq_texts_iff, iff_true]
      intro v hv
      obtain ⟨c, -, rfl⟩ := List.mem_map.mp hv
      exact ⟨_, rfl⟩
  | object fields =>
      simp only [elementsOf, HasTextElements, Except.ok.injEq, distinct_eq_texts_iff, iff_true]
      intro v hv
      obtain ⟨e, -, rfl⟩ := List.mem_map.mp hv
      exact ⟨_, rfl⟩
  | _ => simp [elementsOf, HasTextElements]

theorem exists_new_iff : (∃ r, new lifetime now code clientId scopes redirectUri = .ok r) ↔
    Issuable lifetime now clientId scopes redirectUri := by
  constructor
  · rintro ⟨r, h⟩
    have hdescribes := new_eq_ok h
    unfold new at h
    obtain ⟨elements, helements, h⟩ := bind_eq_ok_iff.mp h
    dsimp only at h
    split at h
    · cases h
    · next expiresAt hlater =>
        simp only [Checked.toExcept_eq_ok_iff, Checked.seq_eq_valid_iff, Checked.map_eq_valid_iff,
          Checked.within_eq_valid_iff, Reader.items_text_eq_valid_iff] at h
        obtain ⟨_, uri, ⟨_, xs, -, hxs, -⟩, -, -⟩ := h
        have htexts : HasTextElements scopes :=
          elementsOf_eq_texts_iff.mp ⟨xs, hxs ▸ helements⟩
        exact ⟨⟨_, hdescribes.clientId⟩, htexts, ⟨_, hdescribes.redirectUri⟩,
          (Timestamp.later?_eq_some_iff.mp hlater).1⟩
  · rintro ⟨⟨id, rfl⟩, hscopes, ⟨uri, rfl⟩, hexpiry⟩
    obtain ⟨xs, helements⟩ := elementsOf_eq_texts_iff.mpr hscopes
    have hlater : (Timestamp.utc now).later? lifetime = some (Timestamp.utc (now + lifetime)) :=
      Timestamp.later?_eq_some_iff.mpr ⟨hexpiry, rfl⟩
    have hitems : Reader.items Reader.text 0 (xs.map .text) = .valid xs :=
      Reader.items_text_eq_valid_iff.mpr rfl
    have huri : Reader.optionalText (.ofOption uri) = .valid uri :=
      Reader.optionalText_eq_valid_iff.mpr rfl
    refine ⟨⟨code, id, .ofList xs, uri, .utc now, .utc (now + lifetime)⟩, ?_⟩
    unfold new
    refine bind_eq_ok_iff.mpr ⟨_, helements, ?_⟩
    dsimp only
    rw [hlater, hitems, huri]
    rfl

end CodeRecord

namespace CodeStore

/-- That an entry stands under the code of its record, which expires when a lifetime has passed since its
creation. -/
structure IsIssuedEntry (lifetime : Int) (e : String × CodeRecord) : Prop where
  code : e.1 = e.2.code
  expiry : e.2.createdAt.later? lifetime = some e.2.expiresAt

/-- The entries that have not expired at an instant, in their order. -/
def unexpired (store : CodeStore) (now : Int) : List (String × CodeRecord) :=
  store.entries.filter fun e => now ≤ e.2.expiresAt.instant

variable {store : CodeStore} {now lifetime : Int} {code : String} {r : CodeRecord}
  {e : String × CodeRecord}

theorem isExpired_eq_not_le (r : CodeRecord) (now : Int) :
    r.isExpired now = !decide (now ≤ r.expiresAt.instant) := by
  simp only [CodeRecord.isExpired, ← decide_not, Int.not_le]

theorem prune_eq (store : CodeStore) (now : Int) :
    store.prune now = { store with entries := store.unexpired now } := by
  simp only [prune, unexpired, isExpired_eq_not_le, Bool.not_not]

theorem eq_or_mem_of_mem_putEntry {entries : List (String × CodeRecord)}
    (h : e ∈ putEntry code r entries) : e = (code, r) ∨ e ∈ entries := by
  induction entries with
  | nil => exact .inl (List.mem_singleton.mp h)
  | cons first rest ih =>
      rw [putEntry] at h
      split at h
      · rcases List.mem_cons.mp h with h | h
        · exact .inl h
        · exact .inr (List.mem_cons_of_mem _ h)
      · rcases List.mem_cons.mp h with rfl | h
        · exact .inr List.mem_cons_self
        · exact (ih h).imp_right (List.mem_cons_of_mem _)

theorem isIssuedEntry_of_describes {clientId scopes redirectUri : Value}
    (h : r.Describes lifetime now code clientId scopes redirectUri)
    (hexpiry : Timestamp.inRange (now + lifetime) = true) : IsIssuedEntry lifetime (r.code, r) where
  code := rfl
  expiry := by
    rw [h.createdAt, h.expiresAt]
    exact Timestamp.later?_eq_some_iff.mpr ⟨hexpiry, rfl⟩

end CodeStore

/-- What is known of a service whose store has been empty: every stored code has been drawn, none is stored
twice, and all entries are as they were issued. -/
structure Kept (lifetime : Int) (s : Service CodeStore) : Prop where
  unchanged : s.state.lifetime = lifetime
  distinct : DistinctCodes s
  nodup : s.state.codes.Nodup
  drawn : ∀ c ∈ s.state.codes, WasDrawn s c
  entries : ∀ e ∈ s.state.entries, CodeStore.IsIssuedEntry lifetime e

section Runs

variable {a : InMemoryAuthority} {s t : Service CodeStore} {e : Event} {lifetime : Int}

theorem Effect.isIssuedEntry (h : Effect s e t)
    (hs : ∀ entry ∈ s.state.entries, CodeStore.IsIssuedEntry s.state.lifetime entry) :
    ∀ entry ∈ t.state.entries, CodeStore.IsIssuedEntry s.state.lifetime entry := by
  intro entry hentry
  cases h with
  | issued r journal made =>
      rcases CodeStore.eq_or_mem_of_mem_putEntry hentry with rfl | hold
      · have hissuable := CodeRecord.exists_new_iff.mp ⟨r, made⟩
        exact CodeStore.isIssuedEntry_of_describes (CodeRecord.new_eq_ok made) hissuable.expiry
      · exact hs entry (List.mem_filter.mp hold).1
  | notIssued => exact hs entry (List.mem_filter.mp hentry).1
  | consumed => exact hs entry (List.mem_filter.mp hentry).1
  | cleaned => exact hs entry (List.mem_filter.mp hentry).1
  | presented => exact hs entry (List.mem_filter.mp hentry).1
  | _ => exact hs entry hentry

theorem Kept.step (hs : Kept lifetime s) (h : Effect s e t) : Kept lifetime t where
  unchanged := h.lifetime.trans hs.unchanged
  distinct := hs.distinct.step h
  nodup := h.nodup hs.nodup
  drawn := by
    intro c hc
    rcases h.mem_codes hc with hold | hissued
    · exact (hs.drawn c hold).step h
    · exact wasDrawn_of_issues h hissued
  entries := by
    have hentries := h.isIssuedEntry (by rw [hs.unchanged]; exact hs.entries)
    rw [hs.unchanged] at hentries
    exact hentries

theorem Kept.nextCode_not_mem (hs : Kept lifetime s) : nextCode s ∉ s.state.codes := by
  intro hmem
  obtain ⟨n, hn, hc⟩ := hs.drawn _ hmem
  have hnext : n = s.drawn + 1 := hs.distinct _ _ hc
  omega

/-- All that can come of the issue of a code: what is answered and the service that is left behind. -/
inductive Issuance (s : Service CodeStore) (clientId scopes redirectUri : Value) :
    Except Failure String × Service CodeStore → Prop
  | stored (r : CodeRecord) (t : Service CodeStore)
      (issuable : CodeRecord.Issuable s.state.lifetime s.now clientId scopes redirectUri)
      (describes : r.Describes s.state.lifetime s.now r.code clientId scopes redirectUri)
      (state : t.state =
        { s.state with entries := s.state.unexpired s.now ++ [(r.code, r)] }) :
      Issuance s clientId scopes redirectUri (.ok r.code, t)
  | notStored (f : Failure) (t : Service CodeStore)
      (notIssuable : ¬ CodeRecord.Issuable s.state.lifetime s.now clientId scopes redirectUri)
      (state : t.state = { s.state with entries := s.state.unexpired s.now })
      (live : ∀ c, t.state.live? s.now c = s.state.live? s.now c) :
      Issuance s clientId scopes redirectUri (.error f, t)

/-- Nothing else comes of an issue. -/
theorem Kept.issuance (hs : Kept lifetime s) (clientId scopes redirectUri : Value) :
    Issuance s clientId scopes redirectUri
      ((CodeStore.issue clientId scopes redirectUri).perform s) := by
  obtain ⟨journal, hissue⟩ := CodeStore.perform_issue clientId scopes redirectUri s
  rw [hissue]
  cases made : CodeRecord.new s.state.lifetime s.now (nextCode s) clientId scopes redirectUri with
  | ok r =>
      have hdescribes := CodeRecord.new_eq_ok made
      have hnew : r.code ∉ (s.state.prune s.now).codes := by
        rw [hdescribes.code]
        exact fun hmem => hs.nextCode_not_mem (CodeStore.mem_codes_of_mem_prune hmem)
      dsimp only
      rw [← hdescribes.code]
      refine .stored r _ (CodeRecord.exists_new_iff.mp ⟨r, made⟩) (hdescribes.code ▸ hdescribes) ?_
      dsimp only
      rw [CodeStore.put, CodeStore.putEntry_of_not_mem hnew, CodeStore.prune_eq]
  | error f =>
      refine .notStored f _ ?_ (CodeStore.prune_eq _ _) fun c => ?_
      · intro hissuable
        obtain ⟨r, hr⟩ : ∃ r, CodeRecord.new _ _ (nextCode s) _ _ _ = .ok r :=
          CodeRecord.exists_new_iff.mpr hissuable
        cases made.symm.trans hr
      · exact CodeStore.live?_prune hs.nodup (Int.le_refl _)

theorem Issuance.alive {clientId scopes redirectUri : Value} {out : Except Failure String × Service CodeStore}
    (h : Issuance s clientId scopes redirectUri out) (hpositive : 0 < s.state.lifetime) :
    ∀ entry ∈ out.2.state.entries, s.now ≤ entry.2.expiresAt.instant := by
  intro entry hentry
  cases h with
  | stored r t _ describes state =>
      dsimp only at hentry
      rw [state] at hentry
      rcases List.mem_append.mp hentry with hold | hnew
      · exact of_decide_eq_true (List.mem_filter.mp hold).2
      · rw [List.mem_singleton.mp hnew, describes.expiresAt, Timestamp.instant_utc]
        omega
  | notStored f t _ state =>
      dsimp only at hentry
      rw [state] at hentry
      exact of_decide_eq_true (List.mem_filter.mp hentry).2

/-- Cleaning up leaves the entries that have not expired, and tells how many it has removed. -/
theorem CodeStore.cleanup_counts (s : Service CodeStore) :
    ∃ removed, (cleanup.perform s).1 = .ok removed ∧
      (cleanup.perform s).2.state = { s.state with entries := s.state.unexpired s.now } ∧
      (s.state.unexpired s.now).length + removed = s.state.entries.length := by
  refine ⟨_, result_cleanup s, (state_cleanup s).trans (prune_eq _ _), ?_⟩
  simp only [unexpired, isExpired_eq_not_le]
  exact (List.length_eq_length_filter_add _).symm

end Runs

def CodeRun.final (r : CodeRun) : Service CodeStore := run r.authority r.operations r.start

theorem CodeRun.kept (r : CodeRun) : Kept r.start.state.lifetime r.final := by
  refine run_invariant (fun hs h => hs.step h) ?_ r.operations
  have hcodes : r.start.state.codes = [] := by rw [CodeStore.codes, r.empty, List.map_nil]
  refine ⟨rfl, r.distinct, ?_, ?_, ?_⟩
  · rw [hcodes]
    exact List.nodup_nil
  · intro c hc
    rw [hcodes] at hc
    cases hc
  · intro e he
    rw [r.empty] at he
    cases he

/-- After every run, each entry of the store stands under the code of its record and expires a lifetime
after its creation. Issuing a code leaves the entries that have not expired, in their order, and the new one
behind them if the code can be issued; otherwise it fails and leaves nothing else. Cleaning up tells how
many entries it has removed. -/
theorem store_holds_live_codes (r : CodeRun) :
    (∀ e ∈ r.final.state.entries, CodeStore.IsIssuedEntry r.start.state.lifetime e) ∧
    (∀ clientId scopes redirectUri, Issuance r.final clientId scopes redirectUri
      ((CodeStore.issue clientId scopes redirectUri).perform r.final)) ∧
    (0 < r.start.state.lifetime → ∀ clientId scopes redirectUri,
      ∀ e ∈ ((CodeStore.issue clientId scopes redirectUri).perform r.final).2.state.entries,
        r.final.now ≤ e.2.expiresAt.instant) ∧
    (∃ removed, (CodeStore.cleanup.perform r.final).1 = .ok removed ∧
      (CodeStore.cleanup.perform r.final).2.state =
        { r.final.state with entries := r.final.state.unexpired r.final.now } ∧
      (r.final.state.unexpired r.final.now).length + removed = r.final.state.entries.length) := by
  have hkept := r.kept
  refine ⟨hkept.entries, fun clientId scopes redirectUri => hkept.issuance _ _ _, ?_,
    CodeStore.cleanup_counts r.final⟩
  intro hpositive clientId scopes redirectUri
  exact (hkept.issuance clientId scopes redirectUri).alive (by rw [hkept.unchanged]; exact hpositive)

/-- Two codes are issued, and the first one expires before the run ends. -/
def CodeRun.aging : CodeRun :=
  { CodeRun.sample with
    operations :=
      [.issue (.text "app") (.list [.text "read"]) .null, .advance 300000000,
       .issue (.text "other") (.list []) .null, .advance 400000000] }

/-- An issue for a client that is no text fails. Like a cleanup it removes the code that has expired and
nothing else. -/
theorem aging_store_holds_live_codes :
    0 < CodeRun.aging.start.state.lifetime ∧ CodeRun.aging.final.state.codes = ["a", "aa"] ∧
    (∃ f t, (CodeStore.issue (.int 1) (.list []) .null).perform CodeRun.aging.final = (.error f, t) ∧
      t.state.codes = ["aa"] ∧
      ∀ e ∈ t.state.entries, CodeRun.aging.final.now ≤ e.2.expiresAt.instant) ∧
    (CodeStore.cleanup.perform CodeRun.aging.final).1 = .ok 1 := by
  have hpositive : 0 < CodeRun.aging.start.state.lifetime := by decide
  have hunexpired : (CodeRun.aging.final.state.unexpired CodeRun.aging.final.now).map Prod.fst =
      ["aa"] := by decide
  have hentries : CodeRun.aging.final.state.entries.length = 2 := by decide
  obtain ⟨-, hissue, halive, removed, hcleanup, -, hcount⟩ := store_holds_live_codes CodeRun.aging
  refine ⟨hpositive, by decide, ?_, ?_⟩
  · have hissuance := hissue (.int 1) (.list []) .null
    have halive := halive hpositive (.int 1) (.list []) .null
    generalize (CodeStore.issue (.int 1) (.list []) .null).perform CodeRun.aging.final = out at *
    cases hissuance with
    | stored r t issuable =>
        obtain ⟨id, hid⟩ := issuable.clientId
        cases hid
    | notStored f t _ state =>
        refine ⟨f, t, rfl, ?_, halive⟩
        rw [CodeStore.codes, state]
        exact hunexpired
  · have hone := congrArg List.length hunexpired
    rw [List.length_map] at hone
    have hremoved : removed = 1 := by
      simp only [List.length_cons, List.length_nil] at hone
      omega
    rw [hcleanup, hremoved]

end OAuthGrant

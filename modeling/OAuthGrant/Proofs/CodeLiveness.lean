import Mathlib.Data.List.Induction
import OAuthGrant.Proofs.CodeHistory

/-!
# When a code is still good

While the clock does not go backward, a run can be understood from its history alone. For each code the
history keeps at most one record: that of its last issue, until the code is presented. The store holds
this record as well, unless it has expired, and prunes it only when it has expired for good. So the
answer to a consumer depends on nothing but the earlier events that concern the same code.
-/

namespace OAuthGrant

def Operation.record? (lifetime now : Int) (c : String) : Operation → Option CodeRecord
  | .issue clientId scopes redirectUri =>
      (CodeRecord.new lifetime now c clientId scopes redirectUri).toOption
  | _ => none

/-- A record as it is found at an instant: not at all once it has expired. -/
def liveAt (now : Int) (o : Option CodeRecord) : Option CodeRecord :=
  o.filter fun r => !r.isExpired now

theorem liveAt_eq_some_iff {now : Int} {o : Option CodeRecord} {r : CodeRecord} :
    liveAt now o = some r ↔ o = some r ∧ now ≤ r.expiresAt.instant := by
  simp [liveAt, Option.filter_eq_some_iff, CodeRecord.isExpired]

def Event.concerns (c : String) (e : Event) : Bool := e.issues c || e.operation.presents c

/-- What is kept of a code after an event. -/
def Event.keep (lifetime : Int) (c : String) (o : Option CodeRecord) (e : Event) : Option CodeRecord :=
  if e.concerns c then e.operation.record? lifetime e.instant c else o

def kept (lifetime : Int) (c : String) (h : List Event) : Option CodeRecord :=
  h.foldl (Event.keep lifetime c) none

/-- The store holds a record under a code, as far as can be seen from now on. -/
structure Holds (s : Service CodeStore) (c : String) (o : Option CodeRecord) : Prop where
  nodup : s.state.codes.Nodup
  live : ∀ later, s.now ≤ later → s.state.live? later c = liveAt later o

variable {a : InMemoryAuthority} {s t : Service CodeStore} {e i : Event} {c : String}
  {o : Option CodeRecord} {lifetime : Int} {h : List Event}

theorem Event.keep_of_concerns (hc : e.concerns c = true) :
    e.keep lifetime c o = e.operation.record? lifetime e.instant c := if_pos hc

theorem Event.keep_of_not_concerns (hc : e.concerns c = false) : e.keep lifetime c o = o := by
  rw [Event.keep, hc]
  rfl

theorem Operation.record?_of_presents {op : Operation} {now : Int} (hp : op.presents c = true) :
    op.record? lifetime now c = none := by
  cases op with
  | issue => cases hp
  | _ => rfl

theorem Event.presents_of_issues (hi : e.issues c = true) (c' : String) :
    e.operation.presents c' = false := by
  obtain ⟨now, op, answer⟩ := e
  cases op with
  | issue => rfl
  | _ => cases hi

theorem Effect.nodup (h : Effect s e t) (hs : s.state.codes.Nodup) : t.state.codes.Nodup := by
  cases h with
  | issued => exact CodeStore.nodup_codes_put (CodeStore.nodup_codes_prune hs)
  | notIssued => exact CodeStore.nodup_codes_prune hs
  | consumed => exact CodeStore.nodup_codes_erase hs
  | cleaned => exact CodeStore.nodup_codes_prune hs
  | presented => exact CodeStore.nodup_codes_erase hs
  | _ => exact hs

theorem Effect.now_le (h : Effect s e t) (hf : ∀ m, e.operation = .advance m → 0 ≤ m) :
    s.now ≤ t.now := by
  cases h with
  | moved micros _ =>
      have hm := hf micros rfl
      change s.now ≤ s.now + micros
      omega
  | _ => exact Int.le_refl _

theorem Effect.live?_of_issues (h : Effect s e t) (hi : e.issues c = true) (later : Int) :
    t.state.live? later c = liveAt later (e.operation.record? s.state.lifetime e.instant c) := by
  cases h with
  | issued r journal made =>
      have hc : CodeStore.nextCode s = c := beq_iff_eq.mp hi
      have hcode : r.code = CodeStore.nextCode s := (CodeRecord.new_eq_ok made).code
      subst hc
      rw [Operation.record?, made, CodeStore.live?, ← hcode, CodeStore.find?_put_self]
      rfl
  | _ => cases hi

theorem Effect.live?_of_concerns (h : Effect s e t) (hc : e.concerns c = true) (later : Int) :
    t.state.live? later c = liveAt later (e.operation.record? s.state.lifetime e.instant c) := by
  rcases Bool.or_eq_true_iff.mp hc with hi | hp
  · exact h.live?_of_issues hi later
  · rw [Operation.record?_of_presents hp, CodeStore.live?_eq_none (h.not_mem_codes hp)]
    rfl

/-- Any other operation leaves the live records of a code as they are, even if it prunes the store. -/
theorem Effect.live?_of_not_concerns (h : Effect s e t) (hs : s.state.codes.Nodup)
    (hc : e.concerns c = false) {later : Int} (hlater : s.now ≤ later) :
    t.state.live? later c = s.state.live? later c := by
  obtain ⟨hi, hp⟩ := Bool.or_eq_false_iff.mp hc
  cases h with
  | issued r journal made =>
      have hcode : r.code = CodeStore.nextCode s := (CodeRecord.new_eq_ok made).code
      have hne : r.code ≠ c := by simpa [Event.issues, hcode] using hi
      rw [CodeStore.live?_put_of_ne hne.symm, CodeStore.live?_prune hs hlater]
  | notIssued => exact CodeStore.live?_prune hs hlater
  | cleaned => exact CodeStore.live?_prune hs hlater
  | consumed code =>
      have hne : code ≠ c := by simpa [Operation.presents] using hp
      exact CodeStore.live?_erase_of_ne hne.symm
  | presented grant out drawn journal _ permitted =>
      have hne : grant.code ≠ c := by simpa [Operation.presents, permitted] using hp
      exact CodeStore.live?_erase_of_ne hne.symm
  | _ => rfl

theorem Effect.answer_consume (h : Effect s e t) (hop : e.operation = .consume c) :
    e.answer = .ok (.record (s.state.live? e.instant c)) := by
  cases h with
  | consumed code journal =>
      cases hop
      rfl
  | _ => cases hop

theorem Holds.step (hs : Holds s c o) (h : Effect s e t) (hnow : s.now ≤ t.now) :
    Holds t c (e.keep s.state.lifetime c o) := by
  refine ⟨h.nodup hs.nodup, ?_⟩
  intro later hlater
  have hle : s.now ≤ later := Int.le_trans hnow hlater
  cases hc : e.concerns c with
  | true => rw [Event.keep_of_concerns hc, h.live?_of_concerns hc]
  | false =>
      rw [Event.keep_of_not_concerns hc, h.live?_of_not_concerns hs.nodup hc hle]
      exact hs.live later hle

/-- The clock does not go backward. -/
def Forward (ops : List Operation) : Prop := ∀ m, .advance m ∈ ops → 0 ≤ m

theorem Forward.now_le {op : Operation} {rest : List Operation} (hf : Forward (op :: rest))
    (h : Effect s (op.event a s) t) : s.now ≤ t.now := by
  apply h.now_le
  intro m hm
  exact hf m (List.mem_cons.mpr (.inl hm.symm))

theorem Forward.tail {op : Operation} {rest : List Operation} (hf : Forward (op :: rest)) :
    Forward rest := fun m hm => hf m (List.mem_cons_of_mem _ hm)

theorem Forward.of_append {xs ys : List Operation} (hf : Forward (xs ++ ys)) : Forward xs :=
  fun m hm => hf m (List.mem_append_left _ hm)

/-- After a run, the store holds what its history keeps. -/
theorem Holds.after_run (hs : Holds s c o) {ops : List Operation} (hf : Forward ops) :
    Holds (run a ops s) c ((history a ops s).foldl (Event.keep s.state.lifetime c) o) := by
  induction ops generalizing s o with
  | nil => exact hs
  | cons op rest ih =>
      have h := effect a op s
      have hrest := ih (hs.step h (hf.now_le h)) hf.tail
      rw [h.lifetime] at hrest
      exact hrest

theorem holds_none (hempty : s.state.entries = []) : Holds s c none := by
  have hcodes : s.state.codes = [] := by rw [CodeStore.codes, hempty, List.map_nil]
  refine ⟨by rw [hcodes]; exact List.nodup_nil, ?_⟩
  intro later _
  exact CodeStore.live?_eq_none (by rw [hcodes]; exact List.not_mem_nil)

theorem answer_consume (r : CodeRun) (hf : Forward r.operations) {before after : List Event}
    (h : r.history = before ++ e :: after) (hop : e.operation = .consume c) :
    e.answer = .ok (.record (liveAt e.instant (kept r.start.state.lifetime c before))) := by
  obtain ⟨done, op, todo, hops, rfl, rfl, -⟩ := history_eq_append h
  have hdone : Forward done := Forward.of_append (hops ▸ hf)
  have hholds := (holds_none (c := c) r.empty).after_run (a := r.authority) hdone
  have hanswer := (effect r.authority op (run r.authority done r.start)).answer_consume hop
  rw [hanswer, Operation.instant_event, hholds.live _ (Int.le_refl _)]
  rfl

/-- An issue of a code that has not been followed by a presentation of it. -/
def OpenIssue (c : String) (h : List Event) (i : Event) : Prop :=
  ∃ before rest, h = before ++ i :: rest ∧ i.issues c = true ∧
    ∀ p ∈ rest, p.operation.presents c = false

theorem openIssue_append : OpenIssue c (h ++ [e]) i ↔
    (i = e ∧ e.issues c = true) ∨ (OpenIssue c h i ∧ e.operation.presents c = false) := by
  constructor
  · rintro ⟨before, rest, heq, hi, hrest⟩
    rcases List.eq_nil_or_concat rest with rfl | ⟨mid, x, rfl⟩
    · obtain ⟨-, hlast⟩ := List.append_inj' heq rfl
      cases hlast
      exact .inl ⟨rfl, hi⟩
    · rw [List.concat_eq_append] at heq hrest
      rw [← List.cons_append, ← List.append_assoc] at heq
      obtain ⟨hinit, hlast⟩ := List.append_inj' heq rfl
      cases hlast
      refine .inr ⟨⟨before, mid, hinit, hi, ?_⟩, ?_⟩
      · intro p hp
        exact hrest p (List.mem_append_left _ hp)
      · exact hrest e (List.mem_append_right _ List.mem_cons_self)
  · rintro (⟨rfl, hi⟩ | ⟨⟨before, rest, rfl, hi, hrest⟩, he⟩)
    · exact ⟨h, [], rfl, hi, fun p hp => nomatch hp⟩
    · refine ⟨before, rest ++ [e], by rw [List.append_assoc, List.cons_append], hi, ?_⟩
      intro p hp
      rcases List.mem_append.mp hp with hp | hp
      · exact hrest p hp
      · rw [List.mem_singleton.mp hp]
        exact he

theorem OpenIssue.mem (hi : OpenIssue c h i) : i ∈ h ∧ i.issues c = true := by
  obtain ⟨before, rest, rfl, hi, -⟩ := hi
  exact ⟨List.mem_append_right _ List.mem_cons_self, hi⟩

/-- What a history keeps of a code that has been issued only once is the record of its open issue. -/
theorem kept_eq_some_iff {r : CodeRecord} (hone : h.countP (·.issues c) ≤ 1) :
    kept lifetime c h = some r ↔
      ∃ i, OpenIssue c h i ∧ i.operation.record? lifetime i.instant c = some r := by
  induction h using List.reverseRecOn with
  | nil =>
      constructor
      · intro hr
        cases hr
      · rintro ⟨i, hi, -⟩
        cases hi.mem.1
  | append_singleton h e ih =>
      rw [List.countP_append, List.countP_singleton] at hone
      have hkept : kept lifetime c (h ++ [e]) = e.keep lifetime c (kept lifetime c h) := by
        rw [kept, List.foldl_append]
        rfl
      simp only [hkept, openIssue_append]
      cases hi : e.issues c with
      | true =>
          have hp : e.operation.presents c = false := Event.presents_of_issues hi c
          -- There is no earlier issue beside the last one.
          have hno : ∀ j, ¬ OpenIssue c h j := by
            intro j hj
            have hpos : 0 < h.countP (·.issues c) := List.countP_pos_iff.mpr ⟨j, hj.mem⟩
            rw [if_pos hi] at hone
            omega
          rw [Event.keep_of_concerns (by rw [Event.concerns, hi, Bool.true_or])]
          simp [hno]
      | false =>
          cases hp : e.operation.presents c with
          | true =>
              rw [Event.keep_of_concerns (by rw [Event.concerns, hp, Bool.or_true]),
                Operation.record?_of_presents hp]
              simp
          | false =>
              rw [Event.keep_of_not_concerns (by rw [Event.concerns, hi, hp, Bool.or_false])]
              simpa using ih (by omega)

/-- That a record says what a code was issued for in an event. -/
inductive Event.DescribedBy (lifetime : Int) : Event → CodeRecord → Prop
  | issue {now : Int} {code : String} {clientId scopes redirectUri : Value} {r : CodeRecord}
      (describes : r.Describes lifetime now code clientId scopes redirectUri) :
      DescribedBy lifetime ⟨now, .issue clientId scopes redirectUri, .ok (.code code)⟩ r

theorem Event.DescribedBy.expiry {r : CodeRecord} (hd : i.DescribedBy lifetime r) :
    r.expiresAt.instant = i.instant + lifetime := by
  cases hd with
  | issue describes =>
      rw [describes.expiresAt]
      exact Time.Timestamp.instant_utc _

theorem Effect.describedBy (h : Effect s e t) (hi : e.issues c = true) :
    ∃ r, e.operation.record? s.state.lifetime e.instant c = some r ∧
      e.DescribedBy s.state.lifetime r := by
  cases h with
  | issued r journal made =>
      have hc : CodeStore.nextCode s = c := beq_iff_eq.mp hi
      subst hc
      refine ⟨r, ?_, .issue (CodeRecord.new_eq_ok made)⟩
      rw [Operation.record?, made]
      rfl
  | _ => cases hi

/-- Every issue of a run that succeeds has made a record that describes it. -/
theorem describedBy_of_issues {ops : List Operation} (he : e ∈ history a ops s)
    (hi : e.issues c = true) :
    ∃ r, e.operation.record? s.state.lifetime e.instant c = some r ∧
      e.DescribedBy s.state.lifetime r := by
  revert e
  have hall := history_invariant (a := a) (P := fun u => u.state.lifetime = s.state.lifetime)
    (Q := fun e => e.issues c = true → ∃ r,
      e.operation.record? s.state.lifetime e.instant c = some r ∧ e.DescribedBy s.state.lifetime r)
    (fun hs h => h.lifetime.trans hs) (fun hs h hi => hs ▸ h.describedBy hi) rfl ops
  intro e he hi
  exact hall e he hi

/-- Consuming a code gives a record if and only if an open issue of it has not expired, and the record
describes that issue. -/
theorem consume_exact (r : CodeRun) (hf : Forward r.operations) {before after : List Event}
    (h : r.history = before ++ e :: after) (hop : e.operation = .consume c) :
    ∃ o, e.answer = .ok (.record o) ∧
      (o.isSome = true ↔
        ∃ i, OpenIssue c before i ∧ e.instant ≤ i.instant + r.start.state.lifetime) ∧
      ∀ record i, o = some record → OpenIssue c before i →
        i.DescribedBy r.start.state.lifetime record := by
  have hanswer := answer_consume r hf h hop
  obtain ⟨done, op, todo, -, rfl, -, -⟩ := history_eq_append h
  have hone := countP_issues_le_one (a := r.authority) (c := c) r.distinct done
  -- The record of an open issue is what is kept, and it describes the issue.
  have hkept : ∀ i, OpenIssue c (history r.authority done r.start) i →
      ∃ record, kept r.start.state.lifetime c (history r.authority done r.start) = some record ∧
        i.DescribedBy r.start.state.lifetime record := by
    intro i hi
    obtain ⟨record, hrecord, hdescribed⟩ := describedBy_of_issues hi.mem.1 hi.mem.2
    exact ⟨record, (kept_eq_some_iff hone).mpr ⟨i, hi, hrecord⟩, hdescribed⟩
  refine ⟨_, hanswer, ?_, ?_⟩
  · rw [Option.isSome_iff_exists]
    constructor
    · rintro ⟨record, hrecord⟩
      obtain ⟨hsome, hle⟩ := liveAt_eq_some_iff.mp hrecord
      obtain ⟨i, hi, -⟩ := (kept_eq_some_iff hone).mp hsome
      obtain ⟨record', hsome', hdescribed⟩ := hkept i hi
      cases hsome.symm.trans hsome'
      exact ⟨i, hi, hdescribed.expiry ▸ hle⟩
    · rintro ⟨i, hi, hle⟩
      obtain ⟨record, hsome, hdescribed⟩ := hkept i hi
      exact ⟨record, liveAt_eq_some_iff.mpr ⟨hsome, hdescribed.expiry ▸ hle⟩⟩
  · intro record i hrecord hi
    obtain ⟨hsome, -⟩ := liveAt_eq_some_iff.mp hrecord
    obtain ⟨record', hsome', hdescribed⟩ := hkept i hi
    cases hsome.symm.trans hsome'
    exact hdescribed

end OAuthGrant

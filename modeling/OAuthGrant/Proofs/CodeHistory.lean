import OAuthGrant.Proofs.StoreSteps

/-!
# Histories of a store of codes

A run performs operations one after the other: codes are issued, consumed, cleaned up and presented to
the authority, and the clock moves in between, forward or backward. Its history is the list of the
operations with the instants at which they were performed and what they answered. `effect` says once
what a single operation can do; all that is known of runs is derived from it.
-/

namespace OAuthGrant
open CodeStore (codeBytes nextCode)

/-- What can be done with a store of codes, and a movement of the clock. -/
inductive Operation where
  | issue (clientId scopes redirectUri : Value)
  | consume (code : String)
  | cleanup
  | verify (grant : GrantRequest)
  | advance (micros : Int)

inductive Answer where
  | code (code : String)
  | record (record : Option CodeRecord)
  | count (removed : Nat)
  | token (token : AccessToken)
  | moved

/-- An operation that has been performed, with its instant and its answer. -/
structure Event where
  instant : Int
  operation : Operation
  answer : Except Failure Answer

namespace Operation

def action (a : InMemoryAuthority) : Operation → Action CodeStore Answer
  | issue clientId scopes redirectUri => .code <$> CodeStore.issue clientId scopes redirectUri
  | consume code => .record <$> CodeStore.consume code
  | cleanup => .count <$> CodeStore.cleanup
  | verify grant => .token <$> a.verify grant
  | advance micros => (fun _ => .moved) <$> Action.advance micros

/-- Whether an operation presents a code to the store. The authority does so only for a client that may
use codes. -/
def presents (code : String) : Operation → Bool
  | consume c => c == code
  | verify (.authorizationCode grant) =>
      grant.code == code && grant.client.grants.permits .authorizationCode
  | _ => false

def consumes (code : String) : Operation → Bool
  | consume c => c == code
  | _ => false

def after (a : InMemoryAuthority) (op : Operation) (s : Service CodeStore) : Service CodeStore :=
  ((op.action a).perform s).2

def event (a : InMemoryAuthority) (op : Operation) (s : Service CodeStore) : Event :=
  ⟨s.now, op, ((op.action a).perform s).1⟩

@[simp] theorem instant_event (a : InMemoryAuthority) (op : Operation) (s : Service CodeStore) :
    (op.event a s).instant = s.now := rfl

@[simp] theorem operation_event (a : InMemoryAuthority) (op : Operation) (s : Service CodeStore) :
    (op.event a s).operation = op := rfl

end Operation

namespace Event

/-- Whether a code has been issued by an event. -/
def issues (code : String) (e : Event) : Bool :=
  match e.operation, e.answer with
  | .issue .., .ok (.code c) => c == code
  | _, _ => false

/-- Whether a code has been redeemed by an event: for its record or for a token. -/
def redeems (code : String) (e : Event) : Bool :=
  match e.operation, e.answer with
  | .consume c, .ok (.record (some _)) => c == code
  | .verify (.authorizationCode grant), .ok (.token _) => grant.code == code
  | _, _ => false

end Event

/-- All that an operation can do, by the event it makes and the service it leaves behind. -/
inductive Effect (s : Service CodeStore) : Event → Service CodeStore → Prop
  | issued {clientId scopes redirectUri : Value} (r : CodeRecord) (journal : Log.Journal)
      (made : CodeRecord.new s.state.lifetime s.now (nextCode s) clientId scopes redirectUri = .ok r) :
      Effect s ⟨s.now, .issue clientId scopes redirectUri, .ok (.code (nextCode s))⟩
        { s with state := (s.state.prune s.now).put r, drawn := s.drawn + 1, journal }
  | notIssued {clientId scopes redirectUri : Value} (f : Failure) (journal : Log.Journal)
      (failed : CodeRecord.new s.state.lifetime s.now (nextCode s) clientId scopes redirectUri =
        .error f) :
      Effect s ⟨s.now, .issue clientId scopes redirectUri, .error f⟩
        { s with state := s.state.prune s.now, drawn := s.drawn + 1, journal }
  | consumed (code : String) (journal : Log.Journal) :
      Effect s ⟨s.now, .consume code, .ok (.record (s.state.live? s.now code))⟩
        { s with state := s.state.erase code, journal }
  | cleaned (removed : Nat) (journal : Log.Journal) :
      Effect s ⟨s.now, .cleanup, .ok (.count removed)⟩
        { s with state := s.state.prune s.now, journal }
  | presented (grant : CodeGrant) (out : Except Failure AccessToken) (drawn : Nat)
      (journal : Log.Journal) (drawn_le : s.drawn ≤ drawn)
      (permitted : grant.client.grants.permits .authorizationCode = true)
      (live : ∀ t, out = .ok t → ∃ r, s.state.live? s.now grant.code = some r) :
      Effect s ⟨s.now, .verify (.authorizationCode grant), out.map .token⟩
        { s with state := s.state.erase grant.code, drawn, journal }
  | denied (grant : CodeGrant) (f : Failure) (journal : Log.Journal)
      (denied : grant.client.grants.permits .authorizationCode = false) :
      Effect s ⟨s.now, .verify (.authorizationCode grant), .error f⟩ { s with journal }
  | entitled {grant : CredentialsGrant} (out : Except Failure AccessToken) (drawn : Nat)
      (journal : Log.Journal) (drawn_le : s.drawn ≤ drawn) :
      Effect s ⟨s.now, .verify (.clientCredentials grant), out.map .token⟩
        { s with drawn, journal }
  | moved (micros : Int) (fits : Time.Timestamp.inRange (s.now + micros) = true) :
      Effect s ⟨s.now, .advance micros, .ok .moved⟩ { s with now := s.now + micros }
  | notMoved (micros : Int) (f : Failure)
      (outside : ¬ Time.Timestamp.inRange (s.now + micros) = true) :
      Effect s ⟨s.now, .advance micros, .error f⟩ s

/-- Nothing else happens when an operation is performed. -/
theorem effect (a : InMemoryAuthority) (op : Operation) (s : Service CodeStore) :
    Effect s (op.event a s) (op.after a s) := by
  cases op with
  | issue clientId scopes redirectUri =>
      obtain ⟨journal, h⟩ := CodeStore.perform_issue clientId scopes redirectUri s
      simp only [Operation.event, Operation.after, Operation.action, Action.perform_map, h]
      cases made : CodeRecord.new s.state.lifetime s.now (nextCode s) clientId scopes redirectUri with
      | ok r => exact .issued r journal made
      | error f => exact .notIssued f journal made
  | consume code =>
      obtain ⟨journal, h⟩ := CodeStore.perform_consume code s
      simp only [Operation.event, Operation.after, Operation.action, Action.perform_map, h]
      exact .consumed code journal
  | cleanup =>
      obtain ⟨journal, h⟩ := CodeStore.perform_cleanup s
      simp only [Operation.event, Operation.after, Operation.action, Action.perform_map, h]
      exact .cleaned _ journal
  | verify grant =>
      simp only [Operation.event, Operation.after, Operation.action, Action.perform_map]
      cases grant with
      | authorizationCode grant =>
          have h := a.perform_redeem grant s
          simp only [InMemoryAuthority.verify]
          generalize (a.redeem grant).perform s = result at h
          cases h with
          | notPermitted journal denied => exact .denied grant _ journal denied
          | notLive journal permitted _ =>
              exact .presented grant (.error _) _ journal (Nat.le_refl _) permitted (fun t h => nomatch h)
          | otherClient journal record permitted _ _ =>
              exact .presented grant (.error _) _ journal (Nat.le_refl _) permitted (fun t h => nomatch h)
          | otherUri journal record permitted _ _ _ =>
              exact .presented grant (.error _) _ journal (Nat.le_refl _) permitted (fun t h => nomatch h)
          | redeemed journal record permitted live _ _ =>
              exact .presented grant _ _ journal (Nat.le_succ _) permitted
                (fun _ _ => ⟨record, live⟩)
      | clientCredentials grant =>
          have h := a.perform_grantScopes grant s
          simp only [InMemoryAuthority.verify]
          generalize (a.grantScopes grant).perform s = result at h
          cases h with
          | notPermitted journal _ => exact .entitled (.error _) _ journal (Nat.le_refl _)
          | unregistered journal _ _ => exact .entitled (.error _) _ journal (Nat.le_refl _)
          | granted journal _ _ => exact .entitled _ _ journal (Nat.le_succ _)
  | advance micros =>
      simp only [Operation.event, Operation.after, Operation.action, Action.perform_map]
      by_cases h : Time.Timestamp.inRange (s.now + micros) = true
      · rw [show (Action.advance micros).perform s = (.ok (), { s with now := s.now + micros }) from
          if_pos h]
        exact .moved micros h
      · rw [show (Action.advance micros).perform s = (.error .dateOutOfRange, s) from if_neg h]
        exact .notMoved micros _ h

/-- The service that several operations leave behind. -/
def run (a : InMemoryAuthority) (ops : List Operation) (s : Service CodeStore) : Service CodeStore :=
  ops.foldl (fun s op => op.after a s) s

def history (a : InMemoryAuthority) : List Operation → Service CodeStore → List Event
  | [], _ => []
  | op :: rest, s => op.event a s :: history a rest (op.after a s)

@[simp] theorem run_nil (a : InMemoryAuthority) (s : Service CodeStore) : run a [] s = s := rfl

@[simp] theorem run_cons (a : InMemoryAuthority) (op : Operation) (rest : List Operation)
    (s : Service CodeStore) : run a (op :: rest) s = run a rest (op.after a s) := rfl

theorem history_eq_append {a : InMemoryAuthority} {ops : List Operation} {s : Service CodeStore}
    {before after : List Event} {e : Event} (h : history a ops s = before ++ e :: after) :
    ∃ done op todo, ops = done ++ op :: todo ∧ before = history a done s ∧
      e = op.event a (run a done s) ∧ after = history a todo (op.after a (run a done s)) := by
  induction before generalizing ops s with
  | nil =>
      cases ops with
      | nil => cases h
      | cons op todo =>
          rw [history, List.nil_append, List.cons.injEq] at h
          exact ⟨[], op, todo, rfl, rfl, h.1.symm, h.2.symm⟩
  | cons b before ih =>
      cases ops with
      | nil => cases h
      | cons first rest =>
          rw [history, List.cons_append, List.cons.injEq] at h
          obtain ⟨done, op, todo, rfl, hb, he, ha⟩ := ih h.2
          exact ⟨first :: done, op, todo, rfl, by rw [history, h.1, hb], he, ha⟩

section Invariants

variable {a : InMemoryAuthority} {s : Service CodeStore} {P : Service CodeStore → Prop}
  {Q : Event → Prop}

/-- What every operation preserves holds after each run. -/
theorem run_invariant (step : ∀ {s e t}, P s → Effect s e t → P t) (hs : P s)
    (ops : List Operation) : P (run a ops s) := by
  induction ops generalizing s with
  | nil => exact hs
  | cons op rest ih => exact ih (step hs (effect a op s))

/-- What holds of every event under an invariant holds of all events of a run. -/
theorem history_invariant (step : ∀ {s e t}, P s → Effect s e t → P t)
    (event : ∀ {s e t}, P s → Effect s e t → Q e) (hs : P s) (ops : List Operation) :
    ∀ e ∈ history a ops s, Q e := by
  induction ops generalizing s with
  | nil => intro e he; cases he
  | cons op rest ih =>
      intro e he
      rcases List.mem_cons.mp he with rfl | he
      · exact event hs (effect a op s)
      · exact ih (step hs (effect a op s)) e he

theorem countP_cons_le_one {p : Event → Bool} {e : Event} {rest : List Event}
    (hrest : rest.countP p ≤ 1) (hlast : p e = true → ∀ q ∈ rest, p q = false) :
    (e :: rest).countP p ≤ 1 := by
  rw [List.countP_cons]
  by_cases he : p e = true
  · have hnone : rest.countP p = 0 := by
      rw [List.countP_eq_zero]
      intro q hq
      rw [hlast he q hq]
      exact Bool.false_ne_true
    have hone : rest.countP p + (if p e = true then 1 else 0) = 1 := by
      rw [hnone, if_pos he, Nat.zero_add]
    exact Nat.le_of_eq hone
  · rw [if_neg he]
    exact hrest

end Invariants

namespace Effect

variable {s t : Service CodeStore} {e : Event} {c : String}

theorem instant (h : Effect s e t) : e.instant = s.now := by
  cases h <;> rfl

theorem random (h : Effect s e t) : t.random = s.random := by
  cases h <;> rfl

theorem lifetime (h : Effect s e t) : t.state.lifetime = s.state.lifetime := by
  cases h <;> rfl

theorem drawn_le (h : Effect s e t) : s.drawn ≤ t.drawn := by
  cases h with
  | issued => exact Nat.le_succ _
  | notIssued => exact Nat.le_succ _
  | presented _ _ _ _ drawn_le => exact drawn_le
  | entitled _ _ _ drawn_le => exact drawn_le
  | _ => exact Nat.le_refl _

theorem eq_nextCode (h : Effect s e t)
    (hi : e.issues c = true) : c = nextCode s ∧ t.drawn = s.drawn + 1 := by
  cases h with
  | issued r journal made => exact ⟨(beq_iff_eq.mp hi).symm, rfl⟩
  | _ => cases hi

/-- A code comes into the store only by being issued. -/
theorem mem_codes (h : Effect s e t) (hc : c ∈ t.state.codes) :
    c ∈ s.state.codes ∨ e.issues c = true := by
  cases h with
  | issued r journal made =>
      rcases CodeStore.mem_codes_put.mp hc with hold | rfl
      · exact .inl (CodeStore.mem_codes_of_mem_prune hold)
      · exact .inr (beq_iff_eq.mpr (CodeRecord.new_eq_ok made).code.symm)
  | notIssued => exact .inl (CodeStore.mem_codes_of_mem_prune hc)
  | cleaned => exact .inl (CodeStore.mem_codes_of_mem_prune hc)
  | consumed => exact .inl (CodeStore.mem_codes_erase.mp hc).1
  | presented => exact .inl (CodeStore.mem_codes_erase.mp hc).1
  | _ => exact .inl hc

/-- A code that has been presented is no longer in the store. -/
theorem not_mem_codes (h : Effect s e t) (hp : e.operation.presents c = true) :
    c ∉ t.state.codes := by
  intro hc
  cases h with
  | consumed => exact (CodeStore.mem_codes_erase.mp hc).2 (beq_iff_eq.mp hp).symm
  | presented =>
      simp only [Operation.presents, Bool.and_eq_true, beq_iff_eq] at hp
      exact (CodeStore.mem_codes_erase.mp hc).2 hp.1.symm
  | denied _ _ _ denied => simp [Operation.presents, denied] at hp
  | _ => cases hp

theorem of_redeems (h : Effect s e t)
    (hr : e.redeems c = true) : e.operation.presents c = true ∧ c ∈ s.state.codes := by
  cases h with
  | consumed code journal =>
      cases live : s.state.live? s.now code with
      | none => simp [Event.redeems, live] at hr
      | some r =>
          have hcode : code = c := by simpa [Event.redeems, live] using hr
          subst hcode
          exact ⟨beq_self_eq_true code, CodeStore.mem_codes_of_live? live⟩
  | presented grant out drawn journal _ permitted live =>
      cases out with
      | error f => cases hr
      | ok token =>
          obtain ⟨r, hlive⟩ := live token rfl
          have hcode := beq_iff_eq.mp hr
          subst hcode
          exact ⟨by simp [Operation.presents, permitted], CodeStore.mem_codes_of_live? hlive⟩
  | entitled out => cases out <;> cases hr
  | _ => cases hr

end Effect

/-- The random source never gives a code twice. -/
def DistinctCodes (s : Service CodeStore) : Prop :=
  ∀ i j, s.random codeBytes i = s.random codeBytes j → i = j

/-- A code that has been drawn before. -/
def WasDrawn (s : Service CodeStore) (c : String) : Prop :=
  ∃ n, n ≤ s.drawn ∧ s.random codeBytes n = c

section Draws

variable {a : InMemoryAuthority} {s t : Service CodeStore} {e : Event} {c : String}

theorem DistinctCodes.step (hs : DistinctCodes s) (h : Effect s e t) : DistinctCodes t := by
  unfold DistinctCodes
  rw [h.random]
  exact hs

theorem WasDrawn.step (hs : WasDrawn s c) (h : Effect s e t) : WasDrawn t c := by
  obtain ⟨n, hn, hc⟩ := hs
  refine ⟨n, Nat.le_trans hn h.drawn_le, ?_⟩
  rw [h.random]
  exact hc

theorem wasDrawn_of_issues (h : Effect s e t)
    (hi : e.issues c = true) : WasDrawn t c := by
  obtain ⟨hc, hdrawn⟩ := h.eq_nextCode hi
  refine ⟨s.drawn + 1, Nat.le_of_eq hdrawn.symm, ?_⟩
  rw [h.random]
  exact hc.symm

theorem WasDrawn.issues_eq_false (hs : WasDrawn s c) (hd : DistinctCodes s)
    (h : Effect s e t) : e.issues c = false := by
  rw [Bool.eq_false_iff]
  intro hi
  obtain ⟨n, hn, hc⟩ := hs
  have hnext : n = s.drawn + 1 := hd _ _ (hc.trans (h.eq_nextCode hi).1)
  omega

theorem DistinctCodes.after_run (hs : DistinctCodes s) (ops : List Operation) :
    DistinctCodes (run a ops s) :=
  run_invariant DistinctCodes.step hs ops

theorem WasDrawn.after_run (hs : WasDrawn s c) (ops : List Operation) :
    WasDrawn (run a ops s) c :=
  run_invariant WasDrawn.step hs ops

theorem WasDrawn.not_issued (hs : WasDrawn s c) (hd : DistinctCodes s) (ops : List Operation) :
    ∀ e ∈ history a ops s, e.issues c = false := by
  refine history_invariant (P := fun s => WasDrawn s c ∧ DistinctCodes s) ?_ ?_ ⟨hs, hd⟩ ops
  · intro s e t hs h
    exact ⟨hs.1.step h, hs.2.step h⟩
  · intro s e t hs h
    exact hs.1.issues_eq_false hs.2 h

/-- A code that is stored has been issued, or was there from the start. -/
theorem issued_of_mem_codes {ops : List Operation} (hc : c ∈ (run a ops s).state.codes) :
    c ∈ s.state.codes ∨ ∃ e ∈ history a ops s, e.issues c = true := by
  induction ops generalizing s with
  | nil => exact .inl hc
  | cons op rest ih =>
      rcases ih hc with hc | ⟨e, he, hi⟩
      · rcases (effect a op s).mem_codes hc with hc | hi
        · exact .inl hc
        · exact .inr ⟨op.event a s, List.mem_cons_self, hi⟩
      · exact .inr ⟨e, List.mem_cons_of_mem _ he, hi⟩

/-- No code is issued twice. -/
theorem countP_issues_le_one (hd : DistinctCodes s) (ops : List Operation) :
    (history a ops s).countP (·.issues c) ≤ 1 := by
  induction ops generalizing s with
  | nil => exact Nat.zero_le _
  | cons op rest ih =>
      have h := effect a op s
      apply countP_cons_le_one (ih (hd.step h))
      intro hi
      exact (wasDrawn_of_issues h hi).not_issued (hd.step h) rest

end Draws

/-- A run from a store without codes, with a random source that never gives a code twice. -/
structure CodeRun where
  authority : InMemoryAuthority
  start : Service CodeStore
  operations : List Operation
  empty : start.state.entries = []
  distinct : DistinctCodes start

def CodeRun.history (r : CodeRun) : List Event := OAuthGrant.history r.authority r.operations r.start

/-- A run in which a code is issued, redeemed by its client and presented again. The random source
counts in unary. -/
def CodeRun.sample : CodeRun where
  authority := ⟨3600000000⟩
  start :=
    { now := 0
      random := fun _ n => String.ofList (List.replicate n 'a')
      state := .empty 600000000 }
  operations :=
    [.issue (.text "app") (.list [.text "read"]) .null,
     .verify (.authorizationCode ⟨"a", none, ⟨"app", .empty, [], .every⟩⟩),
     .consume "a"]
  empty := rfl
  distinct := by
    intro i j h
    have hlist := String.ofList_injective h
    simpa using congrArg List.length hlist

end OAuthGrant

import OAuthGrant.Proofs.CodeLiveness

/-!
# Pruning cannot be seen

The consumers of a code are answered by what follows from the calls that concern it. Which calls these
are depends on the clock and on the values drawn for the issues, but not on what is stored. So two runs
that differ only by cleanups and by issues of other codes give the same answers, at whatever places these
stand in either run.
-/

namespace OAuthGrant

variable {a a' : InMemoryAuthority} {s s' t : Service CodeStore} {e : Event} {c : String}
  {o : Option CodeRecord} {h : List Event} {op : Operation}

/-- The calls that concern a code, with their instants. -/
def calls (c : String) (h : List Event) : List (Int × Operation) :=
  (h.filter (·.concerns c)).map fun e => (e.instant, e.operation)

def answers (c : String) (h : List Event) : List (Except Failure Answer) :=
  (h.filter (·.operation.consumes c)).map (·.answer)

theorem calls_cons_of_concerns (hc : e.concerns c = true) :
    calls c (e :: h) = (e.instant, e.operation) :: calls c h := by
  unfold calls
  rw [List.filter_cons_of_pos hc, List.map_cons]

theorem calls_cons_of_not_concerns (hc : e.concerns c = false) : calls c (e :: h) = calls c h := by
  unfold calls
  rw [List.filter_cons_of_neg (Bool.eq_false_iff.mp hc)]

theorem answers_cons_of_consumes (hc : e.operation.consumes c = true) :
    answers c (e :: h) = e.answer :: answers c h := by
  unfold answers
  rw [List.filter_cons, if_pos hc, List.map_cons]

theorem answers_cons_of_not_consumes (hc : e.operation.consumes c = false) :
    answers c (e :: h) = answers c h := by
  unfold answers
  rw [List.filter_cons, if_neg (Bool.eq_false_iff.mp hc)]

/-- The answers that follow from the calls alone. -/
def replies (lifetime : Int) (c : String) :
    Option CodeRecord → List (Int × Operation) → List (Except Failure Answer)
  | _, [] => []
  | o, (now, op) :: rest =>
      if op.consumes c then .ok (.record (liveAt now o)) :: replies lifetime c none rest
      else replies lifetime c (op.record? lifetime now c) rest

theorem Operation.eq_consume {op : Operation} (hc : op.consumes c = true) : op = .consume c := by
  cases op with
  | consume code => rw [beq_iff_eq.mp hc]
  | _ => cases hc

theorem Event.concerns_of_consumes (hc : e.operation.consumes c = true) : e.concerns c = true := by
  rw [Event.concerns, Operation.eq_consume hc, Operation.presents, beq_self_eq_true, Bool.or_true]

/-- The answers of a run are those that follow from its calls. -/
theorem answers_eq_replies (hs : Holds s c o) {ops : List Operation} (hf : Forward ops) :
    answers c (history a ops s) = replies s.state.lifetime c o (calls c (history a ops s)) := by
  induction ops generalizing s o with
  | nil => rfl
  | cons op rest ih =>
      have h := effect a op s
      have hrest := ih (hs.step h (hf.now_le h)) hf.tail
      rw [h.lifetime] at hrest
      rw [history]
      generalize op.event a s = e, op.after a s = t at h hrest
      cases hconsumes : e.operation.consumes c with
      | true =>
          have hop := Operation.eq_consume hconsumes
          have hconcerns := Event.concerns_of_consumes hconsumes
          have hanswer : e.answer = .ok (.record (liveAt e.instant o)) := by
            rw [h.answer_consume hop, hs.live _ (Int.le_of_eq h.instant.symm)]
          have hkeep : e.keep s.state.lifetime c o = none := by
            rw [Event.keep_of_concerns hconcerns, hop]
            rfl
          rw [answers_cons_of_consumes hconsumes, calls_cons_of_concerns hconcerns, replies,
            if_pos hconsumes, hanswer, hrest, hkeep]
      | false =>
          rw [answers_cons_of_not_consumes hconsumes, hrest]
          cases hconcerns : e.concerns c with
          | true =>
              rw [calls_cons_of_concerns hconcerns, replies,
                if_neg (Bool.eq_false_iff.mp hconsumes), Event.keep_of_concerns hconcerns]
          | false =>
              rw [calls_cons_of_not_concerns hconcerns, Event.keep_of_not_concerns hconcerns]

theorem answers_eq_of_calls (r r' : CodeRun) (hf : Forward r.operations) (hf' : Forward r'.operations)
    (hlifetime : r'.start.state.lifetime = r.start.state.lifetime)
    (hcalls : calls c r'.history = calls c r.history) : answers c r'.history = answers c r.history := by
  have hreplies := answers_eq_replies (a := r.authority) (holds_none (c := c) r.empty) hf
  have hreplies' := answers_eq_replies (a := r'.authority) (holds_none (c := c) r'.empty) hf'
  unfold CodeRun.history at hcalls ⊢
  rw [hreplies, hreplies', hlifetime, hcalls]

namespace Operation

/-- Whether an operation issues a code, if it succeeds. -/
def isIssue : Operation → Bool
  | issue .. => true
  | _ => false

/-- What an operation makes of the instant at which it is performed. -/
def clock (now : Int) : Operation → Int
  | advance micros => if Time.Timestamp.inRange (now + micros) then now + micros else now
  | _ => now

theorem record?_of_not_isIssue {lifetime now : Int} (hop : op.isIssue = false) :
    op.record? lifetime now c = none := by
  cases op with
  | issue => cases hop
  | _ => rfl

end Operation

theorem Effect.now_eq_clock (h : Effect s e t) : t.now = e.operation.clock s.now := by
  cases h with
  | moved micros fits => exact (if_pos fits).symm
  | notMoved micros f outside => exact (if_neg outside).symm
  | _ => rfl

/-- Whether a code is issued depends on the value drawn for it, the clock and the lifetime only. -/
theorem Effect.issues_eq (h : Effect s e t) :
    e.issues c = (CodeStore.nextCode s == c &&
      (e.operation.record? s.state.lifetime s.now c).isSome) := by
  cases h with
  | issued r journal made =>
      cases hc : CodeStore.nextCode s == c with
      | false => rw [Bool.false_and]; exact hc
      | true =>
          rw [← beq_iff_eq.mp hc, Operation.record?, made]
          exact beq_self_eq_true _
  | notIssued f journal failed =>
      cases hc : CodeStore.nextCode s == c with
      | false => rfl
      | true =>
          rw [← beq_iff_eq.mp hc, Operation.record?, failed]
          rfl
  | _ => rw [Operation.record?_of_not_isIssue rfl, Option.isSome_none, Bool.and_false]; rfl

theorem concerns_event_eq (a a' : InMemoryAuthority) (hnow : s'.now = s.now)
    (hlifetime : s'.state.lifetime = s.state.lifetime)
    (hdrawn : op.isIssue = true → CodeStore.nextCode s' = CodeStore.nextCode s) :
    (op.event a' s').concerns c = (op.event a s).concerns c := by
  have hissues : (op.event a' s').issues c = (op.event a s).issues c := by
    rw [(effect a' op s').issues_eq, (effect a op s).issues_eq, Operation.operation_event,
      Operation.operation_event, hnow, hlifetime]
    cases hop : op.isIssue with
    | true => rw [hdrawn hop]
    | false =>
        rw [Operation.record?_of_not_isIssue hop, Option.isSome_none, Bool.and_false, Bool.and_false]
  rw [Event.concerns, Event.concerns, hissues]
  rfl

theorem Event.eq_of_issues {d : String} (hc : e.issues c = true) (hd : e.issues d = true) : c = d := by
  obtain ⟨now, op, answer⟩ := e
  cases op with
  | issue =>
      cases answer with
      | error f => cases hc
      | ok answer =>
          cases answer with
          | code issued => exact (beq_iff_eq.mp hc).symm.trans (beq_iff_eq.mp hd)
          | _ => cases hc
  | _ => cases hc

/-- Whether an event is a cleanup or the issue of another code. -/
def Event.IsAside (c : String) (e : Event) : Prop :=
  e.operation = .cleanup ∨ ∃ d, d ≠ c ∧ e.issues d = true

theorem Event.IsAside.concerns_eq_false (he : e.IsAside c) : e.concerns c = false := by
  rcases he with hop | ⟨d, hne, hi⟩
  · rw [Event.concerns, Event.issues, hop]
    rfl
  · rw [Event.concerns, Event.presents_of_issues hi c, Bool.or_false, Bool.eq_false_iff]
    intro hc
    exact hne (Event.eq_of_issues hi hc)

theorem Event.IsAside.clock_eq {now : Int} (he : e.IsAside c) : e.operation.clock now = now := by
  rcases he with hop | ⟨d, -, hi⟩
  · rw [hop]
    rfl
  · obtain ⟨instant, op, answer⟩ := e
    cases op with
    | issue => rfl
    | _ => cases hi

/-- Two runs are the same, apart from cleanups and issues of other codes than `c` that stand in one of
them only. The issues that stand in both are given the same values by the random source. -/
inductive SameBesides (a a' : InMemoryAuthority) (c : String) :
    Service CodeStore → List Operation → Service CodeStore → List Operation → Prop
  | nil (s s' : Service CodeStore) : SameBesides a a' c s [] s' []
  | both {s s' : Service CodeStore} {ops ops' : List Operation} (op : Operation)
      (drawn : op.isIssue = true → CodeStore.nextCode s' = CodeStore.nextCode s)
      (rest : SameBesides a a' c (op.after a s) ops (op.after a' s') ops') :
      SameBesides a a' c s (op :: ops) s' (op :: ops')
  | left {s s' : Service CodeStore} {ops ops' : List Operation} (op : Operation)
      (aside : (op.event a s).IsAside c) (rest : SameBesides a a' c (op.after a s) ops s' ops') :
      SameBesides a a' c s (op :: ops) s' ops'
  | right {s s' : Service CodeStore} {ops ops' : List Operation} (op : Operation)
      (aside : (op.event a' s').IsAside c) (rest : SameBesides a a' c s ops (op.after a' s') ops') :
      SameBesides a a' c s ops s' (op :: ops')

theorem SameBesides.calls_eq {ops ops' : List Operation} (h : SameBesides a a' c s ops s' ops')
    (hnow : s'.now = s.now) (hlifetime : s'.state.lifetime = s.state.lifetime) :
    calls c (history a' ops' s') = calls c (history a ops s) := by
  induction h with
  | nil => rfl
  | @both s s' ops ops' op drawn _ ih =>
      have h := effect a op s
      have h' := effect a' op s'
      have hclock : (op.after a' s').now = (op.after a s).now := by
        rw [h.now_eq_clock, h'.now_eq_clock, Operation.operation_event, Operation.operation_event, hnow]
      have hrest := ih hclock (by rw [h.lifetime, h'.lifetime, hlifetime])
      have hconcerns := concerns_event_eq (c := c) a a' hnow hlifetime drawn
      rw [history, history]
      cases hc : (op.event a s).concerns c with
      | true =>
          rw [calls_cons_of_concerns hc, calls_cons_of_concerns (hconcerns.trans hc), hrest,
            Operation.instant_event, Operation.instant_event, hnow]
          rfl
      | false =>
          rw [calls_cons_of_not_concerns hc, calls_cons_of_not_concerns (hconcerns.trans hc), hrest]
  | @left s s' ops ops' op aside _ ih =>
      have h := effect a op s
      have hclock : (op.after a s).now = s.now := h.now_eq_clock.trans aside.clock_eq
      rw [history, calls_cons_of_not_concerns aside.concerns_eq_false]
      exact ih (hnow.trans hclock.symm) (hlifetime.trans h.lifetime.symm)
  | @right s s' ops ops' op aside _ ih =>
      have h := effect a' op s'
      have hclock : (op.after a' s').now = s'.now := h.now_eq_clock.trans aside.clock_eq
      rw [history, calls_cons_of_not_concerns aside.concerns_eq_false]
      exact ih (hclock.trans hnow) (h.lifetime.trans hlifetime)

/-- Consuming a code gives a record if and only if an issue of it is open and has not expired, and then
one that describes this issue. Cleanups and issues of other codes that are inserted into a run or taken
out of it, wherever they stand, change none of the answers. -/
theorem pruning_invisible (r : CodeRun) (hf : Forward r.operations) (c : String) :
    (∀ before e after, r.history = before ++ e :: after → e.operation = .consume c →
      ∃ o, e.answer = .ok (.record o) ∧
        (o.isSome = true ↔
          ∃ i, OpenIssue c before i ∧ e.instant ≤ i.instant + r.start.state.lifetime) ∧
        ∀ record i, o = some record → OpenIssue c before i →
          i.DescribedBy r.start.state.lifetime record) ∧
    (∀ r' : CodeRun, Forward r'.operations → r'.start.now = r.start.now →
      r'.start.state.lifetime = r.start.state.lifetime →
      SameBesides r.authority r'.authority c r.start r.operations r'.start r'.operations →
      answers c r'.history = answers c r.history) := by
  refine ⟨fun before e after h hop => consume_exact r hf h hop, ?_⟩
  intro r' hf' hnow hlifetime hsame
  exact answers_eq_of_calls r r' hf hf' hlifetime (hsame.calls_eq hnow hlifetime)

/-- A code is issued and consumed at the very instant of its expiry. -/
def CodeRun.late : CodeRun :=
  { CodeRun.sample with
    operations :=
      [.issue (.text "app") (.list [.text "read"]) .null, .advance 600000000, .consume "a"] }

/-- The same, with two cleanups and the issue of another code in between. -/
def CodeRun.lateAmongOthers : CodeRun :=
  { CodeRun.sample with
    operations :=
      [.issue (.text "app") (.list [.text "read"]) .null, .cleanup,
       .issue (.text "other") (.list []) .null, .advance 600000000, .cleanup, .consume "a"] }

theorem late_forward : Forward CodeRun.late.operations := by
  intro m hm
  simp only [CodeRun.late, List.mem_cons, List.not_mem_nil, or_false, reduceCtorEq, false_or,
    Operation.advance.injEq] at hm
  omega

theorem lateAmongOthers_forward : Forward CodeRun.lateAmongOthers.operations := by
  intro m hm
  simp only [CodeRun.lateAmongOthers, List.mem_cons, List.not_mem_nil, or_false, reduceCtorEq,
    false_or, Operation.advance.injEq] at hm
  omega

theorem late_sameBesides : SameBesides CodeRun.late.authority CodeRun.lateAmongOthers.authority "a"
    CodeRun.late.start CodeRun.late.operations CodeRun.lateAmongOthers.start
    CodeRun.lateAmongOthers.operations := by
  refine .both _ (fun _ => rfl) ?_
  refine .right _ (.inl rfl) ?_
  refine .right _ (.inr ⟨"aa", by decide, by decide⟩) ?_
  refine .both _ nofun ?_
  refine .right _ (.inl rfl) ?_
  exact .both _ nofun (.nil _ _)

/-- At the instant of its expiry a code is still given out, in either run. -/
theorem late_code_consumed :
    ∃ issue move consume record, CodeRun.late.history = [issue, move, consume] ∧
      consume.answer = .ok (.record (some record)) ∧ issue.DescribedBy 600000000 record ∧
      answers "a" CodeRun.lateAmongOthers.history = answers "a" CodeRun.late.history := by
  have hopen : OpenIssue "a" (CodeRun.late.history.take 2) (CodeRun.late.history.head (by decide)) := by
    refine ⟨[], _, rfl, by decide, ?_⟩
    intro p hp
    cases List.mem_singleton.mp hp
    rfl
  obtain ⟨o, hanswer, hlive, hdescribed⟩ :=
    (pruning_invisible CodeRun.late late_forward "a").1 (CodeRun.late.history.take 2) _ [] rfl rfl
  obtain ⟨record, rfl⟩ := Option.isSome_iff_exists.mp (hlive.mpr ⟨_, hopen, by decide⟩)
  refine ⟨_, _, _, record, rfl, hanswer, hdescribed record _ rfl hopen, ?_⟩
  exact (pruning_invisible CodeRun.late late_forward "a").2 CodeRun.lateAmongOthers
    lateAmongOthers_forward rfl rfl late_sameBesides

end OAuthGrant

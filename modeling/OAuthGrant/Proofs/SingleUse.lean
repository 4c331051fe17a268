import OAuthGrant.Proofs.CodeHistory

/-!
# Codes are used once

A code that has been drawn and is not stored is spent: it is never stored again, because the random
source does not repeat itself, and what is not stored cannot be redeemed. Presenting a code spends it,
whatever comes of it. Hence a code is redeemed at most once after its issue, and a code that is redeemed
for a token has been issued once before.
-/

namespace OAuthGrant

/-- A code that can be redeemed no more. -/
structure Spent (s : Service CodeStore) (c : String) : Prop where
  drawn : WasDrawn s c
  absent : c ∉ s.state.codes

variable {a : InMemoryAuthority} {s t : Service CodeStore} {e : Event} {c : String}

theorem Spent.step (hs : Spent s c) (hd : DistinctCodes s) (h : Effect s e t) :
    Spent t c := by
  refine ⟨hs.drawn.step h, ?_⟩
  intro hc
  rcases h.mem_codes hc with hold | hi
  · exact hs.absent hold
  · rw [hs.drawn.issues_eq_false hd h] at hi
    cases hi

theorem Spent.redeems_eq_false (hs : Spent s c) (h : Effect s e t) :
    e.redeems c = false := by
  rw [Bool.eq_false_iff]
  intro hr
  exact hs.absent (h.of_redeems hr).2

theorem Spent.not_redeemed (hs : Spent s c) (hd : DistinctCodes s) (ops : List Operation) :
    ∀ e ∈ history a ops s, e.redeems c = false := by
  refine history_invariant (P := fun s => Spent s c ∧ DistinctCodes s) ?_ ?_ ⟨hs, hd⟩ ops
  · intro s e t hs h
    exact ⟨hs.1.step hs.2 h, hs.2.step h⟩
  · intro s e t hs h
    exact hs.1.redeems_eq_false h

/-- Presenting a code that has been drawn spends it, whatever comes of it. -/
theorem WasDrawn.spent (hs : WasDrawn s c) (h : Effect s e t) (hp : e.operation.presents c = true) :
    Spent t c :=
  ⟨hs.step h, h.not_mem_codes hp⟩

theorem WasDrawn.countP_redeems_le_one (hs : WasDrawn s c) (hd : DistinctCodes s)
    (ops : List Operation) : (history a ops s).countP (·.redeems c) ≤ 1 := by
  induction ops generalizing s with
  | nil => exact Nat.zero_le _
  | cons op rest ih =>
      have h := effect a op s
      apply countP_cons_le_one (ih (hs.step h) (hd.step h))
      intro hr
      have hspent : Spent (op.after a s) c := hs.spent h (h.of_redeems hr).1
      exact hspent.not_redeemed (hd.step h) rest

theorem WasDrawn.not_redeemed_after (hs : WasDrawn s c) (hd : DistinctCodes s)
    {ops : List Operation} {mid later : List Event} {p : Event}
    (h : history a ops s = mid ++ p :: later) (hp : p.operation.presents c = true) :
    ∀ q ∈ later, q.redeems c = false := by
  obtain ⟨done, op, todo, -, -, rfl, rfl⟩ := history_eq_append h
  have hspent : Spent (op.after a (run a done s)) c := (hs.after_run done).spent (effect a op _) hp
  exact hspent.not_redeemed ((hd.after_run done).step (effect a op _)) todo

/-- A code that is redeemed has been issued exactly once, if it was not there from the start. -/
theorem countP_issues_of_redeems {ops : List Operation} {before after : List Event} {e : Event}
    (hd : DistinctCodes s) (hempty : s.state.entries = []) (h : history a ops s = before ++ e :: after)
    (hr : e.redeems c = true) : before.countP (·.issues c) = 1 := by
  obtain ⟨done, op, todo, -, rfl, rfl, -⟩ := history_eq_append h
  have hstored : c ∈ (run a done s).state.codes := ((effect a op (run a done s)).of_redeems hr).2
  have hle := countP_issues_le_one (a := a) (c := c) hd done
  have hpos : 0 < (history a done s).countP (·.issues c) := by
    rcases issued_of_mem_codes hstored with hstart | ⟨i, hi, hissues⟩
    · rw [CodeStore.codes, hempty] at hstart
      cases hstart
    · exact List.countP_pos_iff.mpr ⟨i, hi, hissues⟩
  omega

/-- In every run, a code that has been issued is redeemed at most once, and never after it has been
presented; and a token that is given for a code is justified by exactly one earlier issue of it. -/
theorem code_redeemed_at_most_once (r : CodeRun) {before after : List Event} {e : Event}
    (h : r.history = before ++ e :: after) :
    (∀ c, e.issues c = true →
      after.countP (·.redeems c) ≤ 1 ∧
      ∀ mid p later, after = mid ++ p :: later → p.operation.presents c = true →
        ∀ q ∈ later, q.redeems c = false) ∧
    (∀ grant token, e.operation = .verify (.authorizationCode grant) → e.answer = .ok (.token token) →
      before.countP (·.issues grant.code) = 1) := by
  constructor
  · intro c hi
    obtain ⟨done, op, todo, -, -, rfl, rfl⟩ := history_eq_append h
    have heffect := effect r.authority op (run r.authority done r.start)
    have hdrawn := wasDrawn_of_issues heffect hi
    have hd := (r.distinct.after_run (a := r.authority) done).step heffect
    refine ⟨hdrawn.countP_redeems_le_one hd todo, ?_⟩
    intro mid p later hafter hp
    exact hdrawn.not_redeemed_after hd hafter hp
  · intro grant token hop hanswer
    have hr : e.redeems grant.code = true := by
      unfold Event.redeems
      rw [hop, hanswer]
      exact beq_self_eq_true _
    exact countP_issues_of_redeems r.distinct r.empty h hr

/-- The code of the sample is issued once, redeemed once for a token, and refused afterwards. -/
theorem sample_code_redeemed_once :
    ∃ issue verify consume, CodeRun.sample.history = [issue, verify, consume] ∧
      issue.issues "a" = true ∧ verify.redeems "a" = true ∧
      [verify, consume].countP (·.redeems "a") ≤ 1 ∧ consume.redeems "a" = false ∧
      [issue].countP (·.issues "a") = 1 := by
  refine ⟨_, _, _, rfl, by decide, by decide, ?_, ?_, ?_⟩
  · exact ((code_redeemed_at_most_once CodeRun.sample (List.nil_append _).symm).1 "a" (by decide)).1
  · exact ((code_redeemed_at_most_once CodeRun.sample (List.nil_append _).symm).1 "a" (by decide)).2
      [] _ _ rfl (by decide) _ List.mem_cons_self
  · have h : CodeRun.sample.history = [_] ++ _ :: [_] := rfl
    exact (code_redeemed_at_most_once CodeRun.sample h).2 _ _ rfl rfl

end OAuthGrant

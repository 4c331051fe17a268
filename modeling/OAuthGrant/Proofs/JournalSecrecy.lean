import OAuthGrant.Proofs.PlainForms
import OAuthGrant.Proofs.TwinRequests

/-!
# The journal tells no secrets

The same steps are taken in two runs that draw different values. If the values agree as far as the journal
shows them, and an issued code is used only where a code belongs, both runs write the same journal: nothing
can be learned from it of the rest of a code or of a token.
-/

namespace OAuthGrant
open CodeStore (codeBytes)

/-- The stages of two runs that take the same steps with different secrets. -/
structure TwinStages (first second : Nat → Nat → String) (stage stage' : Stage) : Prop where
  services : Twins first second stage.codes stage'.codes stage.service stage'.service
  codes : List.Forall₂ (SameIssue first second) stage.codes stage'.codes

/-- The values that two services draw from now on agree in what the journal shows of them, no code comes
twice, and the codes are legible. -/
structure SecretsAlike (Legible : String → Prop) (s t : Service CodeStore) : Prop where
  values : TwinValues s.upcoming t.upcoming
  legible : ∀ n, Legible (s.upcoming codeBytes n)
  legible' : ∀ n, Legible (t.upcoming codeBytes n)

def Deployment.issuedIn (d : Deployment) {Legible : String → Prop} (steps : List (Step d.hosted Legible))
    (s : Service CodeStore) : List String :=
  (d.stageAfter steps ⟨s, []⟩).codes.filter (· ≠ "")

namespace Deployment

variable (d : Deployment) {Legible : String → Prop}

theorem codes_subset_next (step : Step d.hosted Legible) (stage : Stage) :
    stage.codes ⊆ (d.next step stage).codes := by
  cases step with
  | issue => exact List.subset_append_left _ _
  | _ => exact List.Subset.refl _

theorem codes_subset_stageAfter (steps : List (Step d.hosted Legible)) (stage : Stage) :
    stage.codes ⊆ (d.stageAfter steps stage).codes := by
  induction steps generalizing stage with
  | nil => exact List.Subset.refl _
  | cons step rest ih => exact List.Subset.trans (d.codes_subset_next step stage) (ih _)

theorem not_issued {steps : List (Step d.hosted Legible)} {s : Service CodeStore} {text : String}
    (h : text ∉ d.issuedIn steps s) : text = "" ∨ text ∉ (d.stageAfter steps ⟨s, []⟩).codes := by
  by_cases hempty : text = ""
  · exact .inl hempty
  · exact .inr fun hmem => h (List.mem_filter.mpr ⟨hmem, decide_eq_true hempty⟩)

end Deployment

namespace TwinStages

variable {Legible : String → Prop} {first second : Nat → Nat → String} {stage stage' : Stage}

theorem sameCode (h : TwinStages first second stage stage') {name : CodeName}
    (hfixed : ∀ text, name = .fixed text → text = "" ∨ text ∉ stage.codes ∧ text ∉ stage'.codes) :
    SameCode first second stage.codes stage'.codes (name.text stage.codes) (name.text stage'.codes) := by
  cases name with
  | fixed text => exact .fixed text (hfixed text rfl)
  | issued call =>
      have hcall : SameIssue first second (stage.codes.getD call "") (stage'.codes.getD call "") :=
        forall₂_getD h.codes (.inl ⟨rfl, rfl⟩) call
      rw [CodeName.text, CodeName.text]
      rcases hcall with ⟨hc, hc'⟩ | ⟨n, hc, hc'⟩
      · rw [hc, hc']
        exact .fixed "" (.inl rfl)
      · rw [hc, hc']
        exact .drawn n

theorem cutText_eq (hv : TwinValues first second) (h : TwinStages first second stage stage') (call : Nat) :
    Log.cutText (stage.codes.getD call "") = Log.cutText (stage'.codes.getD call "") := by
  have hcode : SameCode first second stage.codes stage'.codes ((CodeName.issued call).text stage.codes)
      ((CodeName.issued call).text stage'.codes) := h.sameCode nofun
  exact hcode.cutText_eq hv

theorem issuedInBoth (hlegible : ∀ n, Legible (first codeBytes n) ∧ Legible (second codeBytes n))
    (h : TwinStages first second stage stage') :
    List.Forall₂ (IssuedInBoth Legible) stage.codes stage'.codes := by
  refine h.codes.imp ?_
  rintro c c' (hempty | ⟨n, rfl, rfl⟩)
  · exact .inl hempty
  · exact .inr (hlegible n)

variable {d : Deployment}

/-- A step keeps the stages of two runs twins. -/
theorem next (hv : TwinValues first second) (ha : 0 < d.authority.lifetime) (hread : IsReadable Legible)
    (hlegible : ∀ n, Legible (first codeBytes n) ∧ Legible (second codeBytes n))
    (h : TwinStages first second stage stage') {step : Step d.hosted Legible}
    (hfixed : ∀ text, step.presented? = some (.fixed text) →
      text = "" ∨ text ∉ stage.codes ∧ text ∉ stage'.codes) :
    TwinStages first second (d.next step stage) (d.next step stage') := by
  cases step with
  | issue clientId scopes redirectUri =>
      have hissue := h.services.issue hv clientId scopes redirectUri
      exact ⟨hissue.services, List.rel_append h.codes (.cons hissue.code .nil)⟩
  | consume code =>
      have hcode := h.sameCode fun text htext => hfixed text (congrArg some htext)
      exact ⟨(Twins.alike_consume hv hcode _ _ h.services).2, h.codes⟩
  | cleanup => exact ⟨(Twins.alike_cleanup _ _ h.services).2, h.codes⟩
  | redeem code redirectUri client =>
      have hcode := h.sameCode fun text htext => hfixed text (congrArg some htext)
      exact ⟨(InMemoryAuthority.alike_redeem hv ha hcode redirectUri client _ _ h.services).2, h.codes⟩
  | entitle grant =>
      exact ⟨(InMemoryAuthority.alike_grantScopes hv ha grant _ _ h.services).2, h.codes⟩
  | advance micros => exact ⟨(Twins.alike_advance micros _ _ h.services).2, h.codes⟩
  | submit s =>
      have hpresented : ∀ name, s.presented? = some name →
          SameCode first second stage.codes stage'.codes (name.text stage.codes) (name.text stage'.codes) :=
        fun name hname => h.sameCode fun text htext => hfixed text (hname.trans (congrArg some htext))
      have hkeeps := Deployment.keeps_handle hv ha hread (h.issuedInBoth hlegible) (h.cutText_eq hv) s
        hpresented
      exact ⟨hkeeps _ _ h.services, h.codes⟩

/-- A run keeps the stages of two runs twins. -/
theorem stageAfter (hv : TwinValues first second) (ha : 0 < d.authority.lifetime) (hread : IsReadable Legible)
    (hlegible : ∀ n, Legible (first codeBytes n) ∧ Legible (second codeBytes n))
    {steps : List (Step d.hosted Legible)} (h : TwinStages first second stage stage')
    (hfixed : ∀ step ∈ steps, ∀ text, step.presented? = some (.fixed text) → text = "" ∨
      text ∉ (d.stageAfter steps stage).codes ∧ text ∉ (d.stageAfter steps stage').codes) :
    TwinStages first second (d.stageAfter steps stage) (d.stageAfter steps stage') := by
  induction steps generalizing stage stage' with
  | nil => exact h
  | cons step rest ih =>
      -- What is not issued by the end has not been issued when the step is made.
      have hnow : ∀ text, step.presented? = some (.fixed text) →
          text = "" ∨ text ∉ stage.codes ∧ text ∉ stage'.codes := by
        intro text htext
        refine (hfixed step List.mem_cons_self text htext).imp_right fun ⟨hnot, hnot'⟩ => ⟨?_, ?_⟩
        · exact fun hmem => hnot (d.codes_subset_stageAfter (step :: rest) stage hmem)
        · exact fun hmem => hnot' (d.codes_subset_stageAfter (step :: rest) stage' hmem)
      exact ih (h.next hv ha hread hlegible hnow) fun later hlater =>
        hfixed later (List.mem_cons_of_mem step hlater)

end TwinStages

/-- The same steps write the same journal, whichever values are drawn: any two random sources will do whose
values agree in what the journal shows of them, from whatever numbers of values they start. -/
theorem Deployment.journal_tells_no_secrets (d : Deployment) {Legible : String → Prop}
    (hread : IsReadable Legible) (ha : 0 < d.authority.lifetime) {s : Service CodeStore}
    (hempty : s.state.entries = []) {random : Nat → Nat → String} {drawn : Nat}
    (hsecrets : SecretsAlike Legible s { s with random, drawn }) {steps : List (Step d.hosted Legible)}
    (hfixed : ∀ step ∈ steps, ∀ text, step.presented? = some (.fixed text) →
      text ∉ d.issuedIn steps s ∧ text ∉ d.issuedIn steps { s with random, drawn }) :
    (d.stageAfter steps ⟨s, []⟩).service.journal =
      (d.stageAfter steps ⟨{ s with random, drawn }, []⟩).service.journal := by
  have hstores : TwinStores s.upcoming (Service.upcoming { s with random, drawn }) [] [] s.state s.state :=
    ⟨rfl, by rw [hempty]; exact .nil⟩
  have hstart : TwinStages s.upcoming (Service.upcoming { s with random, drawn }) ⟨s, []⟩
      ⟨{ s with random, drawn }, []⟩ :=
    ⟨⟨rfl, rfl, hstores, 0, fun bytes i => by rw [Nat.zero_add]; exact ⟨rfl, rfl⟩⟩, .nil⟩
  have hend := hstart.stageAfter hsecrets.values ha hread
    (fun n => ⟨hsecrets.legible n, hsecrets.legible' n⟩) fun step hstep text htext => by
      obtain ⟨hnot, hnot'⟩ := hfixed step hstep text htext
      rcases d.not_issued hnot with hempty | hnot
      · exact .inl hempty
      · exact (d.not_issued hnot').imp_right fun hnot' => ⟨hnot, hnot'⟩
  exact hend.services.journal

theorem sameBeginning_countingSource (bytes i j : Nat) :
    SameBeginning (countingSource bytes i) (countingSource bytes j) := by
  have hlong : ∀ n, Log.cutLength < (countingSource bytes n).length := by
    intro n
    rw [countingSource, String.length_ofList, List.length_replicate, Log.cutLength]
    omega
  refine ⟨hlong i, hlong j, ?_⟩
  rw [countingSource, countingSource, String.toList_ofList, String.toList_ofList, List.take_replicate,
    List.take_replicate, Log.cutLength, Nat.min_eq_left (Nat.le_add_left 10 (i + 1)),
    Nat.min_eq_left (Nat.le_add_left 10 (j + 1))]

theorem secretsAlike_countingSource (drawn : Nat) :
    SecretsAlike IsPlainCode sampleStart { sampleStart with random := countingSource, drawn } where
  values := {
    distinct := fun _ _ h => Nat.add_left_cancel (countingSource_injective codeBytes h)
    distinct' := fun _ _ h => Nat.add_left_cancel (countingSource_injective codeBytes h)
    alike := fun bytes _ => sameBeginning_countingSource bytes _ _ }
  legible := fun _ => isPlainCode_countingSource codeBytes _
  legible' := fun _ => isPlainCode_countingSource codeBytes _

/-- A code is issued and redeemed; a foreign code and a request without parameters are refused. -/
def secretSteps : List (Step sampleDeployment.hosted IsPlainCode) :=
  [.issue (.text "x") (.list [.text "read"]) .null, .consume (.fixed "unknown"),
    .submit (.ofRequest (sampleHead "x")), .submit (sampleRedemption "x" 0)]

/-- The journal of these steps does not tell how many values were drawn before. -/
theorem sample_journal_tells_no_secrets :
    (sampleDeployment.stageAfter secretSteps ⟨sampleStart, []⟩).service.journal =
      (sampleDeployment.stageAfter secretSteps ⟨{ sampleStart with drawn := 7 }, []⟩).service.journal := by
  refine sampleDeployment.journal_tells_no_secrets isReadable_isPlainCode (by decide) rfl
    (secretsAlike_countingSource 7) ?_
  intro step hstep text htext
  have hunknown : text = "unknown" := by
    simp only [secretSteps, List.mem_cons, List.not_mem_nil, or_false] at hstep
    rcases hstep with rfl | rfl | rfl | rfl
    · cases htext
    · cases htext
      rfl
    · have hnone : (.ofRequest (sampleHead "x") : Submission sampleDeployment.hosted IsPlainCode).presented? =
          none := by with_unfolding_all rfl
      cases hnone.symm.trans htext
    · cases (presented?_sampleRedemption _ _).symm.trans htext
  rw [hunknown]
  exact ⟨by decide +kernel, by decide +kernel⟩

end OAuthGrant

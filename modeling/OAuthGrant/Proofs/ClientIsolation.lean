import OAuthGrant.Proofs.LinkedStages
import OAuthGrant.Proofs.PairedReplies
import OAuthGrant.Proofs.PlainForms

/-!
# Clients do not notice each other

Two runs are compared, where the second leaves out requests that one client has made in the first. Another
client is answered the same in both, apart from the values of its tokens. There is one exception: a client
that presents a code which was issued to somebody else is told that the code is not its own while it is
stored, and that it is invalid once it has been used. The code of another client is refused either way.
-/

namespace OAuthGrant
open CodeStore (codeBytes nextCode)
open Http (Response)
open InMemoryAuthority (decision tokenBytes verdict)
open Text (isWhole)

def rejection (description : String) : Response :=
  noStoreResponse 400
    [("error", .text ErrorCode.invalidGrant.name), ("error_description", .text description)]

theorem Endpoint.answer_invalidGrant {description : String} (h : isWhole description = true) :
    answer (.error (.refused (.byAuthority .invalidGrant description))) = .ok (rejection description) :=
  answer_byAuthority_of_isWhole .invalidGrant h

namespace Linked

variable {Legible : String → Prop} {random : Nat → Nat → String} {owners : List Value}
  {gone : Nat → Prop} {full rest : Stage}
  {presented : Option CodeName} {client : ClientIdentity} {grant grant' : GrantRequest}

/-- The grants that a request asks for in two runs, where it presents a code, for a client. -/
abbrev Grants (presented : Option CodeName) (full rest : Stage) :
    ClientIdentity → GrantRequest → GrantRequest → Prop :=
  PairedGrants fun c c' =>
    ∃ name, presented = some name ∧ c = name.text full.codes ∧ c' = name.text rest.codes

/-- What verifying a grant leaves behind is linked again. -/
theorem verified (h : Linked Legible random owners gone full rest) (hread : IsReadable Legible)
    (hfixed : ∀ t, presented = some (.fixed t) → ∀ i, random codeBytes i ≠ t)
    (hgrants : Grants presented full rest client grant grant') {drawn drawn' : Nat}
    {journal journal' : Log.Journal} (hdrawn : full.service.drawn ≤ drawn)
    (hdrawn' : rest.service.drawn ≤ drawn') :
    Linked Legible random owners gone
      ⟨{ full.service with
          state := InMemoryAuthority.storeAfter full.service.state grant, drawn, journal }, full.codes⟩
      ⟨{ rest.service with
          state := InMemoryAuthority.storeAfter rest.service.state grant', drawn := drawn'
          journal := journal' }, rest.codes⟩ := by
  cases hgrants with
  | credentials scopes => exact h.idle hdrawn hdrawn' h.now
  | code hname redirectUri =>
      obtain ⟨name, hpresented, rfl, rfl⟩ := hname
      unfold InMemoryAuthority.storeAfter
      dsimp only
      split
      · exact h.erase hread (fun t ht => hfixed t (ht ▸ hpresented)) hdrawn hdrawn'
      · exact h.idle hdrawn hdrawn' h.now

/-- Both runs verify a grant. -/
theorem verify (h : Linked Legible random owners gone full rest) (hread : IsReadable Legible)
    (hfixed : ∀ t, presented = some (.fixed t) → ∀ i, random codeBytes i ≠ t)
    (hgrants : Grants presented full rest client grant grant') (a : InMemoryAuthority) :
    Linked Legible random owners gone ⟨((a.verify grant).perform full.service).2, full.codes⟩
      ⟨((a.verify grant').perform rest.service).2, rest.codes⟩ := by
  obtain ⟨drawn, journal, hdrawn, hverify⟩ := a.perform_verify grant full.service
  obtain ⟨drawn', journal', hdrawn', hverify'⟩ := a.perform_verify grant' rest.service
  rw [hverify, hverify']
  exact h.verified hread hfixed hgrants hdrawn hdrawn'

/-- Verifying a grant in the first run only leaves the stages linked, if the code that it presents may be
used up. -/
theorem verified_first (h : Linked Legible random owners gone full rest) (hread : IsReadable Legible)
    (hfixed : ∀ t, presented = some (.fixed t) → ∀ i, random codeBytes i ≠ t)
    (hgone : ∀ k, presented = some (.issued k) → gone k)
    (hgrants : Grants presented full rest client grant grant') {drawn : Nat} {journal : Log.Journal}
    (hdrawn : full.service.drawn ≤ drawn) :
    Linked Legible random owners gone
      ⟨{ full.service with
          state := InMemoryAuthority.storeAfter full.service.state grant, drawn, journal }, full.codes⟩
      rest := by
  cases hgrants with
  | credentials scopes => exact h.idle hdrawn (Nat.le_refl _) h.now
  | code hname redirectUri =>
      obtain ⟨name, hpresented, rfl, rfl⟩ := hname
      unfold InMemoryAuthority.storeAfter
      dsimp only
      split
      · exact h.erase_first hread (fun t ht => hfixed t (ht ▸ hpresented))
          (fun k hk => hgone k (hk ▸ hpresented)) hdrawn
      · exact h.idle hdrawn (Nat.le_refl _) h.now

theorem live_records (h : Linked Legible random owners gone full rest) {name : CodeName}
    (hfixed : ∀ t, name = .fixed t → ∀ i, random codeBytes i ≠ t) :
    LinkedRecord (∃ k, name = .issued k ∧ gone k)
      (full.service.state.live? full.service.now (name.text full.codes))
      (rest.service.state.live? rest.service.now (name.text rest.codes)) := by
  cases name with
  | fixed t =>
      have hfirst : t ∉ full.service.state.codes := by
        intro hmem
        obtain ⟨n, -, hn⟩ := h.first.stored t hmem
        exact hfixed t rfl n (h.source ▸ hn)
      have hsecond : t ∉ rest.service.state.codes := by
        intro hmem
        obtain ⟨n, -, hn⟩ := h.second.stored t hmem
        exact hfixed t rfl n (h.source' ▸ hn)
      rw [CodeName.text, CodeName.text, CodeStore.live?_eq_none hfirst, CodeStore.live?_eq_none hsecond]
      exact .neither
  | issued k =>
      rw [CodeStore.live?, CodeStore.live?, h.now]
      exact ((h.records k).filter_isExpired full.service.now).mono fun used => ⟨k, rfl, used⟩

/-- The authority decides the same in both runs, unless the code of another client is presented that has
been used up in the first run only. -/
theorem decisions (h : Linked Legible random owners gone full rest)
    (hfixed : ∀ t, presented = some (.fixed t) → ∀ i, random codeBytes i ≠ t)
    (hgrants : Grants presented full rest client grant grant')
    (hothers : ∀ k, gone k → owners[k]? ≠ some (.text client.clientId)) :
    InMemoryAuthority.decision rest.service.state rest.service.now grant' =
        InMemoryAuthority.decision full.service.state full.service.now grant ∨
      ∃ k owner, presented = some (.issued k) ∧ gone k ∧ owners[k]? = some (.text owner) ∧
        owner ≠ client.clientId ∧
        InMemoryAuthority.decision full.service.state full.service.now grant =
          .error (.refused (.byAuthority .invalidGrant "Invalid authorization code")) ∧
        InMemoryAuthority.decision rest.service.state rest.service.now grant' =
          .error (.refused (.byAuthority .invalidGrant
            "Authorization code was not issued to this client")) := by
  cases hgrants with
  | credentials scopes => exact .inl rfl
  | code hname redirectUri =>
      obtain ⟨name, hpresented, rfl, rfl⟩ := hname
      unfold InMemoryAuthority.decision
      dsimp only
      cases client.grants.permits .authorizationCode with
      | false => exact .inl rfl
      | true =>
          rw [if_pos rfl, if_pos rfl]
          have hlive := h.live_records fun t ht => hfixed t (ht ▸ hpresented)
          -- Only a record that the second run alone still has tells the runs apart.
          generalize full.service.state.live? full.service.now (name.text full.codes) = found at hlive ⊢
          generalize hrecord : rest.service.state.live? rest.service.now (name.text rest.codes) = found'
            at hlive ⊢
          cases hlive with
          | neither => exact .inl rfl
          | both record code => exact .inl (InMemoryAuthority.verdict_congr _ _ code _ _ _)
          | second used record =>
              obtain ⟨k, rfl, hgone⟩ := used
              have howner := h.second.owner k record (CodeStore.live?_eq_some_iff.mp hrecord).1
              have hne : record.clientId ≠ client.clientId := by
                intro hclient
                exact hothers k hgone (hclient ▸ howner)
              refine .inr ⟨k, _, hpresented, hgone, howner, hne, rfl, ?_⟩
              rw [verdict, if_pos hne]

end Linked

/-- The two answers to a client that presents a code which was issued to somebody else and which only the
first run has used up. -/
def ToldApart (reply reply' : Except Failure Response) : Prop :=
  reply = .ok (rejection "Invalid authorization code") ∧
    reply' = .ok (rejection "Authorization code was not issued to this client")

namespace Linked

variable {d : Deployment} {Legible : String → Prop} {random : Nat → Nat → String} {owners : List Value}
  {gone : Nat → Prop} {full rest : Stage} {s : Submission d.hosted Legible}

theorem demands (h : Linked Legible random owners gone full rest) (hread : IsReadable Legible)
    (s : Submission d.hosted Legible) :
    SameOutcome (fun asked asked' => asked.1 = asked'.1 ∧ d.find s.head.bodiless = .ok (some asked.1) ∧
        Grants s.presented? full rest asked.1 asked.2 asked'.2)
      (d.asks s full.codes) (d.asks s rest.codes) :=
  d.sameOutcome_asks hread h.codes s

/-- A request is answered the same in both runs, unless it presents the code of another client that has
been used up in the first run only. -/
theorem replies (h : Linked Legible random owners gone full rest) (hread : IsReadable Legible)
    (hfixed : ∀ t, s.presented? = some (.fixed t) → ∀ i, random codeBytes i ≠ t)
    {client : ClientIdentity} (hsent : d.sentBy client s = true)
    (hothers : ∀ k, gone k → owners[k]? ≠ some (.text client.clientId)) :
    SameReply (d.handled s full).1 (d.handled s rest).1 ∨
      (∃ k owner, s.presented? = some (.issued k) ∧ gone k ∧ owners[k]? = some (.text owner) ∧
        owner ≠ client.clientId) ∧ ToldApart (d.handled s full).1 (d.handled s rest).1 := by
  obtain ⟨_, _, _, hfull⟩ := d.handled_eq s (IssuedInBoth.left h.codes)
  obtain ⟨_, _, _, hrest⟩ := d.handled_eq s (IssuedInBoth.right h.codes)
  rw [hfull, hrest]
  have hasks := h.demands hread s
  generalize d.asks s full.codes = asked at hasks ⊢
  generalize d.asks s rest.codes = asked' at hasks ⊢
  cases hasks with
  | error f => exact .inl (.same _)
  | @ok asked asked' hasked =>
      obtain ⟨c, grant⟩ := asked
      obtain ⟨c', grant'⟩ := asked'
      obtain ⟨rfl, hfind, hgrants⟩ := hasked
      have hclient : c = client := by
        have := hfind.symm.trans (Deployment.find_of_sentBy hsent)
        cases this
        rfl
      subst hclient
      dsimp only [Deployment.outcome]
      -- The same decision leads to the same error, or to tokens that differ in their values.
      rcases h.decisions hfixed hgrants hothers with hsame | ⟨k, owner, hk, hgone, howner, hne, hd, hd'⟩
      · rw [hsame]
        cases decision full.service.state full.service.now grant with
        | error f => exact .inl (.same _)
        | ok scopes =>
            rw [h.now]
            exact .inl (d.authority.sameReply_tokenOf _ (h.first.source.token_ne _)
              (h.second.source.token_ne _) (h.first.source.token_whole _) (h.second.source.token_whole _)
              scopes c)
      · rw [hd, hd']
        refine .inr ⟨⟨k, owner, hk, hgone, howner, hne⟩, ?_, ?_⟩
        · exact Endpoint.answer_invalidGrant (by decide)
        · exact Endpoint.answer_invalidGrant (by decide)

/-- A step that is made in both runs keeps them linked. -/
theorem step (h : Linked Legible random owners gone full rest) (hread : IsReadable Legible)
    {step : Step d.hosted Legible}
    (hfixed : ∀ t, step.presented? = some (.fixed t) → ∀ i, random codeBytes i ≠ t)
    (howner : ∀ clientId, step.issuedTo? = some clientId → owners[full.codes.length]? = some clientId) :
    Linked Legible random owners gone (d.next step full) (d.next step rest) := by
  cases step with
  | issue clientId scopes redirectUri =>
      obtain ⟨journal, hissue⟩ := CodeStore.perform_issue clientId scopes redirectUri full.service
      obtain ⟨journal', hissue'⟩ := CodeStore.perform_issue clientId scopes redirectUri rest.service
      rw [CodeRecord.new_congr h.lifetime h.now (nextCode full.service)] at hissue'
      rw [Deployment.next, Deployment.next, hissue, hissue']
      cases hnew : CodeRecord.new full.service.state.lifetime full.service.now (nextCode full.service)
        clientId scopes redirectUri with
      | error f => exact (h.prune (Nat.le_succ _) (Nat.le_succ _) journal journal').concat_empty
      | ok r =>
          have hmade := CodeRecord.new_eq_ok hnew
          have howns : owners[full.codes.length]? = some (.text r.clientId) :=
            hmade.clientId ▸ howner clientId rfl
          exact (h.prune (Nat.le_refl _) (Nat.le_refl _) journal journal').put hread hmade.code howns
  | consume code =>
      obtain ⟨journal, hconsume⟩ := CodeStore.perform_consume (code.text full.codes) full.service
      obtain ⟨journal', hconsume'⟩ := CodeStore.perform_consume (code.text rest.codes) rest.service
      rw [Deployment.next, Deployment.next, hconsume, hconsume']
      exact h.erase hread (fun t ht => hfixed t (congrArg some ht)) (Nat.le_refl _) (Nat.le_refl _)
  | cleanup =>
      obtain ⟨journal, hcleanup⟩ := CodeStore.perform_cleanup full.service
      obtain ⟨journal', hcleanup'⟩ := CodeStore.perform_cleanup rest.service
      rw [Deployment.next, Deployment.next, hcleanup, hcleanup']
      exact h.prune (Nat.le_refl _) (Nat.le_refl _) journal journal'
  | redeem code redirectUri client =>
      exact h.verify hread hfixed (.code ⟨code, rfl, rfl, rfl⟩ redirectUri) d.authority
  | entitle grant => exact h.verify hread hfixed (.credentials grant.scopes) d.authority
  | advance micros =>
      rw [Deployment.next, Deployment.next, Action.perform_advance, Action.perform_advance, h.now]
      split
      · exact h.idle (Nat.le_refl _) (Nat.le_refl _) rfl
      · exact h
  | submit s =>
      obtain ⟨drawn, journal, hdrawn, hhandled⟩ := d.handled_eq s (IssuedInBoth.left h.codes)
      obtain ⟨drawn', journal', hdrawn', hhandled'⟩ :=
        d.handled_eq s (IssuedInBoth.right h.codes)
      rw [Deployment.next, Deployment.next, hhandled, hhandled']
      have hasks := h.demands hread s
      generalize d.asks s full.codes = asked at hasks ⊢
      generalize d.asks s rest.codes = asked' at hasks ⊢
      cases hasks with
      | error f => exact h.idle hdrawn hdrawn' h.now
      | ok hasked => exact h.verified hread hfixed hasked.2.2 hdrawn hdrawn'

/-- A request that is made in the first run only keeps them linked, if the code that it presents may be
used up. -/
theorem leave (h : Linked Legible random owners gone full rest) (hread : IsReadable Legible)
    (hfixed : ∀ t, s.presented? = some (.fixed t) → ∀ i, random codeBytes i ≠ t)
    (hgone : ∀ k, s.presented? = some (.issued k) → gone k) :
    Linked Legible random owners gone (d.next (.submit s) full) rest := by
  obtain ⟨drawn, journal, hdrawn, hhandled⟩ := d.handled_eq s (IssuedInBoth.left h.codes)
  rw [Deployment.next, hhandled]
  have hasks := h.demands hread s
  generalize d.asks s full.codes = asked at hasks ⊢
  generalize d.asks s rest.codes = asked' at hasks
  cases hasks with
  | error f => exact h.idle hdrawn (Nat.le_refl _) h.now
  | ok hasked => exact h.verified_first hread hfixed hgone hasked.2.2 hdrawn

end Linked

/-- The steps of a run, those that remain when some of its requests are left out, and these requests. -/
inductive Leaves {hosted : Bool} {Legible : String → Prop} :
    List (Step hosted Legible) → List (Step hosted Legible) → List (Submission hosted Legible) → Prop
  | nil : Leaves [] [] []
  | keep (step : Step hosted Legible) {steps rest : List (Step hosted Legible)}
      {out : List (Submission hosted Legible)} (leaves : Leaves steps rest out) :
      Leaves (step :: steps) (step :: rest) out
  | leave (s : Submission hosted Legible) {steps rest : List (Step hosted Legible)}
      {out : List (Submission hosted Legible)} (leaves : Leaves steps rest out) :
      Leaves (.submit s :: steps) rest (s :: out)

/-- That a client presents a code which was issued to somebody else and which one of the requests that are
left out presents as well. -/
def PresentsUsed {hosted : Bool} {Legible : String → Prop} (owners : List Value)
    (out : List (Submission hosted Legible)) (client : ClientIdentity) (s : Submission hosted Legible) :
    Prop :=
  ∃ k owner, s.presented? = some (.issued k) ∧ (∃ o ∈ out, o.presented? = some (.issued k)) ∧
    owners[k]? = some (.text owner) ∧ owner ≠ client.clientId

/-- The two replies to a request: alike, unless it presents a code that a request which was left out has
used up. -/
def IsolatedReplies {d : Deployment} {Legible : String → Prop} (owners : List Value)
    (out : List (Submission d.hosted Legible)) (client : ClientIdentity)
    (reply reply' : Submission d.hosted Legible × Except Failure Response) : Prop :=
  reply.1 = reply'.1 ∧
    (SameReply reply.2 reply'.2 ∨ PresentsUsed owners out client reply.1 ∧ ToldApart reply.2 reply'.2)

namespace Linked

variable {d : Deployment} {Legible : String → Prop} {random : Nat → Nat → String} {owners : List Value}
  {full rest : Stage} {client : ClientIdentity} {out : List (Submission d.hosted Legible)}

abbrev presentedBy (out : List (Submission d.hosted Legible)) (k : Nat) : Prop :=
  ∃ o ∈ out, o.presented? = some (.issued k)

theorem replyTo? (h : Linked Legible random owners (presentedBy out) full rest) (hread : IsReadable Legible)
    {step : Step d.hosted Legible}
    (hfixed : ∀ t, step.presented? = some (.fixed t) → ∀ i, random codeBytes i ≠ t)
    (hothers : ∀ k, presentedBy out k → owners[k]? ≠ some (.text client.clientId)) :
    List.Forall₂ (IsolatedReplies owners out client)
      (d.replyTo? client step full).toList (d.replyTo? client step rest).toList := by
  cases step with
  | submit s =>
      unfold Deployment.replyTo?
      dsimp only
      cases hsent : d.sentBy client s with
      | false => exact .nil
      | true =>
          rw [if_pos rfl, if_pos rfl]
          refine .cons ⟨rfl, ?_⟩ .nil
          exact h.replies hread hfixed hsent hothers
  | _ => exact .nil

theorem owner_of_issued {steps : List (Step d.hosted Legible)} {step : Step d.hosted Legible}
    (howners : owners.drop full.codes.length = (step :: steps).filterMap Step.issuedTo?) :
    (∀ clientId, step.issuedTo? = some clientId → owners[full.codes.length]? = some clientId) ∧
      owners.drop (d.next step full).codes.length = steps.filterMap Step.issuedTo? := by
  cases step with
  | issue clientId scopes redirectUri =>
      constructor
      · intro owner hto
        cases hto
        rw [← List.head?_drop, howners]
        rfl
      · rw [Deployment.next, List.length_append, List.length_singleton, ← List.tail_drop, howners]
        rfl
  | _ =>
      refine ⟨?_, howners⟩
      intro owner hto
      cases hto

/-- All requests of a client are replied to alike, where requests of others are left out. -/
theorem repliesTo {all : List (Submission d.hosted Legible)} (hread : IsReadable Legible)
    (hall : ∀ o ∈ all, d.sentBy client o = false)
    (hothers : ∀ k, presentedBy all k → owners[k]? ≠ some (.text client.clientId))
    {steps steps' : List (Step d.hosted Legible)} (hleaves : Leaves steps steps' out)
    (hout : ∀ o ∈ out, o ∈ all)
    (hfixed : ∀ step ∈ steps, ∀ t, step.presented? = some (.fixed t) → ∀ i, random codeBytes i ≠ t)
    (h : Linked Legible random owners (presentedBy all) full rest)
    (howners : owners.drop full.codes.length = steps.filterMap Step.issuedTo?) :
    List.Forall₂ (IsolatedReplies owners all client)
      (d.repliesTo client steps full) (d.repliesTo client steps' rest) := by
  -- The link is to all requests that are left out: a code that one of them presents stays used up.
  induction hleaves generalizing full rest with
  | nil => exact .nil
  | keep step leaves ih =>
      have hstep := hfixed step List.mem_cons_self
      obtain ⟨howner, hrest⟩ := owner_of_issued howners
      rw [Deployment.repliesTo, Deployment.repliesTo]
      refine List.rel_append (h.replyTo? hread hstep hothers) (ih hout ?_ (h.step hread hstep howner) hrest)
      exact fun later hlater => hfixed later (List.mem_cons_of_mem _ hlater)
  | leave s leaves ih =>
      have hs : s ∈ all := hout s List.mem_cons_self
      have hsilent : d.replyTo? client (.submit s) full = none := by
        rw [Deployment.replyTo?, hall s hs]
        rfl
      have hleft := h.leave hread (hfixed (.submit s) List.mem_cons_self) fun k hk => ⟨s, hs, hk⟩
      rw [Deployment.repliesTo, hsilent]
      refine ih (fun o ho => hout o (List.mem_cons_of_mem _ ho)) ?_ hleft howners
      exact fun later hlater => hfixed later (List.mem_cons_of_mem _ hlater)

end Linked

namespace Deployment

variable (d : Deployment) {Legible : String → Prop}

theorem sentBy_unique {d : Deployment} {x y : ClientIdentity} (hxy : x ≠ y) {s : Submission d.hosted Legible}
    (h : d.sentBy x s = true) : d.sentBy y s = false := by
  rw [sentBy, find_of_sentBy h]
  exact beq_false_of_ne hxy

/-- Requests of one client may be left out of a run that present no code which is issued to another client.
The other client is answered the same, apart from the values of its tokens, unless it presents a code that
is not its own either and that has been presented in a request which was left out. Such a request is
refused in both runs, for different reasons. -/
theorem replies_isolated (hread : IsReadable Legible) {start : Service CodeStore}
    (hsource : SoundSource Legible start.random) (hempty : start.state.entries = [])
    {x y : ClientIdentity} (hxy : x ≠ y) {steps steps' : List (Step d.hosted Legible)}
    {out : List (Submission d.hosted Legible)} (hleaves : Leaves steps steps' out)
    (hfixed : ∀ step ∈ steps, ∀ t, step.presented? = some (.fixed t) →
      ∀ i, start.random codeBytes i ≠ t)
    (hsent : ∀ o ∈ out, d.sentBy x o = true)
    (hothers : ∀ o ∈ out, ∀ k, o.presented? = some (.issued k) →
      (steps.filterMap Step.issuedTo?)[k]? ≠ some (.text y.clientId)) :
    List.Forall₂ (IsolatedReplies (steps.filterMap Step.issuedTo?) out y)
      (d.repliesTo y steps ⟨start, []⟩) (d.repliesTo y steps' ⟨start, []⟩) := by
  refine Linked.repliesTo hread (fun o ho => sentBy_unique hxy (hsent o ho)) ?_ hleaves (fun o ho => ho)
    hfixed (Linked.start hsource hempty) rfl
  rintro k ⟨o, ho, hk⟩
  exact hothers o ho k hk

end Deployment

theorem soundSource_countingSource : SoundSource IsPlainCode countingSource where
  distinct := fun _ _ => countingSource_injective codeBytes
  legible := isPlainCode_countingSource codeBytes
  token_ne := fun i => (isPlainCode_countingSource tokenBytes i).1
  token_whole := fun i => (isPlainCode_countingSource tokenBytes i).isWhole

/-- Both clients present the code of the first one, and the second client presents its own code. -/
def sampleSteps : List (Step sampleDeployment.hosted IsPlainCode) :=
  [.consume (.fixed "unknown"), .issue (.text "x") (.list [.text "read"]) .null,
    .issue (.text "y") (.list [.text "read"]) .null, .submit (sampleRedemption "x" 0),
    .submit (sampleRedemption "y" 0), .submit (sampleRedemption "y" 1)]

/-- The first client presents nothing. -/
def sampleRest : List (Step sampleDeployment.hosted IsPlainCode) :=
  [.consume (.fixed "unknown"), .issue (.text "x") (.list [.text "read"]) .null,
    .issue (.text "y") (.list [.text "read"]) .null, .submit (sampleRedemption "y" 0),
    .submit (sampleRedemption "y" 1)]

theorem leaves_sampleSteps : Leaves sampleSteps sampleRest [sampleRedemption "x" 0] :=
  .keep _ (.keep _ (.keep _ (.leave _ (.keep _ (.keep _ .nil)))))

theorem fixed_sampleSteps : ∀ step ∈ sampleSteps, ∀ t, step.presented? = some (.fixed t) →
    ∀ i, countingSource codeBytes i ≠ t := by
  intro step hstep t ht i heq
  have hunknown : step = .consume (.fixed "unknown") := by
    simp only [sampleSteps, List.mem_cons, List.not_mem_nil, or_false] at hstep
    rcases hstep with rfl | rfl | rfl | rfl | rfl | rfl
    · rfl
    · cases ht
    · cases ht
    all_goals cases (presented?_sampleRedemption _ _).symm.trans ht
  subst hunknown
  cases ht
  have hlength := congrArg (fun s => s.toList.length) heq
  simp [countingSource] at hlength

theorem sentBy_sampleRedemption :
    ∀ o ∈ [sampleRedemption "x" 0], sampleDeployment.sentBy (sampleClient "x") o = true := by
  intro o ho
  rw [List.mem_singleton.mp ho]
  with_unfolding_all rfl

/-- The request that is left out presents the code of the client that makes it. -/
theorem owner_sampleRedemption : ∀ o ∈ [sampleRedemption "x" 0], ∀ k, o.presented? = some (.issued k) →
    (sampleSteps.filterMap Step.issuedTo?)[k]? ≠ some (.text (sampleClient "y").clientId) := by
  intro o ho k hk howner
  rw [List.mem_singleton.mp ho] at hk
  cases (presented?_sampleRedemption "x" 0).symm.trans hk
  have hx : (sampleSteps.filterMap Step.issuedTo?)[0]? = some (.text "x") := rfl
  have hclients := Value.text.inj (Option.some.inj (hx.symm.trans howner))
  exact absurd hclients (by decide)

/-- The replies to the second client are isolated from the request of the first one. -/
theorem sample_replies_isolated :
    List.Forall₂
      (IsolatedReplies (sampleSteps.filterMap Step.issuedTo?) [sampleRedemption "x" 0] (sampleClient "y"))
      (sampleDeployment.repliesTo (sampleClient "y") sampleSteps ⟨sampleStart, []⟩)
      (sampleDeployment.repliesTo (sampleClient "y") sampleRest ⟨sampleStart, []⟩) :=
  sampleDeployment.replies_isolated isReadable_isPlainCode soundSource_countingSource rfl (by decide)
    leaves_sampleSteps fixed_sampleSteps sentBy_sampleRedemption owner_sampleRedemption

/-- The replies to the second client are not the same with and without the request of the first one. -/
theorem sample_replies_differ :
    Leaves sampleSteps sampleRest [sampleRedemption "x" 0] ∧
      sampleDeployment.sentBy (sampleClient "x") (sampleRedemption "x" 0) = true ∧
      (sampleRedemption "x" 0).presented? = some (.issued 0) ∧
      (sampleSteps.filterMap Step.issuedTo?)[0]? = some (.text "x") ∧
      ¬ List.Forall₂ (fun reply reply' => SameReply reply.2 reply'.2)
        (sampleDeployment.repliesTo (sampleClient "y") sampleSteps ⟨sampleStart, []⟩)
        (sampleDeployment.repliesTo (sampleClient "y") sampleRest ⟨sampleStart, []⟩) := by
  refine ⟨leaves_sampleSteps, sentBy_sampleRedemption _ List.mem_cons_self,
    presented?_sampleRedemption "x" 0, rfl, ?_⟩
  have hfull : (sampleDeployment.repliesTo (sampleClient "y") sampleSteps ⟨sampleStart, []⟩).head?.bind
      (fun reply => reply.2.toOption) = some (rejection "Invalid authorization code") := by decide +kernel
  have hrest : (sampleDeployment.repliesTo (sampleClient "y") sampleRest ⟨sampleStart, []⟩).head?.bind
      (fun reply => reply.2.toOption) =
        some (rejection "Authorization code was not issued to this client") := by decide +kernel
  intro hsame
  generalize sampleDeployment.repliesTo (sampleClient "y") sampleSteps ⟨sampleStart, []⟩ = replies
    at hfull hsame
  generalize sampleDeployment.repliesTo (sampleClient "y") sampleRest ⟨sampleStart, []⟩ = replies'
    at hrest hsame
  cases hsame with
  | nil => cases hfull
  | @cons reply reply' _ _ hreply _ =>
      have hok : ∀ {outcome : Except Failure Response} {r : Response}, outcome.toOption = some r →
          outcome = .ok r := by
        rintro (f | r) _ ⟨⟩
        rfl
      have hfirst : reply.2 = .ok _ := hok hfull
      have hsecond : reply'.2 = .ok _ := hok hrest
      rw [hfirst, hsecond] at hreply
      have hequal := hreply.eq_of_status (by decide)
      exact absurd (congrArg Response.body hequal) (by decide +kernel)

end OAuthGrant

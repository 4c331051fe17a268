import OAuthGrant.Proofs.NamedCodes
import OAuthGrant.Proofs.PairedActions
import OAuthGrant.Proofs.SanitizedFields

/-!
# Services that differ only in their secrets

Two services draw different values. `Twins` says that the values agree as far as the journal shows them,
that the stores hold the same records under different codes, and that everything else is the same, the
journals included. Every operation of the store keeps two services twins, because it looks at a code only
to find it again.
-/

namespace OAuthGrant
open CodeStore (codeBytes)
open Log (Component Journal Message)

/-- Two values that are longer than what the journal shows of them and begin the same. -/
structure SameBeginning (c c' : String) : Prop where
  long : Log.cutLength < c.length
  long' : Log.cutLength < c'.length
  take : c.toList.take Log.cutLength = c'.toList.take Log.cutLength

namespace SameBeginning

variable {c c' : String}

theorem cutText_eq (h : SameBeginning c c') : Log.cutText c = Log.cutText c' := by
  rw [Log.cutText, Log.cutText, if_pos h.long, if_pos h.long', h.take]

theorem ne_empty (h : SameBeginning c c') : c ≠ "" ∧ c' ≠ "" := by
  constructor
  · rintro rfl
    exact absurd h.long (by decide)
  · rintro rfl
    exact absurd h.long' (by decide)

end SameBeginning

/-- The values that a service has still to draw. -/
def Service.upcoming {σ : Type} (s : Service σ) (bytes n : Nat) : String := s.random bytes (s.drawn + 1 + n)

/-- The values that two services draw, in order: no code comes twice, and the journal does not tell values
that are drawn at the same time apart. -/
structure TwinValues (first second : Nat → Nat → String) : Prop where
  distinct : ∀ i j, first codeBytes i = first codeBytes j → i = j
  distinct' : ∀ i j, second codeBytes i = second codeBytes j → i = j
  alike : ∀ bytes n, SameBeginning (first bytes n) (second bytes n)

/-- Codes that are used in the same place of two runs: drawn at the same time, or the same text, which has
been issued in neither run. -/
inductive SameCode (first second : Nat → Nat → String) (issued issued' : List String) :
    String → String → Prop
  | drawn (n : Nat) : SameCode first second issued issued' (first codeBytes n) (second codeBytes n)
  | fixed (text : String) (foreign : text = "" ∨ text ∉ issued ∧ text ∉ issued') :
      SameCode first second issued issued' text text

/-- Entries of two stores that have been made by the same issue. -/
structure TwinEntry (first second : Nat → Nat → String) (issued issued' : List String)
    (e e' : String × CodeRecord) : Prop where
  drawn : ∃ n, e.1 = first codeBytes n ∧ e'.1 = second codeBytes n
  mem : e.1 ∈ issued
  mem' : e'.1 ∈ issued'
  record : ∃ c, e'.2 = { e.2 with code := c }

/-- Stores with the same records under different codes. -/
structure TwinStores (first second : Nat → Nat → String) (issued issued' : List String)
    (store store' : CodeStore) : Prop where
  lifetime : store.lifetime = store'.lifetime
  entries : List.Forall₂ (TwinEntry first second issued issued') store.entries store'.entries

/-- Services that differ only in the codes of their stores and in the values that they draw. -/
structure Twins (first second : Nat → Nat → String) (issued issued' : List String)
    (s t : Service CodeStore) : Prop where
  now : s.now = t.now
  journal : s.journal = t.journal
  stores : TwinStores first second issued issued' s.state t.state
  upcoming : ∃ n, ∀ bytes i,
    s.upcoming bytes i = first bytes (n + i) ∧ t.upcoming bytes i = second bytes (n + i)

section Codes

variable {first second : Nat → Nat → String} {issued issued' : List String} {c c' : String}

/-- The journal does not tell codes apart that are used in the same place. -/
theorem SameCode.cutText_eq (hv : TwinValues first second) (h : SameCode first second issued issued' c c') :
    Log.cutText c = Log.cutText c' := by
  cases h with
  | drawn n => exact (hv.alike codeBytes n).cutText_eq
  | fixed text foreign => rfl

/-- Codes that are used in the same place are found in the same places. -/
theorem TwinEntry.code_eq_iff (hv : TwinValues first second) {e e' : String × CodeRecord}
    (he : TwinEntry first second issued issued' e e') (hc : SameCode first second issued issued' c c') :
    e.1 = c ↔ e'.1 = c' := by
  obtain ⟨n, hn, hn'⟩ := he.drawn
  cases hc with
  | drawn m =>
      rw [hn, hn']
      constructor
      · intro h
        rw [hv.distinct n m h]
      · intro h
        rw [hv.distinct' n m h]
  | fixed _ foreign =>
      rcases foreign with rfl | ⟨hnot, hnot'⟩
      · have hne := (hv.alike codeBytes n).ne_empty
        rw [hn, hn', iff_false_left hne.1]
        exact hne.2
      · have hne : e.1 ≠ c := by
          rintro rfl
          exact hnot he.mem
        rw [iff_false_left hne]
        rintro rfl
        exact hnot' he.mem'

end Codes

namespace TwinStores

variable {first second : Nat → Nat → String} {issued issued' : List String} {store store' : CodeStore}
  {c c' : String}

theorem mono {more more' : List String} (h : TwinStores first second issued issued' store store')
    (hsub : issued ⊆ more) (hsub' : issued' ⊆ more') : TwinStores first second more more' store store' where
  lifetime := h.lifetime
  entries := h.entries.imp fun _ _ he => ⟨he.drawn, hsub he.mem, hsub' he.mem', he.record⟩

theorem isExpired_eq {e e' : String × CodeRecord} (he : TwinEntry first second issued issued' e e')
    (now : Int) : e.2.isExpired now = e'.2.isExpired now := by
  obtain ⟨d, hd⟩ := he.record
  rw [hd]
  rfl

theorem filter_entries (h : TwinStores first second issued issued' store store')
    {p q : String × CodeRecord → Bool}
    (hpq : ∀ e e', TwinEntry first second issued issued' e e' → p e = q e') :
    List.Forall₂ (TwinEntry first second issued issued') (store.entries.filter p)
      (store'.entries.filter q) :=
  List.rel_filter (fun e e' he => Bool.eq_iff_iff.mp (hpq e e' he)) h.entries

theorem prune (h : TwinStores first second issued issued' store store') (now : Int) :
    TwinStores first second issued issued' (store.prune now) (store'.prune now) where
  lifetime := h.lifetime
  entries := h.filter_entries fun e e' he => by rw [isExpired_eq he]

theorem erase (hv : TwinValues first second) (h : TwinStores first second issued issued' store store')
    (hc : SameCode first second issued issued' c c') :
    TwinStores first second issued issued' (store.erase c) (store'.erase c') where
  lifetime := h.lifetime
  entries := h.filter_entries fun e e' he => by
    rw [Bool.eq_iff_iff, bne_iff_ne, bne_iff_ne, not_iff_not]
    exact he.code_eq_iff hv hc

/-- The records that are found under codes which are used in the same place. -/
theorem find? (hv : TwinValues first second) (h : TwinStores first second issued issued' store store')
    (hc : SameCode first second issued issued' c c') :
    ∃ d, store'.find? c' = (store.find? c).map fun r => { r with code := d } := by
  have hentries := h.entries
  unfold CodeStore.find?
  generalize store.entries = entries, store'.entries = entries' at hentries ⊢
  induction hentries with
  | nil => exact ⟨"", rfl⟩
  | @cons e e' rest rest' he _ ih =>
      obtain ⟨k, r⟩ := e
      obtain ⟨k', r'⟩ := e'
      have hiff : k = c ↔ k' = c' := he.code_eq_iff hv hc
      rw [List.lookup_cons, List.lookup_cons]
      by_cases hk : k = c
      · obtain ⟨d, hd⟩ := he.record
        rw [beq_iff_eq.mpr hk.symm, beq_iff_eq.mpr (hiff.mp hk).symm]
        exact ⟨d, congrArg some hd⟩
      · have hk' : k' ≠ c' := fun h' => hk (hiff.mpr h')
        rw [beq_false_of_ne (Ne.symm hk), beq_false_of_ne (Ne.symm hk')]
        exact ih

/-- Records of codes that are drawn at the same time are put in the same places. -/
theorem put (hv : TwinValues first second) (h : TwinStores first second issued issued' store store')
    {r : CodeRecord} {n : Nat} (hcode : r.code = first codeBytes n) (hmem : r.code ∈ issued)
    (hmem' : second codeBytes n ∈ issued') :
    TwinStores first second issued issued' (store.put r)
      (store'.put { r with code := second codeBytes n }) where
  lifetime := h.lifetime
  entries := by
    have hentry : TwinEntry first second issued issued' (r.code, r)
        (second codeBytes n, { r with code := second codeBytes n }) :=
      ⟨⟨n, hcode, rfl⟩, hmem, hmem', ⟨_, rfl⟩⟩
    have hsame : SameCode first second issued issued' r.code (second codeBytes n) := hcode ▸ .drawn n
    have hentries := h.entries
    unfold CodeStore.put
    dsimp only
    generalize store.entries = entries, store'.entries = entries' at hentries ⊢
    induction hentries with
    | nil => exact .cons hentry .nil
    | @cons e e' rest rest' he hrest ih =>
        have hiff := he.code_eq_iff hv hsame
        rw [CodeStore.putEntry, CodeStore.putEntry]
        by_cases hk : e.1 = r.code
        · rw [if_pos hk, if_pos (hiff.mp hk)]
          exact .cons hentry hrest
        · rw [if_neg hk, if_neg fun h' => hk (hiff.mpr h')]
          exact .cons he ih

end TwinStores

/-- Of a value under the name of a code or a token, no more than its beginning remains. -/
theorem sanitize_shortened {name : String} (hname : Log.exposure name = .shortened) {c c' : String}
    (h : Log.cutText c = Log.cutText c') (fields : Fields) :
    Log.sanitize ((name, .text c) :: fields) = Log.sanitize ((name, .text c') :: fields) := by
  rw [Log.sanitize_cons, Log.sanitize_cons, hname, Log.Exposure.apply, Log.Exposure.apply, Log.cut_text,
    Log.cut_text, h]

theorem exposure_code : Log.exposure "code" = .shortened := by decide +kernel

theorem exposure_accessToken : Log.exposure "access_token" = .shortened := by decide +kernel

namespace Twins
open OAuthGrant.Action (Alike)

variable {first second : Nat → Nat → String} {issued issued' : List String}

theorem alike_now : Alike (Twins first second issued issued') Eq Action.now Action.now :=
  fun _ _ h => ⟨.ok h.now, h⟩

theorem alike_state : Alike (Twins first second issued issued') (TwinStores first second issued issued')
    Action.state Action.state :=
  fun _ _ h => ⟨.ok h.stores, h⟩

theorem alike_setState {store store' : CodeStore}
    (hstores : TwinStores first second issued issued' store store') :
    Alike (Twins first second issued issued') Eq (Action.setState store) (Action.setState store') :=
  fun _ _ h => ⟨.ok rfl, h.now, h.journal, hstores, h.upcoming⟩

theorem alike_log (component : Component) {message message' : Int → Message} (hmessage : message = message') :
    Alike (Twins first second issued issued') Eq (Action.log component message)
      (Action.log component message') := by
  intro s t h
  refine ⟨.ok rfl, h.now, ?_, h.stores, h.upcoming⟩
  rw [Action.perform_log, Action.perform_log]
  dsimp only
  rw [h.journal, h.now, hmessage]

theorem alike_draw (bytes : Nat) :
    Alike (Twins first second issued issued') (fun c c' => ∃ n, c = first bytes n ∧ c' = second bytes n)
      (Action.draw bytes) (Action.draw bytes) := by
  intro s t h
  obtain ⟨n, hn⟩ := h.upcoming
  refine ⟨.ok ⟨n, hn bytes 0⟩, h.now, h.journal, h.stores, n + 1, ?_⟩
  intro bytes i
  have hnext := hn bytes (1 + i)
  unfold Service.upcoming at hnext ⊢
  rw [Action.perform_draw, Action.perform_draw, Nat.add_assoc n]
  dsimp only
  rwa [Nat.add_assoc s.drawn 1 1, Nat.add_assoc s.drawn, Nat.add_assoc t.drawn 1 1, Nat.add_assoc t.drawn,
    Nat.add_assoc 1 1 i, ← Nat.add_assoc s.drawn 1, ← Nat.add_assoc t.drawn 1]

theorem alike_advance (micros : Int) :
    Alike (Twins first second issued issued') Eq (Action.advance micros) (Action.advance micros) := by
  intro s t h
  rw [Action.perform_advance, Action.perform_advance, h.now]
  split
  · exact ⟨.ok rfl, rfl, h.journal, h.stores, h.upcoming⟩
  · exact ⟨.error _, h⟩

theorem mono {more more' : List String} {s t : Service CodeStore} (h : Twins first second issued issued' s t)
    (hsub : issued ⊆ more) (hsub' : issued' ⊆ more') : Twins first second more more' s t :=
  ⟨h.now, h.journal, h.stores.mono hsub hsub', h.upcoming⟩

theorem alike_cleanup : Alike (Twins first second issued issued') Eq CodeStore.cleanup CodeStore.cleanup := by
  unfold CodeStore.cleanup
  refine alike_now.bind fun now now' hnow => ?_
  subst hnow
  refine alike_state.bind fun store store' hstores => ?_
  have hcount : (store.entries.filter fun e => e.2.isExpired now).length =
      (store'.entries.filter fun e => e.2.isExpired now).length :=
    (hstores.filter_entries fun e e' he => TwinStores.isExpired_eq he now).length_eq
  dsimp only
  rw [hcount]
  refine (alike_setState (hstores.prune now)).bind fun _ _ _ => ?_
  split
  · exact (alike_log _ rfl).bind fun _ _ _ => Action.alike_pure rfl
  · exact Action.alike_pure rfl

theorem alike_report (hv : TwinValues first second) {c c' : String}
    (hc : SameCode first second issued issued' c c') (type : String) (fields : Fields)
    (severity : Log.Severity) :
    Alike (Twins first second issued issued') Eq
      (CodeStore.report .storage .authority type (("code", .text c) :: fields) severity)
      (CodeStore.report .storage .authority type (("code", .text c') :: fields) severity) :=
  alike_log _ (Message.exchange_congr (sanitize_shortened exposure_code (hc.cutText_eq hv) fields) _ _ _ _)

/-- Consuming codes that are used in the same place gives the same record. -/
theorem alike_consume (hv : TwinValues first second) {c c' : String}
    (hc : SameCode first second issued issued' c c') :
    Alike (Twins first second issued issued')
      (fun found found' => ∃ d, found' = found.map fun r => { r with code := d })
      (CodeStore.consume c) (CodeStore.consume c') := by
  unfold CodeStore.consume
  refine alike_now.bind fun now now' hnow => ?_
  subst hnow
  refine alike_state.bind fun store store' hstores => ?_
  refine (alike_setState (hstores.erase hv hc)).bind fun _ _ _ => ?_
  obtain ⟨d, hd⟩ := hstores.find? hv hc
  rw [hd]
  cases store.find? c with
  | none => exact (alike_report hv hc _ _ _).bind fun _ _ _ => Action.alike_pure ⟨d, rfl⟩
  | some record =>
      have hexpired : ({ record with code := d } : CodeRecord).isExpired now = record.isExpired now := rfl
      have hage : CodeStore.age { record with code := d } now = CodeStore.age record now := rfl
      dsimp only [Option.map]
      rw [hexpired, hage]
      split
      · exact (alike_report hv hc _ _ _).bind fun _ _ _ => Action.alike_pure ⟨d, rfl⟩
      · exact (alike_report hv hc _ _ _).bind fun _ _ _ => Action.alike_pure ⟨d, rfl⟩

end Twins

/-- What the same call has issued in two runs: nothing, or the codes that are drawn at the same time. -/
def SameIssue (first second : Nat → Nat → String) (c c' : String) : Prop :=
  (c = "" ∧ c' = "") ∨ ∃ n, c = first codeBytes n ∧ c' = second codeBytes n

/-- What the same call has come to in two runs, where certain codes had been issued before. -/
structure TwinIssues (first second : Nat → Nat → String) (issued issued' : List String)
    (x x' : Except Failure String × Service CodeStore) : Prop where
  code : SameIssue first second (issuedBy x.1) (issuedBy x'.1)
  services : Twins first second (issued ++ [issuedBy x.1]) (issued' ++ [issuedBy x'.1]) x.2 x'.2

/-- What is done with a code that has been drawn. -/
def CodeStore.enter (clientId scopes redirectUri : Value) (code : String) : Action CodeStore String := do
  let now ← Action.now
  let store ← Action.state
  let record ← CodeRecord.new store.lifetime now code clientId scopes redirectUri
  Action.setState (store.put record)
  report .storage .authority "Authorization Code Stored"
    [("code", .text code), ("client_id", .text record.clientId),
     ("scope", .text record.scopes.text), ("expires_at", .text record.expiresAt.text)]
  return code

theorem CodeStore.issue_eq (clientId scopes redirectUri : Value) :
    issue clientId scopes redirectUri = (do
      let _ ← cleanup
      let code ← Action.draw codeBytes
      enter clientId scopes redirectUri code) := rfl

namespace Twins
open OAuthGrant.Action (Alike)

variable {first second : Nat → Nat → String} {issued issued' : List String} {s t : Service CodeStore}

/-- Codes that are drawn at the same time are entered in both stores, or in neither. -/
theorem enter (hv : TwinValues first second) (h : Twins first second issued issued' s t)
    (clientId scopes redirectUri : Value) (n : Nat) :
    TwinIssues first second issued issued'
      ((CodeStore.enter clientId scopes redirectUri (first codeBytes n)).perform s)
      ((CodeStore.enter clientId scopes redirectUri (second codeBytes n)).perform t) := by
  have hnew := CodeRecord.new_congr h.stores.lifetime.symm h.now.symm (first codeBytes n)
    (second codeBytes n) clientId scopes redirectUri
  unfold CodeStore.enter
  rw [Action.perform_bind, Action.perform_bind, Action.perform_now, Action.perform_now, Action.andThen_ok,
    Action.andThen_ok, Action.perform_bind, Action.perform_bind, Action.perform_state, Action.perform_state,
    Action.andThen_ok, Action.andThen_ok, Action.perform_bind, Action.perform_bind, Action.perform_lift,
    Action.perform_lift, hnew]
  -- Whether a record can be made does not depend on the code that has been drawn for it.
  cases hr : CodeRecord.new s.state.lifetime s.now (first codeBytes n) clientId scopes redirectUri with
  | error f =>
      exact ⟨.inl ⟨rfl, rfl⟩, h.mono (List.subset_append_left _ _) (List.subset_append_left _ _)⟩
  | ok r =>
      have hcode := (CodeRecord.new_eq_ok hr).code
      have hmore : Twins first second (issued ++ [first codeBytes n]) (issued' ++ [second codeBytes n]) s t :=
        h.mono (List.subset_append_left _ _) (List.subset_append_left _ _)
      have hput := hmore.stores.put hv hcode (hcode ▸ List.mem_append_right _ List.mem_cons_self)
        (List.mem_append_right _ List.mem_cons_self)
      have hentered := (alike_setState hput).bind fun _ _ _ =>
        alike_report hv (.drawn n) "Authorization Code Stored" [("client_id", .text r.clientId),
          ("scope", .text r.scopes.text), ("expires_at", .text r.expiresAt.text)] .information
      exact ⟨.inr ⟨n, rfl, rfl⟩, (hentered s t hmore).2⟩

/-- Two services that issue a code stay twins: they issue the codes that are drawn next, or neither issues
one. -/
theorem issue (hv : TwinValues first second) (h : Twins first second issued issued' s t)
    (clientId scopes redirectUri : Value) :
    TwinIssues first second issued issued' ((CodeStore.issue clientId scopes redirectUri).perform s)
      ((CodeStore.issue clientId scopes redirectUri).perform t) := by
  obtain ⟨hcleaned, htwins⟩ := alike_cleanup s t h
  rw [CodeStore.issue_eq, Action.perform_bind, Action.perform_bind]
  generalize CodeStore.cleanup.perform s = x, CodeStore.cleanup.perform t = x' at hcleaned htwins ⊢
  obtain ⟨removed, s⟩ := x
  obtain ⟨removed', t⟩ := x'
  dsimp only at hcleaned htwins
  cases hcleaned with
  | error f =>
      exact ⟨.inl ⟨rfl, rfl⟩, htwins.mono (List.subset_append_left _ _) (List.subset_append_left _ _)⟩
  | ok hremoved =>
      obtain ⟨hdrawn, hnext⟩ := alike_draw codeBytes s t htwins
      rw [Action.andThen_ok, Action.andThen_ok, Action.perform_bind, Action.perform_bind]
      rw [Action.perform_draw, Action.perform_draw] at hdrawn hnext ⊢
      cases hdrawn with
      | ok hdrawn =>
          obtain ⟨n, hn, hn'⟩ := hdrawn
          rw [Action.andThen_ok, Action.andThen_ok, hn, hn']
          exact hnext.enter hv clientId scopes redirectUri n

end Twins
end OAuthGrant

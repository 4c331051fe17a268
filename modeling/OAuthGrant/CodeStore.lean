import OAuthGrant.Model.Assignment
import OAuthGrant.Model.Checked
import OAuthGrant.Service
import OAuthGrant.Time.Duration

/-!
# The store of authorization codes

A code is issued to a client for some scopes, perhaps for a redirect URI, and lives for a fixed time.
It can be redeemed once. Codes that have expired are removed whenever a new one is issued. The first
half of the module has the operations on the store itself, the second half the actions that also
read the clock, draw codes and keep the journal.
-/

namespace OAuthGrant
open Decimal (Binary64)
open Log (Component Message)
open Time (Timestamp)

/-- What an authorization code has been issued for. -/
structure CodeRecord where
  code : String
  clientId : String
  scopes : ScopeSet
  redirectUri : Option String
  createdAt : Timestamp
  expiresAt : Timestamp
  deriving DecidableEq

namespace CodeRecord

def modelName : String := "AuthorizationCodeRecord"

def fieldNames : List String :=
  ["code", "client_id", "scopes", "redirect_uri", "created_at", "expires_at"]

/-- Reads a record from named data. -/
def ofFields (fields : Fields) : Checked CodeRecord :=
  CodeRecord.mk <$> Reader.required Reader.text "code" fields
    <*> Reader.required Reader.text "client_id" fields
    <*> Reader.withDefault Reader.scopes "scopes" .empty fields
    <*> Reader.withDefault Reader.optionalText "redirect_uri" none fields
    <*> Reader.required Reader.timestamp "created_at" fields
    <*> Reader.required Reader.timestamp "expires_at" fields

/-- A record takes any values under its own names. -/
def assignable : Assignable := ⟨modelName, fieldNames, .ownNames⟩

/-- Whether a record has expired. It is still good at the very instant of its expiry. -/
def isExpired (r : CodeRecord) (now : Int) : Bool := r.expiresAt.instant < now

theorem isExpired_iff {r : CodeRecord} {now : Int} :
    r.isExpired now = true ↔ r.expiresAt.instant < now := by simp [isExpired]

theorem isExpired_mono {r : CodeRecord} {s t : Int} (hst : s ≤ t) (h : r.isExpired s = true) :
    r.isExpired t = true := by
  rw [isExpired_iff] at *
  omega

/-- The elements of the set that is made of a value: the items of a list, the characters of a text or
the names of a dictionary, each once. A list stands for whatever can be gone through: its order and its
repetitions have no say here. -/
def elementsOf : Value → Except Failure (List Value)
  | .list items =>
    match items.find? fun v => !v.isElement with
    | some v => .error (.unhashable v.kind)
    | none => .ok (distinct items)
  | .text s => .ok (distinct (s.toList.map fun c => .text (String.singleton c)))
  | .object fields => .ok (distinct (fields.map fun e => .text e.1))
  | v => .error (.notIterable v.kind)
where
  /-- Keeps the first of several items that are the same element. -/
  distinct (items : List Value) : List Value :=
    items.foldl (fun kept v => if kept.any v.sameElement then kept else kept ++ [v]) []

/-- The record of a new code, from any values. -/
def new (lifetime now : Int) (code : String) (clientId scopes redirectUri : Value) :
    Except Failure CodeRecord := do
  let elements ← elementsOf scopes
  let createdAt := Timestamp.utc now
  match createdAt.later? lifetime with
  | none => .error .dateOutOfRange
  | some expiresAt =>
    ((fun clientId scopes redirectUri =>
        CodeRecord.mk code clientId (ScopeSet.ofList scopes) redirectUri createdAt expiresAt)
      <$> (Reader.text clientId).within "client_id"
      <*> (Reader.items Reader.text 0 elements).within "scopes"
      <*> (Reader.optionalText redirectUri).within "redirect_uri").toExcept

end CodeRecord

/-- The records by their codes, in the order of issue, and the time a code lives. -/
structure CodeStore where
  lifetime : Int
  entries : List (String × CodeRecord)
  deriving DecidableEq

namespace CodeStore

def empty (lifetime : Int) : CodeStore := ⟨lifetime, []⟩

def codes (s : CodeStore) : List String := s.entries.map Prod.fst

def find? (s : CodeStore) (code : String) : Option CodeRecord := s.entries.lookup code

def erase (s : CodeStore) (code : String) : CodeStore :=
  { s with entries := s.entries.filter fun e => e.1 != code }

def prune (s : CodeStore) (now : Int) : CodeStore :=
  { s with entries := s.entries.filter fun e => !e.2.isExpired now }

/-- Sets the record of a code in a list: a known code keeps its place, a new one comes last. -/
def putEntry (code : String) (record : CodeRecord) :
    List (String × CodeRecord) → List (String × CodeRecord)
  | [] => [(code, record)]
  | e :: rest => if e.1 = code then (code, record) :: rest else e :: putEntry code record rest

def put (s : CodeStore) (record : CodeRecord) : CodeStore :=
  { s with entries := putEntry record.code record s.entries }

@[simp] theorem lifetime_erase (s : CodeStore) (code : String) :
    (s.erase code).lifetime = s.lifetime := rfl

@[simp] theorem lifetime_prune (s : CodeStore) (now : Int) :
    (s.prune now).lifetime = s.lifetime := rfl

@[simp] theorem lifetime_put (s : CodeStore) (r : CodeRecord) :
    (s.put r).lifetime = s.lifetime := rfl

theorem putEntry_of_not_mem {code : String} {record : CodeRecord}
    {entries : List (String × CodeRecord)} (h : code ∉ entries.map Prod.fst) :
    putEntry code record entries = entries ++ [(code, record)] := by
  induction entries with
  | nil => rfl
  | cons e rest ih =>
    simp only [List.map_cons, List.mem_cons, not_or] at h
    simp [putEntry, Ne.symm h.1, ih h.2]

theorem lookup_putEntry_self (code : String) (record : CodeRecord)
    (entries : List (String × CodeRecord)) :
    (putEntry code record entries).lookup code = some record := by
  induction entries with
  | nil => simp [putEntry]
  | cons e rest ih =>
    rw [putEntry]
    split
    · simp
    · next h =>
      have h' : (code == e.1) = false := by simpa using Ne.symm h
      rw [List.lookup_cons, h']
      exact ih

theorem lookup_putEntry_of_ne {code other : String} (h : other ≠ code) (record : CodeRecord)
    (entries : List (String × CodeRecord)) :
    (putEntry code record entries).lookup other = entries.lookup other := by
  have hc : (other == code) = false := by simpa using h
  induction entries with
  | nil => simp [putEntry, List.lookup_cons, hc]
  | cons e rest ih =>
    rw [putEntry]
    split
    · next he => rw [List.lookup_cons, List.lookup_cons, he, hc]
    · rw [List.lookup_cons, List.lookup_cons, ih]

theorem find?_put_self (s : CodeStore) (r : CodeRecord) : (s.put r).find? r.code = some r :=
  lookup_putEntry_self r.code r s.entries

theorem find?_put_of_ne (s : CodeStore) {r : CodeRecord} {code : String} (h : code ≠ r.code) :
    (s.put r).find? code = s.find? code :=
  lookup_putEntry_of_ne h r s.entries

theorem mem_codes_erase {s : CodeStore} {c code : String} :
    c ∈ (s.erase code).codes ↔ c ∈ s.codes ∧ c ≠ code := by
  simp only [codes, erase, List.mem_map, List.mem_filter, bne_iff_ne]
  constructor
  · rintro ⟨e, ⟨he, hne⟩, rfl⟩
    exact ⟨⟨e, he, rfl⟩, hne⟩
  · rintro ⟨⟨e, he, rfl⟩, hne⟩
    exact ⟨e, ⟨he, hne⟩, rfl⟩

@[simp] theorem find?_erase_self (s : CodeStore) (code : String) :
    (s.erase code).find? code = none := by
  simp only [find?, erase, List.lookup_eq_none_iff, List.mem_filter, bne_iff_ne]
  intro e he
  simpa using Ne.symm he.2

theorem find?_erase_of_ne (s : CodeStore) {c code : String} (h : c ≠ code) :
    (s.erase code).find? c = s.find? c := by
  simp only [find?, erase]
  induction s.entries with
  | nil => rfl
  | cons e rest ih =>
    obtain ⟨k, r⟩ := e
    rw [List.filter_cons]
    split
    · rw [List.lookup_cons, List.lookup_cons, ih]
    · next hk =>
      have hc : (c == k) = false := by
        have : k = code := by simpa using hk
        simpa [this] using h
      rw [List.lookup_cons, hc, ih]

/-- Pruning a second time at the same instant changes nothing. -/
@[simp] theorem prune_prune (s : CodeStore) (now : Int) :
    (s.prune now).prune now = s.prune now := by
  simp [prune]

/-- The number of seconds a code lives unless another number is given. -/
def defaultSeconds : Int := 600

def codeBytes : Nat := 32

/-- A message between the storage and another component. -/
def report (source destination : Component) (type : String) (fields : Fields)
    (severity : Log.Severity := .information) : Action CodeStore Unit :=
  Action.log .storage (Message.exchange source.name destination.name type fields severity)

def create {σ : Type} (seconds : Value) : Action σ CodeStore := do
  let lifetime ← Time.ofSeconds seconds
  Action.log .storage
    (Message.exchange Component.system.name Component.storage.name
      "Authorization Code Store Initialized"
      [("expiration_seconds", seconds),
       ("security_features",
        .list [.text "one_time_use", .text "client_binding", .text "redirect_uri_binding"])])
  return empty lifetime

/-- Removes the codes that have expired and returns their number. -/
def cleanup : Action CodeStore Nat := do
  let now ← Action.now
  let store ← Action.state
  let removed := (store.entries.filter fun e => e.2.isExpired now).length
  Action.setState (store.prune now)
  if removed ≠ 0 then
    Action.log .storage
      (Message.note .storage "Expired codes removed" [("codes_removed", .int removed)])
  return removed

theorem state_cleanup (s : Service CodeStore) :
    (cleanup.perform s).2.state = s.state.prune s.now := by
  simp only [cleanup, Action.perform_bind, Action.perform_now, Action.perform_state,
    Action.andThen_ok, Action.perform_setState]
  split <;> simp

theorem result_cleanup (s : Service CodeStore) :
    (cleanup.perform s).1 = .ok (s.state.entries.filter fun e => e.2.isExpired s.now).length := by
  simp only [cleanup, Action.perform_bind, Action.perform_now, Action.perform_state,
    Action.andThen_ok, Action.perform_setState]
  split <;> simp [Except.map]

def issue (clientId scopes redirectUri : Value) : Action CodeStore String := do
  let _ ← cleanup
  let code ← Action.draw codeBytes
  let now ← Action.now
  let store ← Action.state
  let record ← CodeRecord.new store.lifetime now code clientId scopes redirectUri
  Action.setState (store.put record)
  report .storage .authority "Authorization Code Stored"
    [("code", .text code), ("client_id", .text record.clientId),
     ("scope", .text record.scopes.text), ("expires_at", .text record.expiresAt.text)]
  return code

/-- The age of a record in seconds. -/
def age (r : CodeRecord) (now : Int) : Binary64 :=
  let micros := now - r.createdAt.instant
  .ofRatio (micros < 0) micros.natAbs Time.perSecond

/-- Removes a code and returns its record, unless it is unknown or has expired. -/
def consume (code : String) : Action CodeStore (Option CodeRecord) := do
  let now ← Action.now
  let store ← Action.state
  Action.setState (store.erase code)
  match store.find? code with
  | none =>
    report .storage .authority "Authorization Code Rejected"
      [("code", .text code), ("reason", .text "code_not_exists")] .warning
    return none
  | some record =>
    if record.isExpired now then
      report .storage .authority "Authorization Code Rejected"
        [("code", .text code), ("reason", .text "code_expired")] .warning
      return none
    else
      report .storage .authority "Authorization Code Consumed"
        [("code", .text code), ("client_id", .text record.clientId),
         ("age_seconds", .float (age record now))]
      return some record

/-- Consumes a code that may be any value. One that is no text has never been issued, which is told of it if
it can be written. -/
def consumeAny (code : Value) : Action CodeStore (Option CodeRecord) := do
  match ← code.lookupName? with
  | some code => consume code
  | none =>
    Failure.writing code.isWritable ()
    report .storage .authority "Authorization Code Rejected"
      [("code", code), ("reason", .text "code_not_exists")] .warning
    return none

def findAny? (s : CodeStore) (code : Value) : Except Failure (Option CodeRecord) :=
  (Option.bind · s.find?) <$> code.lookupName?

end CodeStore
end OAuthGrant

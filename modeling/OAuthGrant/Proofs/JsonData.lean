import OAuthGrant.Proofs.ValidData
import OAuthGrant.Proofs.WholeText
import OAuthGrant.TokenResponse

/-!
# JSON data made ready

A value of JSON has finite numbers only and nothing from outside the data formats. Making it ready for a body
replaces nothing in it: what comes out is the value itself, unless it is nested too deep or a name in it has
a surrogate, and then nothing comes out.
-/

namespace OAuthGrant.Value
open Text (isWhole)

mutual

def isJson : Value → Bool
  | float x => x.isFinite
  | list items => areJson items
  | object fields => haveJson fields
  | foreign _ _ => false
  | _ => true

def areJson : List Value → Bool
  | [] => true
  | v :: rest => v.isJson && areJson rest

def haveJson : List (String × Value) → Bool
  | [] => true
  | (_, v) :: rest => v.isJson && haveJson rest

end

mutual

/-- The number of values that stand inside each other. -/
def depth : Value → Nat
  | list items => depthOfItems items + 1
  | object fields => depthOfFields fields + 1
  | _ => 1

def depthOfItems : List Value → Nat
  | [] => 0
  | v :: rest => max v.depth (depthOfItems rest)

/-- The depth of the deepest entry of a dictionary. -/
def depthOfFields : List (String × Value) → Nat
  | [] => 0
  | (_, v) :: rest => max v.depth (depthOfFields rest)

end

mutual

/-- Whether the names of all entries in a value are whole. -/
def wholeNames : Value → Bool
  | list items => wholeNamesOfItems items
  | object fields => wholeNamesOfFields fields
  | _ => true

def wholeNamesOfItems : List Value → Bool
  | [] => true
  | v :: rest => v.wholeNames && wholeNamesOfItems rest

def wholeNamesOfFields : List (String × Value) → Bool
  | [] => true
  | (name, v) :: rest => isWhole name && v.wholeNames && wholeNamesOfFields rest

end

theorem depth_pos (v : Value) : 0 < v.depth := by
  cases v <;> simp [depth]

theorem haveJson_iff {fields : Fields} : haveJson fields = true ↔ ∀ e ∈ fields, e.2.isJson = true := by
  induction fields with
  | nil => simp [haveJson]
  | cons e rest ih => simp [haveJson, ih]

theorem depthOfFields_le_iff {room : Nat} {fields : Fields} :
    depthOfFields fields ≤ room ↔ ∀ e ∈ fields, e.2.depth ≤ room := by
  induction fields with
  | nil => simp [depthOfFields]
  | cons e rest ih => rw [depthOfFields, Nat.max_le, ih, List.forall_mem_cons]

theorem wholeNamesOfFields_iff {fields : Fields} :
    wholeNamesOfFields fields = true ↔ ∀ e ∈ fields, isWhole e.1 = true ∧ e.2.wholeNames = true := by
  induction fields with
  | nil => simp [wholeNamesOfFields]
  | cons e rest ih => simp [wholeNamesOfFields, ih]

theorem jsonReadyFields_cons_eq_ok_iff {room : Nat} {name : String} {v : Value} {rest ready : Fields} :
    jsonReadyFields room ((name, v) :: rest) = .ok ready ↔
      isWhole name = true ∧ ∃ w, v.jsonReady room = .ok w ∧
        ∃ more, jsonReadyFields room rest = .ok more ∧ (name, w) :: more = ready := by
  rw [jsonReadyFields, ← Text.Unencodable.inUtf8?_eq_none_iff]
  cases Text.Unencodable.inUtf8? name with
  | some characters => simp
  | none => simp [bind_eq_ok_iff]

mutual

/-- A value of JSON is made ready as it is, if there is room for it and its names are whole. -/
theorem jsonReady_eq_ok_iff (room : Nat) (v w : Value) (json : v.isJson = true) :
    v.jsonReady room = .ok w ↔ w = v ∧ v.depth ≤ room ∧ v.wholeNames = true := by
  match room, v with
  | 0, v =>
      have hdepth := v.depth_pos
      constructor
      · intro h
        simp [jsonReady] at h
      · rintro ⟨-, hle, -⟩
        omega
  | _ + 1, null => simp [jsonReady, depth, wholeNames, eq_comm]
  | _ + 1, bool b => simp [jsonReady, depth, wholeNames, eq_comm]
  | _ + 1, int n => simp [jsonReady, depth, wholeNames, eq_comm]
  | _ + 1, text s => simp [jsonReady, depth, wholeNames, eq_comm]
  | _ + 1, float x =>
      have hfinite : x.isFinite = true := json
      simp [jsonReady, depth, wholeNames, hfinite, eq_comm]
  | _ + 1, foreign kind shown => cases json
  | room + 1, list items =>
      have hready := fun ready => jsonReadyItems_eq_ok_iff room items ready json
      simp only [jsonReady, depth, wholeNames, bind_eq_ok_iff, hready, Except.ok.injEq,
        Nat.add_le_add_iff_right]
      constructor
      · rintro ⟨_, ⟨rfl, hdepth, hnames⟩, rfl⟩
        exact ⟨rfl, hdepth, hnames⟩
      · rintro ⟨rfl, hdepth, hnames⟩
        exact ⟨items, ⟨rfl, hdepth, hnames⟩, rfl⟩
  | room + 1, object fields =>
      have hready := fun ready => jsonReadyFields_eq_ok_iff room fields ready json
      simp only [jsonReady, depth, wholeNames, bind_eq_ok_iff, hready, Except.ok.injEq,
        Nat.add_le_add_iff_right]
      constructor
      · rintro ⟨_, ⟨rfl, hdepth, hnames⟩, rfl⟩
        exact ⟨rfl, hdepth, hnames⟩
      · rintro ⟨rfl, hdepth, hnames⟩
        exact ⟨fields, ⟨rfl, hdepth, hnames⟩, rfl⟩

theorem jsonReadyItems_eq_ok_iff (room : Nat) (items ready : List Value)
    (json : areJson items = true) :
    jsonReadyItems room items = .ok ready ↔
      ready = items ∧ depthOfItems items ≤ room ∧ wholeNamesOfItems items = true := by
  match items with
  | [] => simp [jsonReadyItems, depthOfItems, wholeNamesOfItems, eq_comm]
  | v :: rest =>
      rw [areJson, Bool.and_eq_true] at json
      have hfirst := fun w => jsonReady_eq_ok_iff room v w json.1
      have hrest := fun ready => jsonReadyItems_eq_ok_iff room rest ready json.2
      simp only [jsonReadyItems, depthOfItems, wholeNamesOfItems, bind_eq_ok_iff, hfirst, hrest,
        Except.ok.injEq, Nat.max_le, Bool.and_eq_true]
      constructor
      · rintro ⟨_, ⟨rfl, hdepth, hnames⟩, _, ⟨rfl, hdepths, hall⟩, rfl⟩
        exact ⟨rfl, ⟨hdepth, hdepths⟩, hnames, hall⟩
      · rintro ⟨rfl, ⟨hdepth, hdepths⟩, hnames, hall⟩
        exact ⟨v, ⟨rfl, hdepth, hnames⟩, rest, ⟨rfl, hdepths, hall⟩, rfl⟩

theorem jsonReadyFields_eq_ok_iff (room : Nat) (fields ready : List (String × Value))
    (json : haveJson fields = true) :
    jsonReadyFields room fields = .ok ready ↔
      ready = fields ∧ depthOfFields fields ≤ room ∧ wholeNamesOfFields fields = true := by
  match fields with
  | [] => simp [jsonReadyFields, depthOfFields, wholeNamesOfFields, eq_comm]
  | (name, v) :: rest =>
      rw [haveJson, Bool.and_eq_true] at json
      have hfirst := fun w => jsonReady_eq_ok_iff room v w json.1
      have hrest := fun ready => jsonReadyFields_eq_ok_iff room rest ready json.2
      simp only [jsonReadyFields_cons_eq_ok_iff, depthOfFields, wholeNamesOfFields, hfirst, hrest,
        Nat.max_le, Bool.and_eq_true]
      constructor
      · rintro ⟨hwhole, _, ⟨rfl, hdepth, hnames⟩, _, ⟨rfl, hdepths, hall⟩, rfl⟩
        exact ⟨rfl, ⟨hdepth, hdepths⟩, ⟨hwhole, hnames⟩, hall⟩
      · rintro ⟨rfl, ⟨hdepth, hdepths⟩, ⟨hwhole, hnames⟩, hall⟩
        exact ⟨hwhole, v, ⟨rfl, hdepth, hnames⟩, rest, ⟨rfl, hdepths, hall⟩, rfl⟩

end

/-- That an entry can be written where there is some room: its name is whole, and so are all names in its
value, which is not nested too deep. -/
structure FitsInto (room : Nat) (entry : String × Value) : Prop where
  named : isWhole entry.1 = true
  shallow : entry.2.depth ≤ room
  wholeNames : entry.2.wholeNames = true

instance (room : Nat) (entry : String × Value) : Decidable (FitsInto room entry) :=
  decidable_of_iff (isWhole entry.1 = true ∧ entry.2.depth ≤ room ∧ entry.2.wholeNames = true)
    ⟨fun h => ⟨h.1, h.2.1, h.2.2⟩, fun h => ⟨h.named, h.shallow, h.wholeNames⟩⟩

theorem jsonReadyFields_eq_ok_iff_fits {room : Nat} {fields ready : Fields}
    (json : ∀ e ∈ fields, e.2.isJson = true) :
    jsonReadyFields room fields = .ok ready ↔ ready = fields ∧ ∀ e ∈ fields, FitsInto room e := by
  rw [jsonReadyFields_eq_ok_iff room fields ready (haveJson_iff.mpr json), depthOfFields_le_iff,
    wholeNamesOfFields_iff]
  constructor
  · rintro ⟨rfl, hdepth, hnames⟩
    exact ⟨rfl, fun e he => ⟨(hnames e he).1, hdepth e he, (hnames e he).2⟩⟩
  · rintro ⟨rfl, hfits⟩
    refine ⟨rfl, fun e he => (hfits e he).shallow, fun e he => ?_⟩
    exact ⟨(hfits e he).named, (hfits e he).wholeNames⟩

theorem map_fst_of_jsonReadyFields {room : Nat} {fields ready : Fields}
    (h : jsonReadyFields room fields = .ok ready) : ready.map Prod.fst = fields.map Prod.fst := by
  induction fields generalizing ready with
  | nil =>
      cases h
      rfl
  | cons e rest ih =>
      obtain ⟨-, w, -, more, hmore, rfl⟩ := jsonReadyFields_cons_eq_ok_iff.mp h
      rw [List.map_cons, List.map_cons, ih hmore]

theorem of_jsonReadyFields_append {room : Nat} {fields more ready : Fields}
    (h : jsonReadyFields room (fields ++ more) = .ok ready) :
    ∃ first last, jsonReadyFields room fields = .ok first ∧ jsonReadyFields room more = .ok last ∧
      ready = first ++ last := by
  induction fields generalizing ready with
  | nil => exact ⟨[], ready, rfl, h, rfl⟩
  | cons e rest ih =>
      obtain ⟨hname, w, hw, tail, htail, rfl⟩ := jsonReadyFields_cons_eq_ok_iff.mp h
      obtain ⟨first, last, hfirst, hlast, rfl⟩ := ih htail
      exact ⟨(e.1, w) :: first, last,
        jsonReadyFields_cons_eq_ok_iff.mpr ⟨hname, w, hw, first, hfirst, rfl⟩, hlast, rfl⟩

end OAuthGrant.Value

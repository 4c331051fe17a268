import OAuthGrant.Decimal.Binary64

/-!
# Dynamic values

Parameters, token extensions, log fields and the arguments of the stores may hold any value of a
data format: null, a truth value, a number, a text, a list or a dictionary whose entries keep
their order. A list stands for whatever else items can be taken from in turn, such as a tuple or a set.
A value from outside the format is known by its kind and its text only: it is opaque, counts as present
and has no items.
-/

namespace OAuthGrant
open Decimal (Binary64)

/-- A value whose kind is known only when it is looked at. -/
inductive Value where
  | null
  | bool (b : Bool)
  | int (n : Int)
  | float (x : Binary64)
  | text (s : String)
  | list (items : List Value)
  | object (fields : List (String × Value))
  | foreign (kind shown : String)
  deriving Inhabited

abbrev Fields := List (String × Value)

namespace Value

/-- The name of a value's kind, as error messages give it. -/
def kind : Value → String
  | null => "NoneType"
  | bool _ => "bool"
  | int _ => "int"
  | float _ => "float"
  | text _ => "str"
  | list _ => "list"
  | object _ => "dict"
  | foreign kind _ => kind

/-- Null, false, zero and whatever is empty count as absent. A foreign value is present: what else can be
empty, such as a tuple, is no foreign value. -/
def isPresent : Value → Bool
  | null => false
  | bool b => b
  | int n => n != 0
  | float x => !x.isZero
  | text s => s != ""
  | list items => !items.isEmpty
  | object fields => !fields.isEmpty
  | foreign _ _ => true

@[simp] theorem isPresent_null : null.isPresent = false := rfl

@[simp] theorem isPresent_text (s : String) : (text s).isPresent = (s != "") := rfl

def ofOption : Option String → Value
  | some s => text s
  | none => null

/-- The number a value stands for when values are compared as elements of a set: truth values are
the numbers 0 and 1, and a floating point number that is integral is that integer. -/
def number? : Value → Option Int
  | bool b => some (if b then 1 else 0)
  | int n => some n
  | float x => x.toInt?
  | _ => none

/-- Whether two values are the same element of a set. -/
def sameElement (a b : Value) : Bool :=
  match a.number?, b.number? with
  | some m, some n => m == n
  | none, none =>
    match a, b with
    | null, null => true
    | float x, float y => x == y && x != .nan
    | text s, text t => s == t
    | _, _ => false
  | _, _ => false

def isElement : Value → Bool
  | list _ => false
  | object _ => false
  | _ => true

end Value

namespace Fields

def find? (fields : Fields) (name : String) : Option Value := fields.lookup name

/-- Sets a name: a name already present keeps its place, a new one comes last. -/
def put (name : String) (value : Value) : Fields → Fields
  | [] => [(name, value)]
  | (n, v) :: rest => if n = name then (n, value) :: rest else (n, v) :: put name value rest

/-- Sets all names of `more`, in order. -/
def merge (fields more : Fields) : Fields := more.foldl (fun fs e => put e.1 e.2 fs) fields

@[simp] theorem put_nil (name : String) (value : Value) : put name value [] = [(name, value)] := rfl

@[simp] theorem merge_nil (fields : Fields) : merge fields [] = fields := rfl

theorem merge_cons (fields : Fields) (e : String × Value) (more : Fields) :
    merge fields (e :: more) = merge (put e.1 e.2 fields) more := rfl

theorem find?_put_self (name : String) (value : Value) (fields : Fields) :
    find? (put name value fields) name = some value := by
  induction fields with
  | nil => simp [put, find?]
  | cons e rest ih =>
    obtain ⟨n, v⟩ := e
    by_cases h : n = name
    · simp [put, find?, h]
    · have h' : (name == n) = false := by simpa using Ne.symm h
      simpa [put, find?, h, h', List.lookup_cons] using ih

end Fields
end OAuthGrant

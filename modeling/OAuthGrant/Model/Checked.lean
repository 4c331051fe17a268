import OAuthGrant.Decimal.Numeral
import OAuthGrant.Failure
import OAuthGrant.ScopeSet
import OAuthGrant.Text.Case

/-!
# Reading data as a model

A `Checked` value is either valid or comes with all issues found, in the order of the fields; it is
the applicative that does not stop at the first issue. The second half has one reader for each kind
of field.
-/

namespace OAuthGrant
open Decimal (Binary64)
open Time (Timestamp)

/-- A value that was read from data, or what is wrong with the data. -/
inductive Checked (α : Type) where
  | valid (value : α)
  | invalid (issues : List Issue)

namespace Checked

variable {α β : Type}

/-- Applies a function to a valid value. -/
def map (f : α → β) : Checked α → Checked β
  | valid a => valid (f a)
  | invalid issues => invalid issues

/-- Applies a read function to a read value; the issues of both are kept. -/
def ap : Checked (α → β) → Checked α → Checked β
  | valid f, valid a => valid (f a)
  | valid _, invalid issues => invalid issues
  | invalid issues, valid _ => invalid issues
  | invalid issues, invalid more => invalid (issues ++ more)

instance : Functor Checked := ⟨map, fun b => map fun _ => b⟩

instance : Applicative Checked where
  pure := valid
  seq f a := ap f (a ())

@[simp] theorem map_valid (f : α → β) (a : α) : f <$> valid a = valid (f a) := rfl

@[simp] theorem map_invalid (f : α → β) (issues : List Issue) :
    f <$> (invalid issues : Checked α) = invalid issues := rfl

@[simp] theorem seq_valid (f : α → β) (a : α) : valid f <*> valid a = valid (f a) := rfl

/-- One issue at the place that is being read. -/
def fault (f : Fault) : Checked α := invalid [⟨[], f⟩]

/-- Puts a name or a position in front of the places of all issues. -/
def within (step : String) : Checked α → Checked α
  | valid a => valid a
  | invalid issues => invalid (issues.map fun i => { i with path := step :: i.path })

@[simp] theorem within_valid (step : String) (a : α) : (valid a).within step = valid a := rfl

/-- A further step that runs only on valid data. -/
def andThen (c : Checked α) (next : α → Checked β) : Checked β :=
  match c with
  | valid a => next a
  | invalid issues => invalid issues

def toExcept : Checked α → Except Failure α
  | valid a => .ok a
  | invalid issues => .error (.invalid issues)

@[simp] theorem toExcept_valid (a : α) : (valid a).toExcept = .ok a := rfl

@[simp] theorem toExcept_invalid (issues : List Issue) :
    (invalid issues : Checked α).toExcept = .error (.invalid issues) := rfl

end Checked

/-- Reads one value. -/
abbrev Reader (α : Type) := Value → Checked α

namespace Reader

variable {α : Type}

def required (read : Reader α) (name : String) (fields : Fields) : Checked α :=
  ((fields.find? name).elim (Checked.fault .missing) read).within name

/-- A field with a value of its own when it is not there. -/
def withDefault (read : Reader α) (name : String) (default : α) (fields : Fields) : Checked α :=
  match fields.find? name with
  | some v => (read v).within name
  | none => .valid default

def text : Reader String
  | .text s => .valid s
  | _ => .fault .notText

/-- A text of characters, which is read on if it holds no surrogate. -/
def whole (read : String → Checked α) (s : String) : Checked α :=
  if Text.isWhole s then read s else .fault .notUnicode

/-- A text of characters that is not empty. -/
def nonEmpty : Reader { s : String // s ≠ "" }
  | .text s => whole (fun s => if h : s = "" then .fault .tooShort else .valid ⟨s, h⟩) s
  | _ => .fault .notText

/-- A text of characters that is not empty, as a plain text. -/
def nonEmptyText (v : Value) : Checked String := Subtype.val <$> nonEmpty v

def optionalText : Reader (Option String)
  | .null => .valid none
  | v => some <$> text v

/-- One of the spellings of a vocabulary. -/
def spelled (ofName? : String → Option α) (allowed : List String) : Reader α
  | .text s => whole (fun s => (ofName? s).elim (Checked.fault (.notOneOf allowed)) .valid) s
  | _ => .fault (.notOneOf allowed)

def grantType : Reader GrantType := spelled GrantType.ofName? (GrantType.all.map GrantType.name)

def tokenType : Reader TokenType := spelled TokenType.ofName? [TokenType.bearer.name]

def errorCode : Reader ErrorCode := spelled ErrorCode.ofName? (ErrorCode.all.map ErrorCode.name)

/-- The one grant type that is expected. -/
def only (expected : GrantType) : Reader Unit
  | .text s => if s = expected.name then .valid () else .fault (.notLiteral expected.literal)
  | _ => .fault (.notLiteral expected.literal)

/-- The items of a list, the first of which has the given position. -/
def items (read : Reader α) (position : Nat) : List Value → Checked (List α)
  | [] => .valid []
  | v :: rest => List.cons <$> (read v).within (toString position) <*> items read (position + 1) rest

/-- A set, given as a list. -/
def set (read : Reader α) : Reader (List α)
  | .list vs => items read 0 vs
  | _ => .fault .notSet

def scopes (v : Value) : Checked ScopeSet := ScopeSet.ofList <$> set text v

def texts : Reader (List String)
  | .list vs => items text 0 vs
  | _ => .fault .notTuple

def dictionary : Reader Fields
  | .object fields => .valid fields
  | _ => .fault .notDictionary

/-- A point in time that was given as a number. -/
def pointInTime : Except Time.UnixTime.Fault Timestamp → Checked Timestamp
  | .ok t => .valid t
  | .error f => .fault (.noPointInTime f)

def fits64 (n : Int) : Bool := -(Nat.pow 2 63 : Int) ≤ n && n < Nat.pow 2 63

/-- A point in time, given by its standard text or as a number. An integer of more than 64 bits is
taken as a floating point number, if it is in the range of these. -/
def timestamp : Reader Timestamp
  | .text s => (Timestamp.ofText? s).elim (Checked.fault .notTimestamp) .valid
  | .int n =>
    if fits64 n then pointInTime (Time.UnixTime.ofInteger n)
    else
      let x := Binary64.ofRatio (n < 0) n.natAbs 1
      if x.isFinite then pointInTime (Time.UnixTime.ofFloat x) else .fault .notTimestamp
  | .float x => pointInTime (Time.UnixTime.ofFloat x)
  | _ => .fault .notTimestamp

def integerOfText (s : String) : Checked Int :=
  match Decimal.Numeral.read s with
  | .ok n => .valid n
  | .error .tooLong => .fault .tooLarge
  | .error .unreadable => .fault .unreadableInteger

/-- The integer equal to a floating point number between the bounds of 64 bits, which are left out. -/
def integral64? (x : Binary64) : Option Int := 
  x.toInt?.filter fun n => -(Nat.pow 2 63 : Int) < n && n < Nat.pow 2 63

/-- The integer equal to a floating point number, if it fits into 64 bits. -/
def integerOfFloat (x : Binary64) : Checked Int :=
  if !x.isFinite then .fault .notFinite
  else if x.toInt?.isNone then .fault .fractional
  else (integral64? x).elim (.fault .tooLarge) .valid

/-- An integer. Truth values, integral floating point numbers and integers written as text are
accepted too. -/
def integer : Reader Int
  | .int n => .valid n
  | .bool b => .valid (if b then 1 else 0)
  | .float x => integerOfFloat x
  | .text s => whole integerOfText s
  | _ => .fault .notInteger

def integerFrom (bound : Int) (v : Value) : Checked Int :=
  (integer v).andThen fun n => if n < bound then .fault (.below bound) else .valid n

def truthOfInteger (n : Int) : Checked Bool :=
  if n = 0 then .valid false
  else if n = 1 then .valid true
  else .fault (if fits64 n then .unreadableTruth else .notTruth)

/-- The truth value of a word in lower case. -/
def truthOfWord (s : String) : Checked Bool :=
  if ["0", "off", "f", "false", "n", "no"].contains s then .valid false
  else if ["1", "on", "t", "true", "y", "yes"].contains s then .valid true
  else .fault .unreadableTruth

/-- A truth value. The numbers 0 and 1 and the usual words, in any case, are accepted too. -/
def truth : Reader Bool
  | .bool b => .valid b
  | .int n => truthOfInteger n
  | .float x => (integral64? x).elim (Checked.fault .notTruth) truthOfInteger
  | .text s => whole truthOfWord (Text.lowerAscii s)
  | _ => .fault .notTruth

end Reader
end OAuthGrant

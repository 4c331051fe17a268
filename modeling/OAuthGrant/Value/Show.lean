import OAuthGrant.Value.Basic
import OAuthGrant.Decimal.Numeral
import OAuthGrant.Decimal.Shortest
import OAuthGrant.Text.Quoted

/-!
# The text of a value

`Value.shown` is the text of a value by itself; `Value.quoted` is its text inside a list or a
dictionary, where texts stand between quotes. They differ on texts only. A value is only written if
no integer in it has too many digits (`Value.isWritable`), which whoever writes one has to see to.
-/

namespace OAuthGrant
open Decimal (Binary64)

/-- A number is written without an exponent from 10⁻⁴ up to below 10¹⁶; an exponent has at least two
digits. -/
def Value.layout : Decimal.Layout := ⟨-4, 16, 2⟩

namespace Value

/-- The text of a floating point number. -/
def shownFloat : Binary64 → String
  | .nan => "nan"
  | .infinite negative => if negative then "-inf" else "inf"
  | .finite negative m e => layout.writeFinite negative m e

mutual

/-- The text of a value inside another one. -/
def quoted : Value → String
  | null => "None"
  | bool b => if b then "True" else "False"
  | int n => toString n
  | float x => shownFloat x
  | text s => Text.quote s
  | list items => "[" ++ ", ".intercalate (quotedItems items) ++ "]"
  | object fields => "\x7b" ++ ", ".intercalate (quotedFields fields) ++ "\x7d"
  | foreign _ shown => shown

def quotedItems : List Value → List String
  | [] => []
  | v :: rest => v.quoted :: quotedItems rest

def quotedFields : List (String × Value) → List String
  | [] => []
  | (name, v) :: rest => (Text.quote name ++ ": " ++ v.quoted) :: quotedFields rest

end

/-- The text of a value by itself. -/
def shown : Value → String
  | text s => s
  | v => v.quoted

@[simp] theorem shown_text (s : String) : (text s).shown = s := rfl

@[simp] theorem shown_null : null.shown = "None" := rfl

@[simp] theorem shown_list (items : List Value) : (list items).shown = (list items).quoted := rfl

/-- The text of several values in parentheses. -/
def quotedTuple (items : List Value) : String :=
  "(" ++ ", ".intercalate (quotedItems items) ++ ")"

mutual

/-- Whether every integer in a value, at any depth, has few enough digits to be written. -/
def isWritable : Value → Bool
  | int n => Decimal.Numeral.isWritable n
  | list items => areWritable items
  | object fields => haveWritable fields
  | _ => true

def areWritable : List Value → Bool
  | [] => true
  | v :: rest => v.isWritable && areWritable rest

def haveWritable : List (String × Value) → Bool
  | [] => true
  | (_, v) :: rest => v.isWritable && haveWritable rest

end

/-- The text of a value in a message about data; one that cannot be written is described by its kind. -/
def described (v : Value) : String :=
  if v.isWritable then v.shown else "<unprintable " ++ v.kind ++ " object>"

end Value
end OAuthGrant

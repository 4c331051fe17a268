import OAuthGrant.Text.Case
import OAuthGrant.Text.Fragment
import OAuthGrant.Value.Basic

/-!
# Fields that may be logged

Secrets never reach the log. What a field may show is decided by its name, in lower case: a password,
secret or key is left out altogether, a token or code is cut after a few characters, and everything
else is shown as it is. An error code is not a secret.
-/

namespace OAuthGrant.Log

/-- What stands in the log instead of a secret. -/
def redacted : Value := .text "[REDACTED]"

/-- The names of fields that are left out contain one of these. -/
def redactedFragments : List String := ["password", "secret", "key"]

/-- The names of fields that are cut contain one of these. -/
def cutFragments : List String := ["token", "code"]

/-- The number of characters a cut text keeps. -/
def cutLength : Nat := 10

/-- Cuts a text that is too long, and says so. -/
def cutText (s : String) : String :=
  if cutLength < s.length then String.ofList (s.toList.take cutLength) ++ "..." else s

mutual

/-- Cuts a text, or the texts of a list at any depth; no other value is cut. -/
def cut : Value → Value
  | .text s => .text (cutText s)
  | .list items => .list (cutItems items)
  | v => v

def cutItems : List Value → List Value
  | [] => []
  | v :: rest => cut v :: cutItems rest

end

@[simp] theorem cut_text (s : String) : cut (.text s) = .text (cutText s) := by rw [cut]

@[simp] theorem cut_list (items : List Value) : cut (.list items) = .list (cutItems items) := by
  rw [cut]

@[simp] theorem cutItems_nil : cutItems [] = [] := by rw [cutItems]

@[simp] theorem cutItems_cons (v : Value) (rest : List Value) :
    cutItems (v :: rest) = cut v :: cutItems rest := by rw [cutItems]

theorem cutItems_eq_map (items : List Value) : cutItems items = items.map cut := by
  induction items with
  | nil => simp
  | cons v rest ih => simp [ih]

/-- How a field is treated in the log. -/
inductive Exposure where
  | hidden
  | shortened
  | whole
  deriving DecidableEq, Repr

def exposure (name : String) : Exposure :=
  let name := Text.lower name
  if Text.hasFragment redactedFragments name then .hidden
  else if name ≠ "error_code" ∧ Text.hasFragment cutFragments name then .shortened
  else .whole

/-- What the log shows of a value. -/
def Exposure.apply : Exposure → Value → Value
  | hidden, _ => redacted
  | shortened, v => cut v
  | whole, v => v

def sanitize (fields : Fields) : Fields :=
  fields.map fun (name, value) => (name, (exposure name).apply value)

@[simp] theorem sanitize_nil : sanitize [] = [] := rfl

@[simp] theorem sanitize_cons (name : String) (value : Value) (rest : Fields) :
    sanitize ((name, value) :: rest) = (name, (exposure name).apply value) :: sanitize rest := rfl

end OAuthGrant.Log

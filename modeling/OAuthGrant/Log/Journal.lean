import OAuthGrant.Failure
import OAuthGrant.Log.Message

/-!
# The journal

The records of all components in order, with one level for all of them: a record less serious than
the level is not kept. A level that is not set lets warnings through; a component that starts its
log while no level is set sets it to information.
-/

namespace OAuthGrant.Log

structure Record where
  channel : String
  severity : Severity
  text : String
  deriving DecidableEq, Repr

/-- The records kept so far and the level, zero if it is not set. -/
structure Journal where
  level : Nat := Severity.information.rank
  records : List Record := []
  deriving DecidableEq, Repr

def levels : List (String × Nat) :=
  [("CRITICAL", 50), ("FATAL", 50), ("ERROR", 40), ("WARN", 30), ("WARNING", 30), ("INFO", 20),
   ("DEBUG", 10), ("NOTSET", 0)]

namespace Journal

/-- The least rank of a record that is kept. -/
def threshold (j : Journal) : Nat := if j.level = 0 then Severity.warning.rank else j.level

/-- Adds a message of a component, if it is serious enough. -/
def write (j : Journal) (component : Component) (m : Message) : Journal :=
  if j.threshold ≤ m.severity.rank then
    { j with records := j.records ++ [⟨component.channel, m.severity, m.text⟩] }
  else j

@[simp] theorem level_write (j : Journal) (c : Component) (m : Message) :
    (j.write c m).level = j.level := by
  unfold write
  split <;> rfl

def start (j : Journal) : Journal :=
  if j.level = 0 then { j with level := Severity.information.rank } else j

/-- Sets the level by its name, in any case. -/
def configure (j : Journal) (name : Value) : Except Failure Journal := do
  let name := Text.upper (← name.casedText)
  match levels.lookup name with
  | some level => .ok { j with level }
  | none => .error (.unknownLevel name)

end Journal
end OAuthGrant.Log

import OAuthGrant.Text.Pieces

/-!
# Runs of names

Names of neighbouring characters often start with the same words. A run gives these words once and then
how the names of consecutive code points end. Main statement: `find?_eq_some`, a name that is found is
that of its code point.
-/

namespace OAuthGrant.Text

/-- The names of code points from `first` on. All start alike; how each one ends stands between commas,
and nothing stands there for a code point without a name. -/
structure NameRun where
  first : Nat
  start : String
  ends : List String

/-- What follows a start in a text that has it. -/
def afterStart? : List Char → List Char → Option (List Char)
  | [], cs => some cs
  | _ :: _, [] => none
  | s :: start, c :: cs => if s = c then afterStart? start cs else none

theorem afterStart?_eq_some {start cs rest : List Char} (h : afterStart? start cs = some rest) :
    cs = start ++ rest := by
  fun_induction afterStart? start cs with
  | case1 => simpa using h
  | case2 => simp at h
  | case3 start c cs ih => rw [ih h]; rfl
  | case4 => simp at h

namespace NameRun

/-- How the names of a run end, in order. -/
def endings (r : NameRun) : List (List Char) := r.ends.flatMap fun s => pieces ',' s.toList

def name? (r : NameRun) (n : Nat) : Option (List Char) :=
  if n < r.first then none
  else match r.endings[n - r.first]? with
    | some (c :: cs) => some (r.start.toList ++ c :: cs)
    | _ => none

def find? (r : NameRun) (name : List Char) : Option Nat :=
  match afterStart? r.start.toList name with
  | none => none
  | some [] => none
  | some (c :: cs) => (r.endings.findIdx? (· == c :: cs)).map (r.first + ·)

theorem find?_eq_some {r : NameRun} {name : List Char} {n : Nat} (h : r.find? name = some n) :
    r.name? n = some name := by
  simp only [find?] at h
  split at h
  · simp at h
  · simp at h
  · next c cs hs =>
    obtain ⟨i, hi, rfl⟩ := Option.map_eq_some_iff.mp h
    obtain ⟨hlt, heq, -⟩ := List.findIdx?_eq_some_iff_getElem.mp hi
    rw [afterStart?_eq_some hs, name?, if_neg (by omega), Nat.add_sub_cancel_left,
      List.getElem?_eq_getElem hlt, eq_of_beq heq]

end NameRun
end OAuthGrant.Text

import OAuthGrant.Text.Blank
import OAuthGrant.Text.Surrogate

/-!
# Sets of scopes

A scope set is kept as the list of its elements in the order of their code points, each once, so
that equal sets are equal values and the text of a set is its list joined by spaces. Main
statements: `mem_ofList`, `ext`, and the membership in a difference.
-/

namespace OAuthGrant
open Text (Precedes)

/-- A finite set of texts, listed in strictly ascending order. -/
structure ScopeSet where
  toList : List String
  sorted : toList.Pairwise Precedes
  deriving DecidableEq

namespace ScopeSet

/-- Adds a text to a sorted list, unless it is there. -/
def insertSorted (s : String) : List String → List String
  | [] => [s]
  | t :: ts =>
    if Precedes s t then s :: t :: ts else if s = t then t :: ts else t :: insertSorted s ts

theorem mem_insertSorted {x s : String} {l : List String} :
    x ∈ insertSorted s l ↔ x = s ∨ x ∈ l := by
  induction l with
  | nil => simp [insertSorted]
  | cons t ts ih =>
    rw [insertSorted]
    split
    · simp
    · split
      · next h => subst h; simp
      · simp only [List.mem_cons, ih]
        exact ⟨fun h => by rcases h with h | h | h <;> simp [h],
          fun h => by rcases h with h | h | h <;> simp [h]⟩

theorem pairwise_insertSorted {s : String} {l : List String} (h : l.Pairwise Precedes) :
    (insertSorted s l).Pairwise Precedes := by
  induction l with
  | nil => simp [insertSorted]
  | cons t ts ih =>
    obtain ⟨ht, hts⟩ := List.pairwise_cons.mp h
    rw [insertSorted]
    split
    · next hlt =>
      refine List.pairwise_cons.mpr ⟨fun x hx => ?_, h⟩
      rcases List.mem_cons.mp hx with rfl | hx
      · exact hlt
      · exact hlt.trans (ht x hx)
    · split
      · exact h
      · next hlt hne =>
        refine List.pairwise_cons.mpr ⟨fun x hx => ?_, ih hts⟩
        rcases mem_insertSorted.mp hx with rfl | hx
        · exact Text.precedes_of_not_precedes hlt hne
        · exact ht x hx

def empty : ScopeSet := ⟨[], List.Pairwise.nil⟩

def insert (s : String) (set : ScopeSet) : ScopeSet :=
  ⟨insertSorted s set.toList, pairwise_insertSorted set.sorted⟩

def ofList (l : List String) : ScopeSet := l.foldr insert empty

instance : Membership String ScopeSet := ⟨fun set s => s ∈ set.toList⟩

instance (s : String) (set : ScopeSet) : Decidable (s ∈ set) :=
  inferInstanceAs (Decidable (s ∈ set.toList))

theorem mem_def {s : String} {set : ScopeSet} : s ∈ set ↔ s ∈ set.toList := Iff.rfl

@[simp] theorem not_mem_empty (s : String) : ¬ s ∈ empty := by simp [mem_def, empty]

@[simp] theorem mem_insert {x s : String} {set : ScopeSet} :
    x ∈ set.insert s ↔ x = s ∨ x ∈ set := mem_insertSorted

@[simp] theorem mem_ofList {x : String} {l : List String} : x ∈ ofList l ↔ x ∈ l := by
  induction l with
  | nil => simp [ofList]
  | cons s l ih => simp only [ofList, List.foldr_cons, mem_insert, List.mem_cons] at ih ⊢; simp [ih]

def isEmpty (set : ScopeSet) : Bool := set.toList.isEmpty

/-- The elements of the first set that are not in the second. -/
def diff (a b : ScopeSet) : ScopeSet :=
  ⟨a.toList.filter fun s => !b.toList.contains s, a.sorted.filter _⟩

@[simp] theorem mem_diff {x : String} {a b : ScopeSet} : x ∈ a.diff b ↔ x ∈ a ∧ ¬ x ∈ b := by
  simp [diff, mem_def]

/-- The elements joined by spaces. -/
def text (set : ScopeSet) : String := " ".intercalate set.toList

@[simp] theorem text_empty : empty.text = "" := rfl

def ofText (s : String) : ScopeSet := ofList (Text.words s)

@[simp] theorem mem_ofText {x s : String} : x ∈ ofText s ↔ x ∈ Text.words s := mem_ofList

theorem eq_of_sorted {l m : List String} (hl : l.Pairwise Precedes) (hm : m.Pairwise Precedes)
    (h : ∀ x, x ∈ l ↔ x ∈ m) : l = m := by
  induction l generalizing m with
  | nil =>
    cases m with
    | nil => rfl
    | cons y ys => exact absurd ((h y).mpr (by simp)) (by simp)
  | cons x xs ih =>
    cases m with
    | nil => exact absurd ((h x).mp (by simp)) (by simp)
    | cons y ys =>
      obtain ⟨hx, hxs⟩ := List.pairwise_cons.mp hl
      obtain ⟨hy, hys⟩ := List.pairwise_cons.mp hm
      have hxy : x = y := by
        rcases List.mem_cons.mp ((h x).mp (by simp)) with e | hxy
        · exact e
        · rcases List.mem_cons.mp ((h y).mpr (by simp)) with e | hyx
          · exact e.symm
          · exact absurd ((hx y hyx).trans (hy x hxy)) (Text.not_precedes_self x)
      subst hxy
      refine congrArg _ (ih hxs hys fun z => ⟨fun hz => ?_, fun hz => ?_⟩)
      · rcases List.mem_cons.mp ((h z).mp (List.mem_cons_of_mem _ hz)) with e | hz'
        · exact absurd (e ▸ hx z hz) (Text.not_precedes_self _)
        · exact hz'
      · rcases List.mem_cons.mp ((h z).mpr (List.mem_cons_of_mem _ hz)) with e | hz'
        · exact absurd (e ▸ hy z hz) (Text.not_precedes_self _)
        · exact hz'

/-- Sets with the same elements are equal. -/
theorem ext {a b : ScopeSet} (h : ∀ x, x ∈ a ↔ x ∈ b) : a = b := by
  obtain ⟨l, hl⟩ := a
  obtain ⟨m, hm⟩ := b
  have : l = m := eq_of_sorted hl hm h
  subst this
  rfl

end ScopeSet
end OAuthGrant

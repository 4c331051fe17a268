/-!
# Code points of a text

A text may hold surrogates that have no partner. They are code points but no characters, and a string
holds characters only. So the character of plane 13 with the same low bits stands in for a surrogate.
The standard leaves that plane empty, but nobody is kept from sending U+DD800 to U+DDFFF, for instance as
`%F3%9D%A0%80` in a form. Texts with these characters are outside of what is modelled: they are taken for
texts with surrogates. Main statements: `codePoint_ofCodePoint?` and `codePoints_injective`, texts are the
same if they stand for the same code points.
-/

namespace OAuthGrant.Text

def isSurrogate (n : Nat) : Bool := 0xD800 ≤ n && n < 0xE000

/-- How far from a surrogate its stand-in is. -/
def standInDistance : Nat := 0xD0000

/-- Whether a character stands in for a surrogate. Nothing is said of texts that were sent with such a
character itself. -/
def isStandIn (c : Char) : Bool :=
  standInDistance ≤ c.toNat && isSurrogate (c.toNat - standInDistance)

/-- The code point that a character of a text stands for. -/
def codePoint (c : Char) : Nat := if isStandIn c then c.toNat - standInDistance else c.toNat

/-- The character of a text that stands for a code point. -/
def ofCodePoint? (n : Nat) : Option Char :=
  if isSurrogate n then some (Char.ofNat (n + standInDistance))
  else if n.isValidChar then some (Char.ofNat n)
  else none

def codePoints (s : String) : List Nat := s.toList.map codePoint

/-- Whether a text is made of characters only, none of which stands in for a surrogate. -/
def isWhole (s : String) : Bool := !s.toList.any isStandIn

/-- A text with three replacement characters for each surrogate, as many as it would have bytes. -/
def madeWhole (s : String) : String :=
  String.ofList (s.toList.flatMap fun c =>
    if isStandIn c then List.replicate 3 (Char.ofNat 0xFFFD) else [c])

/-- The order of texts by their code points. -/
def Precedes (s t : String) : Prop := codePoints s < codePoints t

instance (s t : String) : Decidable (Precedes s t) := inferInstanceAs (Decidable (_ < _))

theorem toNat_ofNat {n : Nat} (h : n.isValidChar) : (Char.ofNat n).toNat = n := by
  rw [Char.ofNat, dif_pos h]
  rfl

theorem codePoint_ofCodePoint? {n : Nat} {c : Char}
    (h : standInDistance ≤ n → isSurrogate (n - standInDistance) = false)
    (hc : ofCodePoint? n = some c) : codePoint c = n := by
  by_cases hs : isSurrogate n = true
  · simp only [ofCodePoint?, hs, if_true, Option.some.injEq] at hc
    subst hc
    have hn : 0xD800 ≤ n ∧ n < 0xE000 := by simpa [isSurrogate] using hs
    have hv : (n + standInDistance).isValidChar := by
      right
      simp only [standInDistance]
      omega
    simp [codePoint, isStandIn, toNat_ofNat hv, hs]
  · by_cases hv : n.isValidChar
    · have he : Char.ofNat n = c := by simpa [ofCodePoint?, hs, hv] using hc
      subst he
      have : isStandIn (Char.ofNat n) = false := by
        rw [isStandIn, toNat_ofNat hv, Bool.and_eq_false_imp]
        exact fun hd => h (of_decide_eq_true hd)
      simp [codePoint, this, toNat_ofNat hv]
    · simp [ofCodePoint?, hs, hv] at hc

theorem codePoint_injective {c d : Char} (h : codePoint c = codePoint d) : c = d := by
  have valid : ∀ e : Char, isSurrogate e.toNat = false := by
    intro e
    have := e.valid
    simp only [UInt32.isValidChar, Nat.isValidChar] at this
    simp only [isSurrogate, Char.toNat, Bool.and_eq_false_imp, decide_eq_true_eq,
      decide_eq_false_iff_not]
    omega
  have toNat : c.toNat = d.toNat := by
    simp only [codePoint] at h
    by_cases hc : isStandIn c = true <;> by_cases hd : isStandIn d = true
    · simp only [hc, hd, if_true] at h
      simp only [isStandIn, Bool.and_eq_true, decide_eq_true_eq] at hc hd
      omega
    · simp only [hc, hd, if_true] at h
      simp only [isStandIn, Bool.and_eq_true, h] at hc
      exact absurd hc.2 (by simp [valid d])
    · simp only [hc, hd, if_true] at h
      simp only [isStandIn, Bool.and_eq_true, ← h] at hd
      exact absurd hd.2 (by simp [valid c])
    · simpa [hc, hd] using h
  exact Char.ext (UInt32.toNat_inj.mp toNat)

/-- Texts that stand for the same code points are equal. -/
theorem codePoints_injective {s t : String} (h : codePoints s = codePoints t) : s = t :=
  String.toList_inj.mp ((List.map_inj_right fun _ _ => codePoint_injective).mp h)

theorem not_precedes_self (s : String) : ¬ Precedes s s := List.lt_irrefl _

theorem Precedes.trans {s t u : String} (h : Precedes s t) (h' : Precedes t u) : Precedes s u :=
  List.lt_trans h h'

theorem precedes_of_not_precedes {s t : String} (h : ¬ Precedes s t) (hne : s ≠ t) : Precedes t s :=
  Classical.byContradiction fun h' =>
    hne (codePoints_injective (List.le_antisymm (List.not_lt.mp h') (List.not_lt.mp h)))

end OAuthGrant.Text

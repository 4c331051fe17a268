import OAuthGrant.Value.Show

/-!
# Texts without surrogates

Which texts are whole, for the operations that JSON text is made with. What is written from numbers is
always whole, because all of its characters are ASCII.
-/

namespace OAuthGrant

/-- A surrogate without a partner. -/
def loneSurrogate : String := String.singleton (Char.ofNat (0xD800 + Text.standInDistance))

namespace Text

theorem isStandIn_of_lt {c : Char} (h : c.toNat < 128) : isStandIn c = false := by
  have hlt : ¬ standInDistance ≤ c.toNat := by
    unfold standInDistance
    omega
  rw [isStandIn, decide_eq_false hlt, Bool.false_and]

theorem isWhole_ofList (cs : List Char) : isWhole (String.ofList cs) = !cs.any isStandIn := by
  rw [isWhole, String.toList_ofList]

theorem isWhole_append (s t : String) : isWhole (s ++ t) = (isWhole s && isWhole t) := by
  simp [isWhole]

theorem isWhole_intercalate {sep : String} (hsep : isWhole sep = true) (xs : List String) :
    isWhole (sep.intercalate xs) = xs.all isWhole := by
  induction xs with
  | nil => rfl
  | cons x xs ih =>
      cases xs with
      | nil => simp
      | cons y ys =>
          rw [String.intercalate_cons_cons, isWhole_append, isWhole_append, hsep, ih, Bool.and_true,
            List.all_cons (a := x)]

def Ascii (cs : List Char) : Prop := ∀ c ∈ cs, c.toNat < 128

theorem Ascii.any_isStandIn {cs : List Char} (h : Ascii cs) : cs.any isStandIn = false := by
  rw [List.any_eq_false]
  intro c hc
  rw [isStandIn_of_lt (h c hc)]
  exact Bool.false_ne_true

theorem ascii_nil : Ascii [] := fun _ h => nomatch h

theorem Ascii.cons {c : Char} {cs : List Char} (hc : c.toNat < 128) (h : Ascii cs) :
    Ascii (c :: cs) := by
  intro d hd
  rcases List.mem_cons.mp hd with rfl | hd
  · exact hc
  · exact h d hd

theorem Ascii.append {cs ds : List Char} (h : Ascii cs) (h' : Ascii ds) : Ascii (cs ++ ds) := by
  intro c hc
  rcases List.mem_append.mp hc with hc | hc
  · exact h c hc
  · exact h' c hc

theorem Ascii.of_subset {cs ds : List Char} (h : Ascii ds) (hsub : cs ⊆ ds) : Ascii cs :=
  fun c hc => h c (hsub hc)

theorem ascii_replicate {c : Char} (hc : c.toNat < 128) (n : Nat) : Ascii (List.replicate n c) := by
  intro d hd
  rw [List.eq_of_mem_replicate hd]
  exact hc

theorem ascii_toDigits (n : Nat) : Ascii (Nat.toDigits 10 n) := by
  intro c hc
  have hdigit := Nat.isDigit_of_mem_toDigits (by decide) (by decide) hc
  simp only [Char.isDigit, Bool.and_eq_true, decide_eq_true_eq, UInt32.le_iff_toNat_le] at hdigit
  have hle : c.toNat ≤ 57 := hdigit.2
  omega

theorem ascii_hex (width n : Nat) : Ascii (hex width n) := by
  have hdigit : ∀ d < 16, (hexDigit d).toNat < 128 := by decide
  induction width generalizing n with
  | zero => exact ascii_nil
  | succ width ih =>
      exact (ih (n / 16)).append (Ascii.cons (hdigit _ (Nat.mod_lt n (by decide))) ascii_nil)

theorem isWhole_repr (n : Nat) : isWhole n.repr = true := by
  rw [Nat.repr_eq_ofList_toDigits, isWhole_ofList, (ascii_toDigits n).any_isStandIn]
  rfl

theorem isWhole_toString (n : Int) : isWhole (toString n) = true := by
  rw [Int.toString_eq_repr, Int.repr_eq_if]
  split
  · exact isWhole_repr _
  · rw [isWhole_append, isWhole_repr]
    rfl

end Text

namespace Decimal
open Text (Ascii ascii_nil ascii_replicate ascii_toDigits)

theorem ascii_zeroPadded (width n : Nat) : Ascii (zeroPadded width n) :=
  (ascii_replicate (by decide) _).append (ascii_toDigits n)

theorem ascii_positional {ds : List Char} (h : Ascii ds) (point : Int) : Ascii (positional ds point) := by
  unfold positional
  split
  · exact Ascii.cons (by decide) (Ascii.cons (by decide) ((ascii_replicate (by decide) _).append h))
  · split
    · refine (h.append (ascii_replicate (by decide) _)).append ?_
      exact Ascii.cons (by decide) (Ascii.cons (by decide) ascii_nil)
    · exact (h.of_subset (List.take_subset _ _)).append
        (Ascii.cons (by decide) (h.of_subset (List.drop_subset _ _)))

theorem ascii_scientific (layout : Layout) {ds : List Char} (h : Ascii ds) (exponent : Int) :
    Ascii (scientific layout ds exponent) := by
  have hsign : (if exponent < 0 then '-' else '+').toNat < 128 := by split <;> decide
  have hend : Ascii ('e' :: (if exponent < 0 then '-' else '+') ::
      zeroPadded layout.exponentDigits exponent.natAbs) :=
    Ascii.cons (by decide) (Ascii.cons hsign (ascii_zeroPadded _ _))
  unfold scientific
  refine Ascii.append ?_ hend
  match ds, h with
  | [], _ => exact ascii_nil
  | [d], h => exact h
  | d :: d' :: rest, h =>
      exact Ascii.cons (h d List.mem_cons_self)
        (Ascii.cons (by decide) (h.of_subset (List.subset_cons_self _ _)))

theorem ascii_write (layout : Layout) (d : Digits) : Ascii (layout.write d) := by
  unfold Layout.write
  dsimp only
  split
  · exact ascii_positional (ascii_toDigits _) _
  · exact ascii_scientific layout (ascii_toDigits _) _

theorem isWhole_writeFinite (layout : Layout) (negative : Bool) (m : Nat) (e : Int) :
    Text.isWhole (layout.writeFinite negative m e) = true := by
  have hbody : Ascii (if m = 0 then ['0', '.', '0'] else layout.write (shortest m e)) := by
    split
    · exact Ascii.cons (by decide) (Ascii.cons (by decide) (Ascii.cons (by decide) ascii_nil))
    · exact ascii_write layout _
  unfold Layout.writeFinite
  rw [Text.isWhole_ofList]
  cases negative with
  | true => rw [if_pos rfl, (Ascii.cons (by decide) hbody).any_isStandIn]; rfl
  | false => rw [if_neg Bool.false_ne_true, hbody.any_isStandIn]; rfl

end Decimal

theorem Value.isWhole_shownFloat (x : Decimal.Binary64) : Text.isWhole (Value.shownFloat x) = true := by
  cases x with
  | nan => rfl
  | infinite negative => cases negative <;> rfl
  | finite negative m e => exact Decimal.isWhole_writeFinite _ _ _ _

end OAuthGrant

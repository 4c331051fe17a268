import OAuthGrant.Time.Timestamp
import OAuthGrant.Value.Show

/-!
# Lines of a text

A text is cut into lines at the line feed, and perhaps at other line boundaries of the Unicode standard:
everything here holds for every choice of them. Lines that are put together with line feeds are found again.
What is written from numbers is always a single line, and so is a list of texts, because every line boundary
in a text between quotes is escaped.
-/

namespace OAuthGrant

namespace Text

/-- The line boundaries of the Unicode standard. -/
def lineBoundaries : List Char :=
  ['\n', '\x0b', '\x0c', '\r', '\x1c', '\x1d', '\x1e', '\u0085', '\u2028', '\u2029']

/-- That some characters are taken for the ends of lines: the line feed, and perhaps other boundaries. -/
structure EndsLines (ends : Char → Bool) : Prop where
  newline : ends '\n' = true
  boundary : ∀ c, ends c = true → c ∈ lineBoundaries

def linesBy (ends : Char → Bool) (s : String) : List String :=
  (s.toList.splitOnP ends).map String.ofList

/-- That no line ends within a text. -/
def IsLine (ends : Char → Bool) (s : String) : Prop := ∀ c ∈ s.toList, ends c = false

instance (ends : Char → Bool) (s : String) : Decidable (IsLine ends s) :=
  List.decidableBAll _ s.toList

/-- No line boundary among some characters. -/
def Unbroken (cs : List Char) : Prop := ∀ c ∈ cs, c ∉ lineBoundaries

instance (cs : List Char) : Decidable (Unbroken cs) := List.decidableBAll _ cs

section Lines

variable {ends : Char → Bool} {s t : String}

theorem isLine_append_iff : IsLine ends (s ++ t) ↔ IsLine ends s ∧ IsLine ends t := by
  unfold IsLine
  rw [String.toList_append, List.forall_mem_append]

theorem isLine_intercalate {parts : List String} (hs : IsLine ends s)
    (hparts : ∀ part ∈ parts, IsLine ends part) : IsLine ends (s.intercalate parts) := by
  induction parts with
  | nil => exact nofun
  | cons part parts ih =>
      have hpart := hparts part List.mem_cons_self
      have hrest := ih fun p hp => hparts p (List.mem_cons_of_mem part hp)
      cases parts with
      | nil => rwa [String.intercalate_singleton]
      | cons next rest =>
          rw [String.intercalate_cons_cons, isLine_append_iff, isLine_append_iff]
          exact ⟨⟨hpart, hs⟩, hrest⟩

theorem forall_of_mem_splitOnP {p : Char → Bool} {cs piece : List Char} (h : piece ∈ cs.splitOnP p) :
    ∀ c ∈ piece, p c = false := by
  induction cs generalizing piece with
  | nil =>
      rw [List.splitOnP_nil, List.mem_singleton] at h
      subst h
      exact nofun
  | cons c cs ih =>
      rw [List.splitOnP_cons_eq_if_modifyHead] at h
      split at h
      · rcases List.mem_cons.mp h with rfl | hmem
        · exact nofun
        · exact ih hmem
      · next hc =>
          obtain ⟨first, rest, hsplit⟩ := List.exists_cons_of_ne_nil (List.splitOnP_ne_nil p cs)
          rw [hsplit] at h ih
          rw [List.modifyHead_cons] at h
          rcases List.mem_cons.mp h with rfl | hmem
          · rw [List.forall_mem_cons]
            exact ⟨by simpa using hc, ih List.mem_cons_self⟩
          · exact ih (List.mem_cons_of_mem first hmem)

theorem isLine_of_mem_linesBy {line : String} (h : line ∈ linesBy ends s) : IsLine ends line := by
  obtain ⟨piece, hmem, rfl⟩ := List.mem_map.mp h
  unfold IsLine
  rw [String.toList_ofList]
  exact forall_of_mem_splitOnP hmem

/-- Lines that are put together are found again. -/
theorem linesBy_intercalate (hends : EndsLines ends) {parts : List String} (hne : parts ≠ [])
    (hparts : ∀ part ∈ parts, IsLine ends part) : linesBy ends ("\n".intercalate parts) = parts := by
  induction parts with
  | nil => exact absurd rfl hne
  | cons part parts ih =>
      have hpart : ∀ c ∈ part.toList, ends c = false := hparts part List.mem_cons_self
      cases parts with
      | nil =>
          rw [String.intercalate_singleton, linesBy, List.splitOnP_eq_singleton hpart, List.map_singleton,
            String.ofList_toList]
      | cons next rest =>
          have hrest := ih (List.cons_ne_nil _ _) fun p hp => hparts p (List.mem_cons_of_mem part hp)
          have hnewline : "\n".toList = ['\n'] := rfl
          unfold linesBy at hrest ⊢
          rw [String.intercalate_cons_cons, String.toList_append, String.toList_append, hnewline,
            List.append_assoc, List.singleton_append,
            List.splitOnP_append_cons_of_forall_mem hpart '\n' hends.newline, List.map_cons, hrest,
            String.ofList_toList]

/-- A text without line boundaries is a line, whatever ends lines. -/
theorem EndsLines.isLine (hends : EndsLines ends) (hs : Unbroken s.toList) : IsLine ends s := by
  intro c hc
  cases hend : ends c with
  | false => rfl
  | true => exact absurd (hends.boundary c hend) (hs c hc)

end Lines

theorem unbroken_nil : Unbroken [] := nofun

theorem Unbroken.cons {c : Char} {cs : List Char} (hc : c ∉ lineBoundaries) (h : Unbroken cs) :
    Unbroken (c :: cs) := List.forall_mem_cons.mpr ⟨hc, h⟩

theorem Unbroken.append {cs ds : List Char} (h : Unbroken cs) (h' : Unbroken ds) : Unbroken (cs ++ ds) :=
  List.forall_mem_append.mpr ⟨h, h'⟩

theorem isPrintable_of_lineBoundary {c : Char} (h : c ∈ lineBoundaries) : isPrintable c = false := by
  have hall : lineBoundaries.all (fun b => !isPrintable b) = true := by decide +kernel
  simpa using List.all_eq_true.mp hall c h

theorem unbroken_hex (width n : Nat) : Unbroken (hex width n) := by
  have hdigit : ∀ d < 16, hexDigit d ∉ lineBoundaries := by decide
  induction width generalizing n with
  | zero => exact unbroken_nil
  | succ width ih =>
      have hlast := hdigit (n % 16) (Nat.mod_lt n (by decide))
      exact (ih (n / 16)).append (unbroken_nil.cons hlast)

theorem unbroken_escapeCode (c : Char) : Unbroken (escapeCode c) := by
  have hescape (kind : Char) (hkind : kind ∉ lineBoundaries) (width n : Nat) :
      Unbroken ('\\' :: kind :: hex width n) := by
    have hbackslash : '\\' ∉ lineBoundaries := by decide
    exact ((unbroken_hex width n).cons hkind).cons hbackslash
  unfold escapeCode
  dsimp only
  split
  · exact hescape 'x' (by decide) _ _
  · split
    · exact hescape 'u' (by decide) _ _
    · exact hescape 'U' (by decide) _ _

theorem unbroken_quoteChar {mark : Char} (hmark : mark ∉ lineBoundaries) (c : Char) :
    Unbroken (quoteChar mark c) := by
  unfold quoteChar
  split
  · next hc =>
      have hkept : c ∉ lineBoundaries := by
        rcases Bool.or_eq_true_iff.mp hc with hc | hc
        · rwa [of_decide_eq_true hc]
        · rw [of_decide_eq_true hc]
          decide
      exact (unbroken_nil.cons hkept).cons (by decide)
  split
  · decide
  split
  · decide
  split
  · decide
  split
  · next hprintable =>
      have hkept : c ∉ lineBoundaries := by
        intro hmem
        rw [isPrintable_of_lineBoundary hmem] at hprintable
        cases hprintable
      exact unbroken_nil.cons hkept
  · exact unbroken_escapeCode c

theorem EndsLines.isLine_quote {ends : Char → Bool} (hends : EndsLines ends) (s : String) :
    IsLine ends (quote s) := by
  apply hends.isLine
  have hmark : quoteMark s.toList ∉ lineBoundaries := by
    unfold quoteMark
    split <;> decide
  have hbody : Unbroken (s.toList.flatMap (quoteChar (quoteMark s.toList))) := by
    intro d hd
    obtain ⟨c, -, hc⟩ := List.mem_flatMap.mp hd
    exact unbroken_quoteChar hmark c d hc
  unfold quote
  dsimp only
  rw [String.toList_ofList]
  exact (hbody.cons hmark).append (unbroken_nil.cons hmark)

theorem EndsLines.isLine_toString {ends : Char → Bool} (hends : EndsLines ends) (n : Nat) :
    IsLine ends (toString n) := by
  have hboundaries : lineBoundaries.all (fun b => !b.isDigit) = true := by decide
  apply hends.isLine
  intro c hc hmem
  have hc' : c ∈ Nat.toDigits 10 n := by
    rwa [Nat.toString_eq_repr, Nat.repr_eq_ofList_toDigits, String.toList_ofList] at hc
  have hisDigit := Nat.isDigit_of_mem_toDigits (by decide) (by decide) hc'
  have hother := List.all_eq_true.mp hboundaries c hmem
  rw [hisDigit] at hother
  cases hother

end Text

section Parts

open Text (EndsLines IsLine isLine_append_iff isLine_intercalate)

variable {ends : Char → Bool} (hends : EndsLines ends)

include hends

theorem Time.isLine_twoDigits (n : Nat) : IsLine ends (Time.twoDigits n) := by
  have hzero : IsLine ends "0" := hends.isLine (by decide)
  unfold Time.twoDigits
  split
  · exact isLine_append_iff.mpr ⟨hzero, hends.isLine_toString n⟩
  · exact hends.isLine_toString n

theorem Time.isLine_padded (width n : Nat) : IsLine ends (Time.padded width n) := by
  unfold Time.padded
  dsimp only
  refine isLine_append_iff.mpr ⟨?_, hends.isLine_toString n⟩
  apply hends.isLine
  intro c hc
  rw [String.toList_ofList] at hc
  rw [List.eq_of_mem_replicate hc]
  decide

theorem Time.Timestamp.isLine_logText (wall : Nat) : IsLine ends (Time.Timestamp.logText wall) := by
  have hhyphen : IsLine ends "-" := hends.isLine (by decide)
  have hcolon : IsLine ends ":" := hends.isLine (by decide)
  have hpoint : IsLine ends "." := hends.isLine (by decide)
  have hspace : IsLine ends " " := hends.isLine (by decide)
  unfold Time.Timestamp.logText Time.Timestamp.dateText Time.Timestamp.clockText
  simp only [isLine_append_iff, Time.isLine_twoDigits hends, Time.isLine_padded hends, hhyphen, hcolon,
    hpoint, hspace, and_self]

theorem Value.isLine_quotedTexts (texts : List String) :
    ∀ part ∈ Value.quotedItems (texts.map .text), IsLine ends part := by
  induction texts with
  | nil => exact nofun
  | cons s rest ih =>
      rw [List.map_cons, Value.quotedItems, List.forall_mem_cons]
      exact ⟨hends.isLine_quote s, ih⟩

/-- Texts are shown in a list without a line boundary, whatever is in them. -/
theorem Value.isLine_shown_texts (texts : List String) :
    IsLine ends (Value.list (texts.map .text)).shown := by
  have hopen : IsLine ends "[" := hends.isLine (by decide)
  have hcomma : IsLine ends ", " := hends.isLine (by decide)
  have hclose : IsLine ends "]" := hends.isLine (by decide)
  have hitems := isLine_intercalate hcomma (Value.isLine_quotedTexts hends texts)
  rw [Value.shown_list, Value.quoted, isLine_append_iff, isLine_append_iff]
  exact ⟨⟨hopen, hitems⟩, hclose⟩

end Parts
end OAuthGrant

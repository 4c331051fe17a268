import OAuthGrant.Value.Json

/-!
# Reading JSON texts back

What is written for a dictionary of texts is read as that dictionary. A text is read character by
character: reading what `jsonChar` writes for one gives the character back.
-/

namespace OAuthGrant
open Text (hex hexDigit hexValue?)

namespace Value.JsonText

/-- Four digits are read as the number they were written for. -/
theorem hex4?_hex {n : Nat} (h : n < 0x10000) (rest : List Char) :
    hex4? (hex 4 n ++ rest) = some (n, rest) := by
  have hdigits : hex 4 n = [hexDigit (n / 16 / 16 / 16 % 16), hexDigit (n / 16 / 16 % 16),
      hexDigit (n / 16 % 16), hexDigit (n % 16)] := rfl
  have hread : ∀ m, hexValue? (hexDigit (m % 16)) = some (m % 16) :=
    fun m => Text.hexValue?_hexDigit _ (Nat.mod_lt _ (by decide))
  rw [hdigits]
  simp only [List.cons_append, List.nil_append, hex4?, hread, Option.bind_eq_bind, Option.bind_some,
    Option.some.injEq, Prod.mk.injEq, and_true]
  omega

theorem codePoint?_hex {c : Char} (h : c.toNat < 0x20) (rest : List Char) :
    codePoint? (hex 4 c.toNat ++ rest) = some (c, rest) := by
  have hcode : hex4? (hex 4 c.toNat ++ rest) = some (c.toNat, rest) := hex4?_hex (by omega) rest
  have hlow : Text.isSurrogate c.toNat = false := by
    simp only [Text.isSurrogate, Bool.and_eq_false_iff, decide_eq_false_iff_not]
    omega
  have hpoint : Text.ofCodePoint? c.toNat = some c := by
    have hvalid : c.toNat.isValidChar := c.valid
    simp only [Text.ofCodePoint?, hlow, Bool.false_eq_true, if_false, if_pos hvalid, Char.ofNat_toNat]
  have hunpaired : ¬ 0xD800 ≤ c.toNat := by omega
  simp only [codePoint?, hcode, Option.bind_eq_bind, Option.bind_some, hpoint, Option.map_some, hunpaired,
    decide_false, Bool.false_and, Bool.false_eq_true, if_false]
  split
  · split <;> rfl
  · rfl

theorem text?_jsonChar (fuel : Nat) (read : List Char) (c : Char) (rest : List Char) :
    text? (fuel + 1) read (jsonChar c ++ rest) = text? fuel (c :: read) rest := by
  have hnamed : ∀ n, c.toNat = n → c = Char.ofNat n := by
    rintro _ rfl
    exact (Char.ofNat_toNat c).symm
  unfold jsonChar
  split
  · next h => subst h; rfl
  split
  · next h => subst h; rfl
  split
  · next h => subst h; rfl
  split
  · next h => subst h; rfl
  split
  · next h => subst h; rfl
  split
  · next h => rw [hnamed 8 h]; rfl
  split
  · next h => rw [hnamed 12 h]; rfl
  split
  · next h =>
      have hpoint := codePoint?_hex h rest
      simp only [List.cons_append, text?, hpoint, Option.bind_eq_bind, Option.bind_some]
  · next hquote hbackslash _ _ _ _ _ _ =>
      -- Neither a quote nor a backslash, so the reader takes the character as it is.
      rw [List.singleton_append, text?.eq_def]
      split <;> simp_all

/-- Reading what is written for a text gives it back. A unit of fuel for each character is enough. -/
theorem text?_flatMap (s : List Char) {fuel : Nat} (h : s.length < fuel) (read rest : List Char) :
    text? fuel read (s.flatMap jsonChar ++ '"' :: rest) =
      some (String.ofList (read.reverse ++ s), rest) := by
  induction s generalizing fuel read with
  | nil =>
      obtain ⟨fuel, rfl⟩ := Nat.exists_eq_add_of_lt h
      simp [text?]
  | cons c s ih =>
      obtain ⟨fuel, rfl⟩ := Nat.exists_eq_add_of_lt h
      rw [List.flatMap_cons, List.append_assoc, text?_jsonChar, ih (by simp; omega)]
      simp

theorem length_le_flatMap_jsonChar (s : List Char) : s.length ≤ (s.flatMap jsonChar).length := by
  induction s with
  | nil => exact Nat.le_refl _
  | cons c s ih =>
      have hc : 0 < (jsonChar c).length := by
        unfold jsonChar
        repeat' split
        all_goals simp
      rw [List.flatMap_cons, List.length_append, List.length_cons]
      omega

theorem text?_jsonText (s : String) (rest : List Char) :
    ∃ inside, (jsonText s).toList ++ rest = '"' :: inside ∧
      text? (inside.length + 1) [] inside = some (s, rest) := by
  refine ⟨s.toList.flatMap jsonChar ++ '"' :: rest, ?_, ?_⟩
  · simp [jsonText]
  · have hlength : s.toList.length < (s.toList.flatMap jsonChar ++ '"' :: rest).length + 1 := by
      have hle := length_le_flatMap_jsonChar s.toList
      rw [List.length_append]
      omega
    simpa using text?_flatMap s.toList hlength [] rest

theorem value?_jsonText (fuel : Nat) (s : String) (rest : List Char) :
    value? (fuel + 1) ((jsonText s).toList ++ rest) = some (.text s, rest) := by
  obtain ⟨inside, hquote, hread⟩ := text?_jsonText s rest
  rw [hquote]
  simp [value?, skipSpace, hread]

end Value.JsonText

def Value.ofTexts (entries : List (String × String)) : Fields := entries.map fun e => (e.1, .text e.2)

namespace Value.JsonText

/-- After an entry either the next ones are read or the dictionary ends. -/
def afterEntry (fuel : Nat) (entry : String × Value) (rest : List Char) : Option (Fields × List Char) :=
  match skipSpace rest with
  | ',' :: r => (fields? fuel r).bind fun (fs, r) => some (entry :: fs, r)
  | '\x7d' :: r => some ([entry], r)
  | _ => none

theorem fields?_entry (fuel : Nat) (name v : String) (rest : List Char) :
    fields? (fuel + 2) ((jsonText name ++ ":" ++ jsonText v).toList ++ rest) =
      afterEntry (fuel + 1) (name, .text v) rest := by
  obtain ⟨inside, hquote, hread⟩ := text?_jsonText name (':' :: ((jsonText v).toList ++ rest))
  have hentry : (jsonText name ++ ":" ++ jsonText v).toList ++ rest = '"' :: inside := by
    simpa using hquote
  have hopen : skipSpace ('"' :: inside) = '"' :: inside := rfl
  have hcolon : ∀ cs, skipSpace (':' :: cs) = ':' :: cs := fun _ => rfl
  rw [hentry, fields?, hopen]
  simp only [hread, hcolon, value?_jsonText, Option.bind_eq_bind, Option.bind_some]
  rfl

theorem intercalate_jsonFields (e e' : String × String) (entries : List (String × String)) :
    ",".intercalate (jsonFields (ofTexts (e :: e' :: entries))) =
      jsonText e.1 ++ ":" ++ jsonText e.2 ++ "," ++
        ",".intercalate (jsonFields (ofTexts (e' :: entries))) := by
  simp [ofTexts, jsonFields, json, String.intercalate_cons_cons]

theorem intercalate_jsonFields_singleton (e : String × String) :
    ",".intercalate (jsonFields (ofTexts [e])) = jsonText e.1 ++ ":" ++ jsonText e.2 := by
  simp [ofTexts, jsonFields, json]

theorem fields?_jsonFields (e : String × String) (entries : List (String × String)) {fuel : Nat}
    (h : entries.length + 1 < fuel) (rest : List Char) :
    fields? fuel ((",".intercalate (jsonFields (ofTexts (e :: entries)))).toList ++ '\x7d' :: rest) =
      some (ofTexts (e :: entries), rest) := by
  -- Reading an entry takes one unit of fuel, and its value takes another one.
  induction entries generalizing e fuel with
  | nil =>
      obtain ⟨fuel, rfl⟩ : ∃ n, fuel = n + 2 := ⟨fuel - 2, by simp at h; omega⟩
      rw [intercalate_jsonFields_singleton, fields?_entry]
      rfl
  | cons e' entries ih =>
      obtain ⟨fuel, rfl⟩ : ∃ n, fuel = n + 2 := ⟨fuel - 2, by simp at h; omega⟩
      have hmore : (",".intercalate (jsonFields (ofTexts (e :: e' :: entries)))).toList ++ '\x7d' :: rest =
          (jsonText e.1 ++ ":" ++ jsonText e.2).toList ++
            ',' :: ((",".intercalate (jsonFields (ofTexts (e' :: entries)))).toList ++ '\x7d' :: rest) := by
        rw [intercalate_jsonFields]
        simp
      have hcomma : ∀ entry cs, afterEntry (fuel + 1) entry (',' :: cs) =
          (fields? (fuel + 1) cs).bind fun (fs, r) => some (entry :: fs, r) := fun _ _ => rfl
      have hnext : fields? (fuel + 1) _ = _ := ih e' (by simp at h; omega)
      rw [hmore, fields?_entry, hcomma, hnext]
      rfl

theorem length_lt_jsonFields (e : String × String) (entries : List (String × String)) :
    entries.length + 1 < (",".intercalate (jsonFields (ofTexts (e :: entries)))).toList.length := by
  have hquoted : ∀ s, 2 ≤ (jsonText s).toList.length := by
    intro s
    simp [jsonText]
  have hname := hquoted e.1
  induction entries generalizing e with
  | nil =>
      rw [intercalate_jsonFields_singleton]
      simp at hname ⊢
      omega
  | cons e' entries ih =>
      have hrest := ih e' (hquoted e'.1)
      rw [intercalate_jsonFields]
      simp at hname hrest ⊢
      omega

/-- A dictionary of texts is read as that dictionary. -/
theorem value?_ofTexts (e : String × String) (entries : List (String × String)) {fuel : Nat}
    (h : entries.length + 1 < fuel) (rest : List Char) :
    value? (fuel + 1) ('\x7b' ::
        ((",".intercalate (jsonFields (ofTexts (e :: entries)))).toList ++ '\x7d' :: rest)) =
      some (.object (ofTexts (e :: entries)), rest) := by
  have hread := fields?_jsonFields e entries h rest
  obtain ⟨inside, hquote⟩ : ∃ inside,
      (",".intercalate (jsonFields (ofTexts (e :: entries)))).toList ++ '\x7d' :: rest =
        '"' :: inside := by
    cases entries with
    | nil => simp [intercalate_jsonFields_singleton, jsonText]
    | cons e' entries => simp [intercalate_jsonFields, jsonText]
  rw [hquote] at hread ⊢
  simp [value?, skipSpace, hread]

end Value.JsonText

/-- What is written for a dictionary of texts is read as that dictionary. -/
theorem Value.ofJson?_ofTexts (entries : List (String × String)) :
    ofJson? (object (ofTexts entries)).json = some (.object (ofTexts entries)) := by
  cases entries with
  | nil => rfl
  | cons e entries =>
      have hopen : (object (ofTexts (e :: entries))).json.toList =
          '\x7b' :: ((",".intercalate (jsonFields (ofTexts (e :: entries)))).toList ++ ['\x7d']) := by
        simp [json]
      have hlength : entries.length + 1 < (object (ofTexts (e :: entries))).json.toList.length := by
        have hinside := JsonText.length_lt_jsonFields e entries
        rw [hopen, List.length_cons, List.length_append]
        omega
      have hread := JsonText.value?_ofTexts e entries hlength []
      rw [← hopen] at hread
      rw [ofJson?, hread]
      rfl

end OAuthGrant

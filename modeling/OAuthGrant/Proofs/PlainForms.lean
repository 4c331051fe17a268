import OAuthGrant.Proofs.PairedRequests

/-!
# Forms that need no escapes

An entry whose name and value consist of unreserved characters is sent as it is. A form of such entries is
read back from its body, whatever codes of unreserved characters are put in, so that it can be submitted in
every run whose codes are of that kind.
-/

namespace OAuthGrant
open Http (Form HeaderOptions Request)

namespace Text

theorem Ascii.intercalate {separator : List Char} (h : Ascii separator) {parts : List (List Char)}
    (hparts : ∀ part ∈ parts, Ascii part) : Ascii (separator.intercalate parts) := by
  induction parts with
  | nil => exact ascii_nil
  | cons part parts ih =>
      have hpart := hparts part List.mem_cons_self
      cases parts with
      | nil => rwa [List.intercalate_singleton]
      | cons next rest =>
          rw [List.intercalate_cons_cons]
          exact (hpart.append h).append (ih fun p hp => hparts p (List.mem_cons_of_mem part hp))

theorem toNat_lt_of_isUnreserved {c : Char} (h : isUnreserved c = true) : c.toNat < 128 := by
  rcases Bool.or_eq_true_iff.mp h with halpha | hmark
  · delta Char.isAlphanum Char.isAlpha Char.isUpper Char.isLower Char.isDigit at halpha
    simp only [Bool.or_eq_true, Bool.and_eq_true, decide_eq_true_eq, UInt32.le_iff_toNat_le,
      ge_iff_le] at halpha
    have hlast : 'Z'.val.toNat < 128 ∧ 'z'.val.toNat < 128 ∧ '9'.val.toNat < 128 := by decide
    have hval : c.toNat = c.val.toNat := rfl
    omega
  · have hmem := List.contains_iff_mem.mp hmark
    simp only [List.mem_cons, List.not_mem_nil, or_false] at hmem
    rcases hmem with rfl | rfl | rfl | rfl <;> decide

theorem ne_of_isUnreserved {c d : Char} (h : isUnreserved c = true) (hd : isUnreserved d = false) :
    c ≠ d := by
  rintro rfl
  rw [h] at hd
  cases hd

/-- Whether a text needs no escapes. -/
def isPlain (s : String) : Bool := s.toList.all isUnreserved

theorem isUnreserved_of_isPlain {s : String} (h : isPlain s = true) :
    ∀ c ∈ s.toList, isUnreserved c = true := List.all_eq_true.mp h

def toBytes (cs : List Char) : List UInt8 := cs.map fun c => UInt8.ofNat c.toNat

theorem ofNat_toByte {c : Char} (h : c.toNat < 256) : Char.ofNat (UInt8.ofNat c.toNat).toNat = c := by
  have hbyte : (UInt8.ofNat c.toNat).toNat = c.toNat := by
    rw [UInt8.toNat_ofNat']
    exact Nat.mod_eq_of_lt h
  rw [hbyte]
  exact Char.ofNat_toNat c

theorem latin1_toBytes {cs : List Char} (h : Ascii cs) : latin1 (toBytes cs) = cs := by
  have hsame : ∀ c ∈ cs, Char.ofNat (UInt8.ofNat c.toNat).toNat = id c := fun c hc =>
    ofNat_toByte (Nat.lt_trans (h c hc) (by decide))
  rw [latin1, toBytes, List.map_map]
  exact (List.map_congr_left hsame).trans (List.map_id cs)

theorem lossy_toBytes {cs : List Char} (h : Ascii cs) : lossy (toBytes cs) = cs := by
  induction cs with
  | nil => rfl
  | cons c cs ih =>
      have hc : c.toNat < 128 := h c List.mem_cons_self
      have hrest := ih fun d hd => h d (List.mem_cons_of_mem c hd)
      have hbyte : (UInt8.ofNat c.toNat).toNat = c.toNat := by
        rw [UInt8.toNat_ofNat']
        exact Nat.mod_eq_of_lt (Nat.lt_trans hc (by decide))
      have hfresh : utf8Fresh (UInt8.ofNat c.toNat).toNat = ([some c], none) := by
        rw [utf8Fresh, hbyte, if_pos hc, Char.ofNat_toNat]
      unfold lossy toBytes at hrest ⊢
      rw [List.map_cons, decodeAfter, hfresh, List.map_append, hrest]
      rfl

theorem escapedBytes_of_not_mem {cs : List Char} (h : '%' ∉ cs) : escapedBytes cs = toBytes cs := by
  induction cs with
  | nil => rfl
  | cons c cs ih =>
      have hc : c ≠ '%' := fun hc => h (hc ▸ List.mem_cons_self)
      have hrest := ih fun hmem => h (List.mem_cons_of_mem c hmem)
      rw [escapedBytes, hrest]
      · rfl
      · intro a b rest heq _
        exact hc heq

theorem unescapeAfter_ascii {cs : List Char} (h : Ascii cs) (run : List Char) :
    unescapeAfter run cs = lossy (escapedBytes (run.reverse ++ cs)) := by
  induction cs generalizing run with
  | nil => rw [unescapeAfter, List.append_nil]
  | cons c cs ih =>
      have hrest := ih (fun d hd => h d (List.mem_cons_of_mem c hd)) (c :: run)
      rw [unescapeAfter, if_pos (h c List.mem_cons_self), hrest, List.reverse_cons, List.append_assoc]
      rfl

theorem unescape_of_isUnreserved {cs : List Char} (h : ∀ c ∈ cs, isUnreserved c = true) :
    unescape cs = cs := by
  have hascii : Ascii cs := fun c hc => toNat_lt_of_isUnreserved (h c hc)
  have hpercent : '%' ∉ cs := fun hmem => ne_of_isUnreserved (h _ hmem) (by decide) rfl
  rw [unescape, unescapeAfter_ascii hascii, List.reverse_nil, List.nil_append,
    escapedBytes_of_not_mem hpercent, lossy_toBytes hascii]

theorem pieces_append {separator : Char} {piece : List Char} (h : separator ∉ piece) (rest : List Char) :
    pieces separator (piece ++ separator :: rest) = piece :: pieces separator rest := by
  induction piece with
  | nil => rw [List.nil_append, pieces, if_pos rfl]
  | cons c piece ih =>
      have hc : c ≠ separator := fun hc => h (hc ▸ List.mem_cons_self)
      rw [List.cons_append, pieces, if_neg hc, ih fun hmem => h (List.mem_cons_of_mem c hmem)]

theorem pieces_of_not_mem {separator : Char} {piece : List Char} (h : separator ∉ piece) :
    pieces separator piece = [piece] := by
  induction piece with
  | nil => rfl
  | cons c piece ih =>
      have hc : c ≠ separator := fun hc => h (hc ▸ List.mem_cons_self)
      rw [pieces, if_neg hc, ih fun hmem => h (List.mem_cons_of_mem c hmem)]

/-- Pieces that are put together with separators are found again. -/
theorem pieces_intercalate {separator : Char} {parts : List (List Char)} (hne : parts ≠ [])
    (h : ∀ part ∈ parts, separator ∉ part) : pieces separator ([separator].intercalate parts) = parts := by
  induction parts with
  | nil => exact absurd rfl hne
  | cons part parts ih =>
      have hpart := h part List.mem_cons_self
      cases parts with
      | nil => rw [List.intercalate_singleton, pieces_of_not_mem hpart]
      | cons next rest =>
          rw [List.intercalate_cons_cons, List.append_assoc, List.singleton_append, pieces_append hpart,
            ih (List.cons_ne_nil _ _) fun p hp => h p (List.mem_cons_of_mem part hp)]

end Text

namespace Http.Urlencoded
open Text (isPlain isUnreserved isUnreserved_of_isPlain ne_of_isUnreserved)

theorem decode_plain {s : String} (h : isPlain s = true) : decode s.toList = s := by
  have hchars := isUnreserved_of_isPlain h
  have hspaces : s.toList.map (fun c => if c = '+' then ' ' else c) = s.toList := by
    calc s.toList.map _ = s.toList.map id :=
          List.map_congr_left fun c hc => if_neg (ne_of_isUnreserved (hchars c hc) (by decide))
      _ = s.toList := List.map_id _
  rw [decode, hspaces, Text.unescape_of_isUnreserved hchars, String.ofList_toList]

/-- The piece of an entry that needs no escapes. -/
def plainPiece (name value : String) : List Char := name.toList ++ '=' :: value.toList

theorem entry_plainPiece {name value : String} (hname : isPlain name = true)
    (hvalue : isPlain value = true) : entry (plainPiece name value) = (name, .text value) := by
  have hne : ∀ c ∈ name.toList, decide (c ≠ '=') = true := fun c hc =>
    decide_eq_true (ne_of_isUnreserved (isUnreserved_of_isPlain hname c hc) (by decide))
  have htake := List.takeWhile_cons_of_neg (p := fun c => decide (c ≠ '=')) (a := '=') (l := value.toList)
    (by decide)
  have hdrop := List.dropWhile_cons_of_neg (p := fun c => decide (c ≠ '=')) (a := '=') (l := value.toList)
    (by decide)
  rw [entry, plainPiece, List.takeWhile_append_of_pos hne, List.dropWhile_append_of_pos hne, htake, hdrop,
    List.append_nil, List.drop_one, List.tail_cons, decode_plain hname, decode_plain hvalue]

theorem separator_not_mem_plainPiece {name value : String} (hname : isPlain name = true)
    (hvalue : isPlain value = true) : '&' ∉ plainPiece name value := by
  have hnot : ∀ {s : String}, isPlain s = true → '&' ∉ s.toList := fun hs hmem =>
    ne_of_isUnreserved (isUnreserved_of_isPlain hs _ hmem) (by decide) rfl
  rw [plainPiece, List.mem_append, List.mem_cons]
  rintro (hmem | hmem | hmem)
  · exact hnot hname hmem
  · exact absurd hmem (by decide)
  · exact hnot hvalue hmem

/-- Entries that need no escapes are read back when they are put together. -/
theorem entries_intercalate {parts : List (String × String)}
    (h : ∀ e ∈ parts, isPlain e.1 = true ∧ isPlain e.2 = true) :
    entries (['&'].intercalate (parts.map fun e => plainPiece e.1 e.2)) =
      parts.map fun e => (e.1, .text e.2) := by
  cases parts with
  | nil => rfl
  | cons first rest =>
      have hpieces : ∀ piece ∈ (first :: rest).map fun e => plainPiece e.1 e.2, '&' ∉ piece ∧ piece ≠ [] := by
        intro piece hpiece
        obtain ⟨e, he, rfl⟩ := List.mem_map.mp hpiece
        obtain ⟨hname, hvalue⟩ := h e he
        have hsign : '=' :: e.2.toList ≠ [] := List.cons_ne_nil _ _
        exact ⟨separator_not_mem_plainPiece hname hvalue, List.append_ne_nil_of_right_ne_nil _ hsign⟩
      have hkept : ((first :: rest).map fun e => plainPiece e.1 e.2).filter (· ≠ []) =
          (first :: rest).map fun e => plainPiece e.1 e.2 :=
        List.filter_eq_self.mpr fun piece hpiece => decide_eq_true (hpieces piece hpiece).2
      have hne : ((first :: rest).map fun e => plainPiece e.1 e.2) ≠ [] := List.cons_ne_nil _ _
      have hfound := Text.pieces_intercalate hne fun piece hpiece => (hpieces piece hpiece).1
      rw [entries, hfound, hkept, List.map_map]
      exact List.map_congr_left fun e he => entry_plainPiece (h e he).1 (h e he).2

theorem ascii_intercalate {parts : List (String × String)}
    (h : ∀ e ∈ parts, isPlain e.1 = true ∧ isPlain e.2 = true) :
    Text.Ascii (['&'].intercalate (parts.map fun e => plainPiece e.1 e.2)) := by
  have hplain : ∀ {s : String}, isPlain s = true → Text.Ascii s.toList := fun hs c hc =>
    Text.toNat_lt_of_isUnreserved (isUnreserved_of_isPlain hs c hc)
  refine Text.Ascii.intercalate (Text.Ascii.cons (by decide) Text.ascii_nil) ?_
  intro piece hpiece
  obtain ⟨e, he, rfl⟩ := List.mem_map.mp hpiece
  exact (hplain (h e he).1).append (Text.Ascii.cons (by decide) (hplain (h e he).2))

end Http.Urlencoded

/-- A code that can be sent without escapes. -/
def IsPlainCode (c : String) : Prop := c ≠ "" ∧ Text.isPlain c = true

theorem IsPlainCode.isWhole {c : String} (h : IsPlainCode c) : Text.isWhole c = true := by
  have hascii : Text.Ascii c.toList := fun d hd =>
    Text.toNat_lt_of_isUnreserved (Text.isUnreserved_of_isPlain h.2 d hd)
  rw [Text.isWhole, hascii.any_isStandIn]
  rfl

theorem isReadable_isPlainCode : IsReadable IsPlainCode := fun _ hc => ⟨hc.1, hc.isWhole⟩

/-- Whether an entry needs no escapes, whatever plain code is put in. -/
def NamedEntry.isPlain : NamedEntry → Bool
  | fixed name (.text value) => Text.isPlain name && Text.isPlain value
  | fixed _ _ => false
  | issued _ => true

def NamedEntry.texts (codes : List String) (e : NamedEntry) : String × String :=
  (e.name, (e.fill codes).2.shown)

theorem NamedEntry.texts_of_isPlain {codes : List String} (hcodes : ∀ c ∈ codes, c = "" ∨ IsPlainCode c)
    {e : NamedEntry} (h : e.isPlain = true) :
    e.fill codes = ((e.texts codes).1, .text (e.texts codes).2) ∧
      Text.isPlain (e.texts codes).1 = true ∧ Text.isPlain (e.texts codes).2 = true := by
  cases e with
  | fixed name value =>
      cases value with
      | text value => exact ⟨rfl, Bool.and_eq_true_iff.mp h⟩
      | _ => cases h
  | issued call =>
      have hname : Text.isPlain Param.code = true := by decide
      refine ⟨rfl, hname, ?_⟩
      refine getD_of_forall (P := fun c => Text.isPlain c = true) rfl ?_ call
      intro c hc
      rcases hcodes c hc with rfl | hplain
      · rfl
      · exact hplain.2

namespace NamedForm
open Http.Urlencoded (plainPiece)

def bodyChars (codes : List String) (form : NamedForm) : List Char :=
  ['&'].intercalate ((form.map (NamedEntry.texts codes)).map fun e => plainPiece e.1 e.2)

/-- A plain form is read back from its body, whose characters are ASCII. -/
theorem entries_bodyChars {codes : List String} (hcodes : ∀ c ∈ codes, c = "" ∨ IsPlainCode c)
    {form : NamedForm} (h : form.all NamedEntry.isPlain = true) :
    Http.Urlencoded.entries (form.bodyChars codes) = form.fill codes ∧ Text.Ascii (form.bodyChars codes) := by
  have hentry := fun e he => NamedEntry.texts_of_isPlain hcodes (List.all_eq_true.mp h e he)
  have hplain : ∀ e ∈ form.map (NamedEntry.texts codes),
      Text.isPlain e.1 = true ∧ Text.isPlain e.2 = true := by
    intro e he
    obtain ⟨entry, hmem, rfl⟩ := List.mem_map.mp he
    exact (hentry entry hmem).2
  refine ⟨?_, Http.Urlencoded.ascii_intercalate hplain⟩
  rw [bodyChars, Http.Urlencoded.entries_intercalate hplain, List.map_map, fill]
  exact List.map_congr_left fun e he => (hentry e he).1.symm

end NamedForm

/-- A request whose body is a form in one line. -/
structure Http.Request.IsUrlencoded (r : Request) : Prop where
  complete : r.interrupted = false
  word : (HeaderOptions.ofText ((r.header? "content-type").getD "")).word =
    "application/x-www-form-urlencoded"

def Submission.urlencoded {hosted : Bool} (head : Request) (form : NamedForm) (hhead : head.IsUrlencoded)
    (hform : form.all NamedEntry.isPlain = true) (hlength : form.length ≤ maxFields) :
    Submission hosted IsPlainCode where
  head := head
  chunks := fun codes => [Text.toBytes (form.bodyChars codes)]
  form := .ok form
  reads := by
    intro codes hcodes
    obtain ⟨hentries, hascii⟩ := NamedForm.entries_bodyChars hcodes hform
    have hheader : Request.header? { head with chunks := [Text.toBytes (form.bodyChars codes)] }
        "content-type" = head.header? "content-type" := rfl
    have hbody : Request.body { head with chunks := [Text.toBytes (form.bodyChars codes)] } =
        Text.toBytes (form.bodyChars codes) := List.append_nil _
    have hcount : ¬ maxFields < (form.fill codes).length := by
      rw [NamedForm.fill, List.length_map]
      exact Nat.not_lt.mpr hlength
    have hurlencoded : ¬ "application/x-www-form-urlencoded" = "multipart/form-data" := by decide
    unfold Form.ofRequest Form.ofUrlencoded
    dsimp only
    rw [hheader, hhead.word, if_neg hurlencoded, if_pos rfl, hbody, Text.latin1_toBytes hascii, hentries,
      hhead.complete, if_neg Bool.false_ne_true, if_neg hcount, if_neg Bool.false_ne_true]
    rfl

def sampleClient (clientId : String) : ClientIdentity := ⟨clientId, .ofList ["read"], [], .every⟩

/-- An endpoint for two clients, which a proxy names in a header. -/
def sampleDeployment : Deployment :=
  .behindProxy ⟨3600 * Time.perSecond⟩ (some "/token") false ⟨[sampleClient "x", sampleClient "y"]⟩ "x-client"

/-- A random source that counts: each value has one character more than the one before. -/
def countingSource (_bytes drawn : Nat) : String := String.ofList (List.replicate (drawn + 11) 'a')

theorem countingSource_injective (bytes : Nat) {i j : Nat}
    (h : countingSource bytes i = countingSource bytes j) : i = j := by
  have hlength := congrArg (fun s => s.toList.length) h
  simp only [countingSource, String.toList_ofList, List.length_replicate] at hlength
  omega

theorem isPlainCode_countingSource (bytes drawn : Nat) : IsPlainCode (countingSource bytes drawn) := by
  constructor
  · intro h
    have hempty := congrArg String.toList h
    rw [countingSource, String.toList_ofList] at hempty
    cases hempty
  · rw [Text.isPlain, countingSource, String.toList_ofList, List.all_replicate]
    rfl

/-- The service of the deployment before it has issued anything. -/
def sampleStart : Service CodeStore where
  now := 0
  random := countingSource
  state := .empty (600 * Time.perSecond)

def sampleHead (clientId : String) : Request where
  method := "POST"
  path := "/token"
  headers := [("content-type", "application/x-www-form-urlencoded"), ("x-client", clientId)]

theorem isUrlencoded_sampleHead (clientId : String) : (sampleHead clientId).IsUrlencoded := by
  have hheader : (sampleHead clientId).header? "content-type" = some "application/x-www-form-urlencoded" := by
    with_unfolding_all rfl
  have hword : (HeaderOptions.ofText "application/x-www-form-urlencoded").word =
      "application/x-www-form-urlencoded" := by with_unfolding_all rfl
  exact ⟨rfl, by rw [hheader, Option.getD_some, hword]⟩

/-- A client presents the code that a call has issued. -/
def sampleRedemption (clientId : String) (call : Nat) : Submission sampleDeployment.hosted IsPlainCode :=
  .urlencoded (sampleHead clientId) [.fixed "grant_type" (.text "authorization_code"), .issued call]
    (isUrlencoded_sampleHead clientId) rfl (Nat.le_of_ble_eq_true rfl)

theorem presented?_sampleRedemption (clientId : String) (call : Nat) :
    (sampleRedemption clientId call).presented? = some (.issued call) := by
  have hgrant : NamedForm.values [] [.fixed "grant_type" (.text "authorization_code"), .issued call]
      Param.grantType = [GrantType.authorizationCode.name] := rfl
  exact NamedForm.presented?_eq_some rfl hgrant

end OAuthGrant

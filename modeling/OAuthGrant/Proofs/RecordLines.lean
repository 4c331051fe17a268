import Mathlib.Data.List.Nodup
import OAuthGrant.Proofs.LinesOfText
import OAuthGrant.Proofs.SanitizedFields

/-!
# The record on a request

The record on a request has a header, a line that tells its type, a line for each field and a separator. It is
for whoever sends the request to choose the names and the values of its parameters. The values do no harm,
because they are shown in lists, between quotes. But a name is written as it is, and a parameter takes the
place of a field of the same name. So the record shows the method, the path and each parameter, in a line of
its own, exactly if no name has the end of a line in it and none is that of the method or the path.
-/

namespace OAuthGrant

section Parts

open Text (EndsLines IsLine Unbroken isLine_append_iff isLine_of_mem_linesBy linesBy linesBy_intercalate)

variable {ends : Char → Bool} (hends : EndsLines ends)

include hends

theorem Log.isLine_colour (name : String) : IsLine ends (Log.colour name) := by
  have hcolours : ∀ e ∈ Log.colours, Unbroken e.2.toList := by decide +kernel
  have hplain : Unbroken Log.plain.toList := by decide +kernel
  apply hends.isLine
  unfold Log.colour
  cases hfind : Log.colours.lookup name with
  | none => exact hplain
  | some found =>
      obtain ⟨l₁, l₂, hsplit, -⟩ := List.lookup_eq_some_iff.mp hfind
      have hmem : (name, found) ∈ Log.colours := by simp [hsplit]
      exact hcolours _ hmem

theorem Log.isLine_paint_iff {name text : String} : IsLine ends (Log.paint name text) ↔ IsLine ends text := by
  have hreset : IsLine ends Log.reset := hends.isLine (by decide +kernel)
  rw [Log.paint, isLine_append_iff, isLine_append_iff]
  constructor
  · exact fun h => h.1.2
  · exact fun h => ⟨⟨Log.isLine_colour hends name, h⟩, hreset⟩

namespace Log.Message

theorem isLine_header_iff {destination : String} {now : Int} :
    IsLine ends (header now Component.client.name destination) ↔ IsLine ends destination := by
  have hopen : IsLine ends "[" := hends.isLine (by decide)
  have hclose : IsLine ends "]" := hends.isLine (by decide)
  have hspace : IsLine ends " " := hends.isLine (by decide)
  have harrow : IsLine ends " → " := hends.isLine (by decide)
  have hclient : IsLine ends Component.client.name := hends.isLine (by decide)
  unfold header stamp
  simp only [isLine_append_iff, Log.isLine_colour hends, Log.isLine_paint_iff hends,
    Time.Timestamp.isLine_logText hends, hopen, hclose, hspace, harrow, hclient, true_and]

theorem isLine_fieldLine_iff {name : String} {value : Value} :
    IsLine ends (fieldLine name value) ↔ IsLine ends name ∧ IsLine ends value.shown := by
  have hindent : IsLine ends "  " := hends.isLine (by decide)
  have hcolon : IsLine ends ":" := hends.isLine (by decide)
  have hspace : IsLine ends " " := hends.isLine (by decide)
  unfold fieldLine
  simp only [isLine_append_iff, Log.isLine_paint_iff hends, hindent, hcolon, hspace, true_and, and_true]

omit hends in
theorem mem_requestLines_iff {component : Component} {now : Int} {fields : Fields} {line : String} :
    line ∈ requestLines component now fields ↔
      line = header now Component.client.name component.title ∨
        line = paint (typeColour "HTTP-REQUEST" .information) ("HTTP-REQUEST" ++ ":") ∨
          (∃ e ∈ fields, fieldLine e.1 e.2 = line) ∨ line = separator := by
  simp [requestLines]

/-- Fields whose names and values are single lines are found again in the lines of the record. -/
theorem linesBy_requestLines {component : Component} (hcomponent : IsLine ends component.title) (now : Int)
    {fields : Fields} (hfields : ∀ e ∈ fields, IsLine ends e.1 ∧ IsLine ends e.2.shown) :
    linesBy ends ("\n".intercalate (requestLines component now fields)) =
      requestLines component now fields := by
  have htype : IsLine ends (paint (typeColour "HTTP-REQUEST" .information) ("HTTP-REQUEST" ++ ":")) :=
    hends.isLine (by decide +kernel)
  have hseparator : IsLine ends separator := hends.isLine (by decide +kernel)
  have hne : requestLines component now fields ≠ [] := List.cons_ne_nil _ _
  refine linesBy_intercalate hends hne ?_
  intro line hline
  rcases mem_requestLines_iff.mp hline with rfl | rfl | ⟨e, he, rfl⟩ | rfl
  · exact (isLine_header_iff hends).mpr hcomponent
  · exact htype
  · exact (isLine_fieldLine_iff hends).mpr (hfields e he)
  · exact hseparator

/-- If a text has the lines of some fields, their names and values are single lines, and so is the name of
the component. -/
theorem isLine_of_linesBy_eq {s : String} {component : Component} {now : Int} {fields : Fields}
    (h : linesBy ends s = requestLines component now fields) :
    IsLine ends component.title ∧ ∀ e ∈ fields, IsLine ends e.1 ∧ IsLine ends e.2.shown := by
  have hlines : ∀ line ∈ requestLines component now fields, IsLine ends line := by
    intro line hline
    rw [← h] at hline
    exact isLine_of_mem_linesBy hline
  constructor
  · exact (isLine_header_iff hends).mp (hlines _ (mem_requestLines_iff.mpr (.inl rfl)))
  · intro e he
    have hline : fieldLine e.1 e.2 ∈ requestLines component now fields :=
      mem_requestLines_iff.mpr (.inr (.inr (.inl ⟨e, he, rfl⟩)))
    exact (isLine_fieldLine_iff hends).mp (hlines _ hline)

omit hends in
theorem length_requestLines (component : Component) (now : Int) (fields : Fields) :
    (requestLines component now fields).length = fields.length + 3 := by
  simp [requestLines]

end Log.Message
end Parts

namespace Fields

variable {name : String} {value : Value} {fields more : Fields}

theorem put_of_not_mem (h : name ∉ fields.map Prod.fst) :
    put name value fields = fields ++ [(name, value)] := by
  induction fields with
  | nil => rfl
  | cons e rest ih =>
      rw [List.map_cons, List.mem_cons, not_or] at h
      rw [put, if_neg (Ne.symm h.1), ih h.2]
      rfl

theorem length_put_of_mem (h : name ∈ fields.map Prod.fst) :
    (put name value fields).length = fields.length := by
  induction fields with
  | nil => cases h
  | cons e rest ih =>
      rw [put]
      split
      · rfl
      · next hne =>
          rw [List.map_cons, List.mem_cons] at h
          rw [List.length_cons, ih (h.resolve_left (Ne.symm hne)), List.length_cons]

theorem mem_put {e : String × Value} (h : e ∈ put name value fields) : e = (name, value) ∨ e ∈ fields := by
  induction fields with
  | nil => exact .inl (List.mem_singleton.mp h)
  | cons first rest ih =>
      rw [put] at h
      split at h
      · next hname =>
          rcases List.mem_cons.mp h with rfl | hmem
          · exact .inl (by rw [hname])
          · exact .inr (List.mem_cons_of_mem first hmem)
      · rcases List.mem_cons.mp h with rfl | hmem
        · exact .inr List.mem_cons_self
        · exact (ih hmem).imp_right (List.mem_cons_of_mem first)

theorem mem_merge {e : String × Value} (h : e ∈ merge fields more) : e ∈ fields ∨ e ∈ more := by
  induction more generalizing fields with
  | nil => exact .inl h
  | cons first rest ih =>
      rw [merge_cons] at h
      rcases ih h with hmem | hmem
      · rcases mem_put hmem with rfl | hmem
        · exact .inr List.mem_cons_self
        · exact .inl hmem
      · exact .inr (List.mem_cons_of_mem first hmem)

theorem merge_of_disjoint (hnodup : (more.map Prod.fst).Nodup)
    (hnew : ∀ name ∈ more.map Prod.fst, name ∉ fields.map Prod.fst) : merge fields more = fields ++ more := by
  induction more generalizing fields with
  | nil => exact (List.append_nil fields).symm
  | cons e rest ih =>
      rw [List.map_cons, List.nodup_cons] at hnodup
      have hfirst : e.1 ∉ fields.map Prod.fst := hnew e.1 List.mem_cons_self
      rw [merge_cons, put_of_not_mem hfirst, ih hnodup.2, List.append_assoc]
      · rfl
      · intro name hname
        have hrest := hnew name (List.mem_cons_of_mem e.1 hname)
        rw [List.map_append, List.mem_append, not_or]
        refine ⟨hrest, ?_⟩
        intro hsame
        rw [List.map_singleton, List.mem_singleton] at hsame
        exact hnodup.1 (hsame ▸ hname)

theorem length_merge_le (fields more : Fields) : (merge fields more).length ≤ fields.length + more.length := by
  induction more generalizing fields with
  | nil => exact Nat.le_refl _
  | cons e rest ih =>
      have hrest := ih (put e.1 e.2 fields)
      have hput : (put e.1 e.2 fields).length ≤ fields.length + 1 := by
        by_cases h : e.1 ∈ fields.map Prod.fst
        · rw [length_put_of_mem h]
          omega
        · simp [put_of_not_mem h]
      rw [merge_cons, List.length_cons]
      omega

theorem length_merge_lt (h : name ∈ fields.map Prod.fst) (hmore : name ∈ more.map Prod.fst) :
    (merge fields more).length < fields.length + more.length := by
  induction more generalizing fields with
  | nil => cases hmore
  | cons e rest ih =>
      rw [merge_cons, List.length_cons]
      by_cases hknown : e.1 ∈ fields.map Prod.fst
      · have hrest := length_merge_le (put e.1 e.2 fields) rest
        rw [length_put_of_mem hknown] at hrest
        omega
      · rw [put_of_not_mem hknown]
        have hne : name ≠ e.1 := by
          rintro rfl
          exact hknown h
        have hlater : name ∈ rest.map Prod.fst := (List.mem_cons.mp hmore).resolve_left hne
        have hkept : name ∈ (fields ++ [(e.1, e.2)]).map Prod.fst := by
          rw [List.map_append]
          exact List.mem_append_left _ h
        have hrest := ih hkept hlater
        rw [List.length_append, List.length_singleton] at hrest
        omega

theorem length_merge_eq_iff (hnodup : (more.map Prod.fst).Nodup) :
    (merge fields more).length = fields.length + more.length ↔
      ∀ name ∈ more.map Prod.fst, name ∉ fields.map Prod.fst := by
  constructor
  · intro h name hmore hknown
    have hlt := length_merge_lt hknown hmore
    omega
  · intro h
    rw [merge_of_disjoint hnodup h, List.length_append]

/-- The fields that a form makes: the names with the lists of their texts. -/
def ofLists (form : List (String × List String)) : Fields :=
  form.map fun (name, texts) => (name, .list (texts.map .text))

theorem map_fst_ofLists (form : List (String × List String)) :
    (ofLists form).map Prod.fst = form.map Prod.fst := by
  rw [ofLists, List.map_map]
  rfl

end Fields

namespace Log

theorem cut_texts (texts : List String) :
    cut (.list (texts.map .text)) = .list ((texts.map cutText).map .text) := by
  have hcomp : cut ∘ Value.text = Value.text ∘ cutText := funext cut_text
  rw [cut_list, cutItems_eq_map, List.map_map, List.map_map, hcomp]

section Records

open Text (EndsLines IsLine linesBy)

variable {ends : Char → Bool} {form : List (String × List String)}

theorem isLine_shown_apply (hends : EndsLines ends) (e : Exposure) (texts : List String) :
    IsLine ends (e.apply (.list (texts.map .text))).shown := by
  cases e with
  | hidden =>
      have hredacted : IsLine ends redacted.shown := hends.isLine (by decide)
      exact hredacted
  | shortened =>
      have hcut : Exposure.shortened.apply (.list (texts.map .text)) =
          .list ((texts.map cutText).map .text) := cut_texts texts
      rw [hcut]
      exact Value.isLine_shown_texts hends _
  | whole => exact Value.isLine_shown_texts hends texts

theorem isLine_shown_of_mem_sanitize (hends : EndsLines ends) :
    ∀ e ∈ sanitize (Fields.ofLists form), IsLine ends e.2.shown := by
  intro e he
  unfold sanitize Fields.ofLists at he
  rw [List.map_map, List.mem_map] at he
  obtain ⟨⟨name, texts⟩, -, rfl⟩ := he
  change IsLine ends ((exposure name).apply (.list (texts.map .text))).shown
  exact isLine_shown_apply hends (exposure name) texts

theorem map_fst_sanitize_ofLists (form : List (String × List String)) :
    (sanitize (Fields.ofLists form)).map Prod.fst = form.map Prod.fst := by
  rw [map_fst_sanitize, Fields.map_fst_ofLists]

/-- If the names of the parameters are single lines, the record has a line for each field that is left when
the parameters have taken the places of the method and the path. -/
theorem linesBy_httpRequest (hends : EndsLines ends) {component : Component}
    (hcomponent : IsLine ends component.title) {method path : String} (hmethod : IsLine ends method)
    (hpath : IsLine ends path) (hnames : ∀ name ∈ form.map Prod.fst, IsLine ends name) (now : Int) :
    linesBy ends
        (Message.httpRequest component (.text method) (.text path) (Fields.ofLists form) [] now).text =
      Message.requestLines component now (Fields.merge [("method", .text method), ("path", .text path)]
        (sanitize (Fields.ofLists form))) := by
  have hmethodName : IsLine ends "method" := hends.isLine (by decide)
  have hpathName : IsLine ends "path" := hends.isLine (by decide)
  rw [Message.text, Message.lines_httpRequest]
  apply Message.linesBy_requestLines hends hcomponent now
  intro e he
  rcases Fields.mem_merge he with hmem | hmem
  · rw [List.mem_cons, List.mem_singleton] at hmem
    rcases hmem with rfl | rfl
    · exact ⟨hmethodName, hmethod⟩
    · exact ⟨hpathName, hpath⟩
  · have hname : e.1 ∈ form.map Prod.fst := by
      rw [← map_fst_sanitize_ofLists]
      exact List.mem_map_of_mem hmem
    exact ⟨hnames e.1 hname, isLine_shown_of_mem_sanitize hends e hmem⟩

/-- The record on a request has a header, a line for the type, one line each for the method, the path and
every parameter, and a separator, if and only if no line ends within the name of the component, the method, the
path or the name of a parameter, and no parameter has the name of the method or of the path. The values of the
parameters do not matter, nor which line boundaries are taken for the ends of lines besides the line feed. -/
theorem record_shows_request_iff (hends : EndsLines ends) (hform : (form.map Prod.fst).Nodup)
    (component : Component) (method path : String) (now : Int) :
    linesBy ends
        (Message.httpRequest component (.text method) (.text path) (Fields.ofLists form) [] now).text =
      Message.requestLines component now
        ([("method", .text method), ("path", .text path)] ++ sanitize (Fields.ofLists form)) ↔
    (IsLine ends component.title ∧ IsLine ends method ∧ IsLine ends path) ∧
      ∀ name ∈ form.map Prod.fst, name ≠ "method" ∧ name ≠ "path" ∧ IsLine ends name := by
  have hnames := map_fst_sanitize_ofLists form
  have hnodup : ((sanitize (Fields.ofLists form)).map Prod.fst).Nodup := by
    rw [hnames]
    exact hform
  constructor
  · intro h
    obtain ⟨hcomponent, hfields⟩ := Message.isLine_of_linesBy_eq hends h
    have hmethod : IsLine ends method := (hfields ("method", .text method) List.mem_cons_self).2
    have hpath : IsLine ends path :=
      (hfields ("path", .text path) (List.mem_cons_of_mem _ List.mem_cons_self)).2
    have hsingle : ∀ name ∈ form.map Prod.fst, IsLine ends name := by
      intro name hname
      rw [← hnames] at hname
      obtain ⟨e, he, rfl⟩ := List.mem_map.mp hname
      exact (hfields e (List.mem_append_right _ he)).1
    -- Both sides have a line for each field, so that no field has taken the place of another one.
    have hlines := linesBy_httpRequest hends hcomponent hmethod hpath hsingle now
    have hlength := congrArg List.length (hlines.symm.trans h)
    rw [Message.length_requestLines, Message.length_requestLines, Nat.add_right_cancel_iff,
      List.length_append, Fields.length_merge_eq_iff hnodup, hnames] at hlength
    refine ⟨⟨hcomponent, hmethod, hpath⟩, ?_⟩
    intro name hname
    have hother : name ∉ ["method", "path"] := hlength name hname
    rw [List.mem_cons, List.mem_singleton, not_or] at hother
    exact ⟨hother.1, hother.2, hsingle name hname⟩
  · rintro ⟨⟨hcomponent, hmethod, hpath⟩, h⟩
    have hsingle : ∀ name ∈ form.map Prod.fst, IsLine ends name := fun name hname => (h name hname).2.2
    have hnew : ∀ name ∈ (sanitize (Fields.ofLists form)).map Prod.fst,
        name ∉ [("method", Value.text method), ("path", .text path)].map Prod.fst := by
      intro name hname
      rw [hnames] at hname
      simp [(h name hname).1, (h name hname).2.1]
    rw [linesBy_httpRequest hends hcomponent hmethod hpath hsingle now, Fields.merge_of_disjoint hnodup hnew]

theorem endsLines_newline : EndsLines (· == '\n') where
  newline := rfl
  boundary := by
    intro c h
    rw [beq_iff_eq.mp h]
    decide

theorem endsLines_lineBoundaries : EndsLines Text.lineBoundaries.contains :=
  ⟨rfl, fun _ h => List.contains_iff_mem.mp h⟩

/-- Parameters with line boundaries and quotes in their values, a redacted one and one without values. The
names have an escape sequence, a colon and nothing at all in them. -/
def oddForm : List (String × List String) :=
  [("\x1b[0m path: /", ["a\nb", "\u2028'\""]), ("client_secret", ["\r\n"]), ("", []),
   ("code", ["\x1c23456789012"])]

/-- The record on a request with these parameters has the lines that it should have. -/
theorem oddForm_shown :
    EndsLines Text.lineBoundaries.contains ∧ (oddForm.map Prod.fst).Nodup ∧
    linesBy Text.lineBoundaries.contains (Message.httpRequest .tokenEndpoint (.text "POST")
        (.text "/oauth2/token") (Fields.ofLists oddForm) [] 0).text =
      Message.requestLines .tokenEndpoint 0
        ([("method", .text "POST"), ("path", .text "/oauth2/token")] ++
          sanitize (Fields.ofLists oddForm)) := by
  have hnodup : (oddForm.map Prod.fst).Nodup := by decide
  have hshown := record_shows_request_iff endsLines_lineBoundaries hnodup .tokenEndpoint "POST" "/oauth2/token" 0
  exact ⟨endsLines_lineBoundaries, hnodup, hshown.mpr (by decide +kernel)⟩

/-- A parameter can take the place of the method, which is then in no line of the record, and a name can make
lines of its own. -/
theorem record_forged :
    Message.fieldLine "method" (.text "POST") ∉
      linesBy (· == '\n') (Message.httpRequest .tokenEndpoint (.text "POST") (.text "/oauth2/token")
        (Fields.ofLists [("method", ["GET"])]) [] 0).text ∧
    linesBy (· == '\n') (Message.httpRequest .tokenEndpoint (.text "POST") (.text "/oauth2/token")
        (Fields.ofLists [("a\nb", ["c"])]) [] 0).text ≠
      Message.requestLines .tokenEndpoint 0
        ([("method", .text "POST"), ("path", .text "/oauth2/token")] ++
          sanitize (Fields.ofLists [("a\nb", ["c"])])) := by
  constructor
  · have hcomponent : IsLine (· == '\n') Component.tokenEndpoint.title := by decide +kernel
    have hmethod : IsLine (· == '\n') "POST" := by decide
    have hpath : IsLine (· == '\n') "/oauth2/token" := by decide
    rw [linesBy_httpRequest endsLines_newline hcomponent hmethod hpath (by decide), Message.mem_requestLines_iff]
    decide +kernel
  · intro h
    have hmem : ("a\nb", (exposure "a\nb").apply (.list [.text "c"])) ∈
        sanitize (Fields.ofLists [("a\nb", ["c"])]) := List.mem_cons_self
    have hname := (Message.isLine_of_linesBy_eq endsLines_newline h).2 _ (List.mem_append_right _ hmem)
    exact absurd hname.1 (by decide)

end Records
end Log
end OAuthGrant

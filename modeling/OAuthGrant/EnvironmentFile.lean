import OAuthGrant.Text.Blank
import OAuthGrant.Text.Case

/-!
# Environment files

A file of bindings such as `NAME=value`, one to a line. A value may stand between quotes, where it may
go over several lines and hold quotes that are escaped; without quotes it ends before a comment. A
reference to a variable within a value is replaced by what the variable stands for: by the last value
that the file has given it so far, or else by that of the environment. A line that is no binding is
passed over.
-/

namespace OAuthGrant.EnvironmentFile

/-- A name and its value; a name without an equals sign after it has none. -/
abbrev Binding := String × Option String

/-- A part of a file that has been read and what comes after it, or the place where reading stops. -/
abbrev Reading (α : Type) := Except (List Char) (α × List Char)

/-- Goes on after a part that has been read. -/
def Reading.andThen {α β : Type} (r : Reading α) (next : α → List Char → Reading β) : Reading β :=
  match r with
  | .ok (a, cs) => next a cs
  | .error place => .error place

/-- Every line break as a line feed. -/
def lines : List Char → List Char
  | '\r' :: '\n' :: rest => '\n' :: lines rest
  | '\r' :: rest => '\n' :: lines rest
  | c :: rest => c :: lines rest
  | [] => []

def isBlankInLine (c : Char) : Bool := Text.isBlank c && c ≠ '\n'

@[simp] theorem lines_nil : lines [] = [] := rfl

/-- Drops blanks within a line. -/
def skipBlanks (cs : List Char) : List Char := cs.dropWhile isBlankInLine

/-- Drops the rest of a line with its end. -/
def skipLine (cs : List Char) : List Char := (cs.dropWhile (· ≠ '\n')).drop 1

/-- Drops the word before a name that makes it known to other programs. -/
def skipExport (cs : List Char) : List Char :=
  let word := "export".toList
  let rest := cs.drop word.length
  if word.isPrefixOf cs && rest.head?.any isBlankInLine then skipBlanks rest else cs

/-- A name, which may stand between single quotes; there is none before a comment. -/
def name (cs : List Char) : Reading (Option String) :=
  match cs with
  | '#' :: _ => .ok (none, cs)
  | '\'' :: rest =>
    let text := rest.takeWhile (· ≠ '\'')
    match rest.dropWhile (· ≠ '\'') with
    | _ :: after => if text = [] then .error cs else .ok (some (String.ofList text), after)
    | [] => .error cs
  | _ =>
    let inName := fun c : Char => !(c = '=' || c = '#' || Text.isBlank c)
    let text := cs.takeWhile inName
    if text = [] then .error cs else .ok (some (String.ofList text), cs.dropWhile inName)

/-- The text up to the quote that ends it and what comes after that. A backslash keeps the character
after it from ending the text. `read` is the text so far in reverse. -/
def quotedText? (quote : Char) (read : List Char) : List Char → Option (List Char × List Char)
  | [] => none
  | '\\' :: c :: cs => quotedText? quote (c :: '\\' :: read) cs
  | c :: cs => if c = quote then some (read.reverse, cs) else quotedText? quote (c :: read) cs

/-- Resolves escapes by a table; a backslash before any other character stands for itself. -/
def resolveEscapes (escapes : List (Char × Char)) : List Char → List Char
  | '\\' :: c :: rest =>
    match escapes.lookup c with
    | some d => d :: resolveEscapes escapes rest
    | none => '\\' :: resolveEscapes escapes (c :: rest)
  | c :: rest => c :: resolveEscapes escapes rest
  | [] => []

def singleEscapes : List (Char × Char) := [('\\', '\\'), ('\'', '\'')]

def doubleEscapes : List (Char × Char) :=
  [('\\', '\\'), ('\'', '\''), ('"', '"'), ('a', '\x07'), ('b', '\x08'), ('f', '\x0c'), ('n', '\n'),
   ('r', '\r'), ('t', '\t'), ('v', '\x0b')]

/-- A text up to a number sign after a blank. -/
def uncommented : List Char → List Char
  | [] => []
  | c :: cs => if Text.isBlank c && cs.head? = some '#' then [] else c :: uncommented cs

/-- What comes after an equals sign. -/
def value (cs : List Char) : Reading String :=
  let quoted := fun quote escapes rest =>
    match quotedText? quote [] rest with
    | some (text, after) => .ok (String.ofList (resolveEscapes escapes text), after)
    | none => .error (skipBlanks cs)
  match skipBlanks cs with
  | '\'' :: rest => quoted '\'' singleEscapes rest
  | '"' :: rest => quoted '"' doubleEscapes rest
  | _ =>
    .ok (String.ofList (Text.trim Text.isBlank (uncommented (cs.takeWhile (· ≠ '\n')))),
      cs.dropWhile (· ≠ '\n'))

/-- The value after a name, if there is an equals sign. -/
def assigned (cs : List Char) : Reading (Option String) :=
  match skipBlanks cs with
  | '=' :: rest => Reading.andThen (value rest) fun text after => .ok (some text, after)
  | rest => .ok (none, rest)

def lineEnd (cs : List Char) : Reading Unit :=
  let rest := skipBlanks cs
  let rest := if rest.head? = some '#' then rest.dropWhile (· ≠ '\n') else rest
  match rest with
  | [] => .ok ((), [])
  | c :: after => if c = '\n' then .ok ((), after) else .error rest

def line (cs : List Char) : Reading (Option Binding) :=
  Reading.andThen (name (skipExport cs)) fun name cs =>
    Reading.andThen (assigned cs) fun value cs =>
      Reading.andThen (lineEnd cs) fun _ cs => .ok (name.map (·, value), cs)

/-- The bindings of a text of fewer than `fuel` characters. -/
def bindingsWithin (fuel : Nat) (cs : List Char) : List Binding :=
  match fuel, cs.dropWhile Text.isBlank with
  | fuel + 1, c :: rest =>
    match line (c :: rest) with
    | .ok (some binding, after) => binding :: bindingsWithin fuel after
    | .ok (none, after) => bindingsWithin fuel after
    | .error place => bindingsWithin fuel (skipLine place)
  | _, _ => []

/-- A text without the mark that may stand at the start of a file. -/
def unmarked (cs : List Char) : List Char :=
  if cs.head? = some '\ufeff' then cs.drop 1 else cs

def bindings (text : String) : List Binding :=
  let cs := lines (unmarked text.toList)
  bindingsWithin (cs.length + 1) cs

/-- What stands in a reference after its opening brace: a name, and after `:-` what stands in for a
variable that is not known. -/
def reference? (cs : List Char) : Option ((String × String) × List Char) :=
  let inName := fun c : Char => c ≠ '\x7d' && c ≠ ':'
  let name := String.ofList (cs.takeWhile inName)
  match cs.dropWhile inName with
  | '\x7d' :: rest => some ((name, ""), rest)
  | ':' :: '-' :: rest =>
    match rest.dropWhile (· ≠ '\x7d') with
    | _ :: after => some ((name, String.ofList (rest.takeWhile (· ≠ '\x7d'))), after)
    | [] => none
  | _ => none

/-- Replaces the references in a text of fewer than `fuel` characters. -/
def replaceWithin (known : String → Option String) (fuel : Nat) (cs : List Char) : List Char :=
  match fuel, cs with
  | fuel + 1, '$' :: '\x7b' :: rest =>
    match reference? rest with
    | some ((name, default), after) =>
      ((known name).getD default).toList ++ replaceWithin known fuel after
    | none => '$' :: replaceWithin known fuel ('\x7b' :: rest)
  | fuel + 1, c :: rest => c :: replaceWithin known fuel rest
  | _, _ => []

def replaceReferences (known : String → Option String) (text : String) : String :=
  String.ofList (replaceWithin known (text.toList.length + 1) text.toList)

/-- What a name stands for: what has been bound, which may be nothing, or else a variable of the
environment. -/
def meaning? (environment : List (String × String)) (bound : List Binding) (name : String) :
    Option String :=
  match bound.lookup name with
  | some value => some (value.getD "")
  | none => environment.lookup name

/-- Binds a name: a name already bound keeps its place, a new one comes last. -/
def bind (name : String) (value : Option String) : List Binding → List Binding
  | [] => [(name, value)]
  | b :: rest => if b.1 = name then (name, value) :: rest else b :: bind name value rest

theorem lookup_bind_self (name : String) (value : Option String) (bound : List Binding) :
    (bind name value bound).lookup name = some value := by
  induction bound with
  | nil => simp [bind]
  | cons b rest ih =>
    rw [bind]
    split
    · simp
    · next h =>
      have h' : (name == b.1) = false := by simpa using Ne.symm h
      rw [List.lookup_cons, h']
      exact ih

/-- Binds names in order, with all references replaced. -/
def resolve (environment : List (String × String)) (bindings : List Binding) : List Binding :=
  bindings.foldl (fun bound b =>
    bind b.1 (b.2.map (replaceReferences (meaning? environment bound))) bound) []

/-- The variables that a file sets, by their names in lower case. Of the names that agree in lower case
the one that comes last counts, even if it has no value. -/
def exports (environment : List (String × String)) (text : String) : List (String × String) :=
  let bound := (resolve environment (bindings text)).map fun b => (Text.lower b.1, b.2)
  let last := bound.foldl (fun kept b => bind b.1 b.2 kept) []
  last.filterMap fun b => b.2.map (b.1, ·)

end OAuthGrant.EnvironmentFile

import OAuthGrant.Value.Show

/-!
# Values as JSON text

`Value.json` is the compact text of a value: no blanks, characters outside ASCII as they are, and
the control characters, the quote and the backslash escaped. It is the text of a body only if the value
can be written (`Value.isWritable`). `Value.ofJson?` reads JSON text back;
numbers with a fraction or an exponent are read as floating point numbers, all others as integers,
a surrogate without a partner is kept, and the entries of a dictionary keep their order.
-/

namespace OAuthGrant
open Decimal (Binary64)

namespace Value

def jsonChar (c : Char) : List Char :=
  if c = '"' then ['\\', '"']
  else if c = '\\' then ['\\', '\\']
  else if c = '\n' then ['\\', 'n']
  else if c = '\r' then ['\\', 'r']
  else if c = '\t' then ['\\', 't']
  else if c.toNat = 8 then ['\\', 'b']
  else if c.toNat = 12 then ['\\', 'f']
  else if c.toNat < 0x20 then '\\' :: 'u' :: Text.hex 4 c.toNat
  else [c]

def jsonText (s : String) : String :=
  String.ofList ('"' :: s.toList.flatMap jsonChar ++ ['"'])

mutual

/-- The compact JSON text of a value. A number without a finite value and a value from outside the
format have none and count as null. -/
def json : Value → String
  | null => "null"
  | bool b => if b then "true" else "false"
  | int n => toString n
  | float x => if x.isFinite then shownFloat x else "null"
  | text s => jsonText s
  | list items => "[" ++ ",".intercalate (jsonItems items) ++ "]"
  | object fields => "\x7b" ++ ",".intercalate (jsonFields fields) ++ "\x7d"
  | foreign _ _ => "null"

def jsonItems : List Value → List String
  | [] => []
  | v :: rest => v.json :: jsonItems rest

def jsonFields : List (String × Value) → List String
  | [] => []
  | (name, v) :: rest => (jsonText name ++ ":" ++ v.json) :: jsonFields rest

end

namespace JsonText

def skipSpace (cs : List Char) : List Char :=
  cs.dropWhile fun c => c = ' ' || c = '\n' || c = '\r' || c = '\t'

/-- Four hexadecimal digits. -/
def hex4? : List Char → Option (Nat × List Char)
  | a :: b :: c :: d :: rest => do
    let a ← Text.hexValue? a
    let b ← Text.hexValue? b
    let c ← Text.hexValue? c
    let d ← Text.hexValue? d
    some (((a * 16 + b) * 16 + c) * 16 + d, rest)
  | _ => none

/-- A code point after `\u`: two surrogates make one character. -/
def codePoint? (cs : List Char) : Option (Char × List Char) := do
  let (high, rest) ← hex4? cs
  match rest with
  | '\\' :: 'u' :: more =>
    match hex4? more with
    | some (low, rest') =>
      if 0xD800 ≤ high && high < 0xDC00 && 0xDC00 ≤ low && low < 0xE000 then
        some (Char.ofNat (0x10000 + (high - 0xD800) * 1024 + (low - 0xDC00)), rest')
      else (Text.ofCodePoint? high).map (·, rest)
    | none => (Text.ofCodePoint? high).map (·, rest)
  | _ => (Text.ofCodePoint? high).map (·, rest)

/-- The rest of a text after its opening quote, with the characters read so far reversed. -/
def text? (fuel : Nat) (read : List Char) (cs : List Char) : Option (String × List Char) :=
  match fuel, cs with
  | _ + 1, '"' :: rest => some (String.ofList read.reverse, rest)
  | fuel + 1, '\\' :: 'u' :: rest => do
    let (c, rest) ← codePoint? rest
    text? fuel (c :: read) rest
  | fuel + 1, '\\' :: c :: rest =>
    match c with
    | 'n' => text? fuel ('\n' :: read) rest
    | 'r' => text? fuel ('\r' :: read) rest
    | 't' => text? fuel ('\t' :: read) rest
    | 'b' => text? fuel (Char.ofNat 8 :: read) rest
    | 'f' => text? fuel (Char.ofNat 12 :: read) rest
    | _ => text? fuel (c :: read) rest
  | fuel + 1, c :: rest => text? fuel (c :: read) rest
  | _, _ => none

def digitsValue (cs : List Char) : Nat := cs.foldl (fun n c => 10 * n + (c.toNat - 48)) 0

/-- A number, with its sign. -/
def number? (cs : List Char) : Option (Value × List Char) :=
  let (negative, cs) := match cs with
    | '-' :: rest => (true, rest)
    | _ => (false, cs)
  let (whole, rest) := cs.span Char.isDigit
  let (fraction, rest) := match rest with
    | '.' :: more => let (f, r) := more.span Char.isDigit; (some f, r)
    | _ => (none, rest)
  let (exponent, rest) : Option Int × List Char := match rest with
    | e :: more =>
      if e = 'e' || e = 'E' then
        let (down, more) := match more with
          | '-' :: r => (true, r)
          | '+' :: r => (false, r)
          | _ => (false, more)
        let (ds, r) := more.span Char.isDigit
        (some (if down then -(digitsValue ds : Int) else digitsValue ds), r)
      else (none, rest)
    | [] => (none, rest)
  if whole = [] then none
  else if fraction = none && exponent = none then
    some (int (if negative then -(digitsValue whole : Int) else digitsValue whole), rest)
  else
    let f := fraction.getD []
    some (float (.ofDecimal negative (digitsValue (whole ++ f)) (exponent.getD 0 - f.length)), rest)

mutual

def value? (fuel : Nat) (cs : List Char) : Option (Value × List Char) :=
  match fuel with
  | 0 => none
  | fuel + 1 =>
    match skipSpace cs with
    | 'n' :: 'u' :: 'l' :: 'l' :: rest => some (null, rest)
    | 't' :: 'r' :: 'u' :: 'e' :: rest => some (bool true, rest)
    | 'f' :: 'a' :: 'l' :: 's' :: 'e' :: rest => some (bool false, rest)
    | '"' :: rest => (text? (rest.length + 1) [] rest).map fun (s, r) => (text s, r)
    | '[' :: rest =>
      match skipSpace rest with
      | ']' :: r => some (list [], r)
      | r => (items? fuel r).map fun (vs, r) => (list vs, r)
    | '\x7b' :: rest =>
      match skipSpace rest with
      | '\x7d' :: r => some (object [], r)
      | r => (fields? fuel r).map fun (fs, r) => (object fs, r)
    | cs => number? cs

def items? (fuel : Nat) (cs : List Char) : Option (List Value × List Char) :=
  match fuel with
  | 0 => none
  | fuel + 1 => do
    let (v, rest) ← value? fuel cs
    match skipSpace rest with
    | ',' :: r =>
      let (vs, r) ← items? fuel r
      some (v :: vs, r)
    | ']' :: r => some ([v], r)
    | _ => none

/-- The entries of a dictionary up to its closing brace. -/
def fields? (fuel : Nat) (cs : List Char) : Option (List (String × Value) × List Char) :=
  match fuel with
  | 0 => none
  | fuel + 1 =>
    match skipSpace cs with
    | '"' :: rest => do
      let (name, rest) ← text? (rest.length + 1) [] rest
      match skipSpace rest with
      | ':' :: rest =>
        let (v, rest) ← value? fuel rest
        match skipSpace rest with
        | ',' :: r =>
          let (fs, r) ← fields? fuel r
          some ((name, v) :: fs, r)
        | '\x7d' :: r => some ([(name, v)], r)
        | _ => none
      | _ => none
    | _ => none

end

end JsonText

/-- Reads JSON text that holds one value and nothing after it. -/
def ofJson? (s : String) : Option Value :=
  let cs := s.toList
  match JsonText.value? (cs.length + 1) cs with
  | some (v, rest) => if JsonText.skipSpace rest = [] then some v else none
  | none => none

end Value
end OAuthGrant

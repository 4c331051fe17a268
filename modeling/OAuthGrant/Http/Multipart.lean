import OAuthGrant.Failure
import OAuthGrant.Http.Options
import OAuthGrant.Text.Encoding

/-!
# Forms of several parts

The body of such a form is a sequence of parts between delimiter lines, each with headers of its own.
A part with a file name is a file and is known by its description only. What has been read when the
body ends too early counts; a part that is not complete is dropped. A body arrives in chunks, which
matters for what stands before its first delimiter only. Boundaries, headers and parts are limited in
size, and so is the number of headers of a part.
-/

namespace OAuthGrant.Http.Multipart

abbrev Bytes := List UInt8

def cr : UInt8 := 13
def lf : UInt8 := 10
def tab : UInt8 := 9
def space : UInt8 := 32
def hyphen : UInt8 := 45
def colon : UInt8 := 58

/-- The largest number of bytes of a boundary. -/
def maxBoundarySize : Nat := 256

/-- The largest number of headers of a part. -/
def maxHeaders : Nat := 8

/-- The largest number of bytes of a header. -/
def maxHeaderSize : Nat := 4224

/-- Why reading stops: the body ends, or it is not a form. -/
inductive Stop where
  | ended
  | fault (fault : FormFault)
  deriving DecidableEq, Repr

/-- Bytes that must come next. -/
def expect : Bytes → Bytes → Except Stop Bytes
  | [], rest => .ok rest
  | _ :: _, [] => .error .ended
  | e :: es, b :: bs => if e = b then expect es bs else .error (.fault .malformed)

@[simp] theorem expect_append (es rest : Bytes) : expect es (es ++ rest) = .ok rest := by
  induction es with
  | nil => rfl
  | cons e es ih => simpa [expect] using ih

def isTokenByte (b : UInt8) : Bool :=
  let c := Char.ofNat b.toNat
  c.isAlphanum || "!#$%&'*+-.^_`|~".toList.contains c

def header (bytes : Bytes) : Except Stop ((String × Bytes) × Bytes) :=
  let name := bytes.takeWhile isTokenByte
  if maxHeaderSize < (bytes.takeWhile (· ≠ cr)).length then .error (.fault .malformed)
  else match bytes.dropWhile isTokenByte with
  | [] => .error .ended
  | b :: rest =>
    if b ≠ colon || name = [] then .error (.fault .malformed)
    else do
      let rest := rest.dropWhile (· = space)
      let after ← expect [cr, lf] (rest.dropWhile (· ≠ cr))
      .ok ((Text.lowerAscii (String.ofList (Text.latin1 name)), rest.takeWhile (· ≠ cr)), after)

/-- The headers of a part up to the empty line after them; there may be `room` of them. -/
def headers (room : Nat) (bytes : Bytes) : Except Stop (List (String × Bytes) × Bytes) :=
  match bytes with
  | [] => .error .ended
  | b :: rest =>
    if b = cr then do .ok ([], ← expect [lf] rest)
    else match room with
      | 0 => .error (.fault .malformed)
      | room + 1 => do
        let (h, rest) ← header (b :: rest)
        let (hs, rest) ← headers room rest
        .ok (h :: hs, rest)

/-- Bytes that may stand between the mark of a delimiter and the end of its line. -/
def isPadding (b : UInt8) : Bool := b = space || b = tab

/-- Where reading stands in the data of a part: within the mark of a delimiter, of which `rest` has not
been seen, after it, after padding, after the first of the two bytes that end a line, or after the first
of the two hyphens that make a delimiter the last one. -/
inductive Stand where
  | data
  | mark (rest : Bytes)
  | marked
  | padded
  | lineEnd (padded : Bool)
  | last
  deriving DecidableEq, Repr

/-- The data of a part so far, and what may belong to a delimiter or else to the data; both are in
reverse. -/
structure Scan where
  stand : Stand := .data
  read : Bytes := []
  held : Bytes := []

inductive Step where
  | next (scan : Scan)
  | delimiter (last : Bool)
  | malformed

/-- Goes on after a byte that belongs to no delimiter that has been started; it may start one itself if
`canStart` says so. -/
def Scan.fresh (mark : Bytes) (canStart : Bool) (b : UInt8) (s : Scan) : Scan :=
  let read := s.held ++ s.read
  if canStart && mark.head? = some b then ⟨.mark mark.tail, read, [b]⟩ else ⟨.data, b :: read, []⟩

/-- One byte further. Two hyphens after a mark make the delimiter the last one, the end of the line
makes it one before another part, and anything else makes it data; but after padding only the end of the
line may follow. -/
def Scan.step (mark : Bytes) (canStart : Bool) (b : UInt8) (s : Scan) : Step :=
  let fresh : Step := .next (s.fresh mark canStart b)
  let hold := fun stand => Step.next { s with stand, held := b :: s.held }
  match s.stand with
  | .data => fresh
  | .mark [] => fresh
  | .mark (m :: rest) =>
    if b = m then hold (if rest = [] then .marked else .mark rest) else fresh
  | .marked =>
    if b = cr then hold (.lineEnd false)
    else if b = hyphen then hold .last
    else if isPadding b then hold .padded
    else fresh
  | .padded =>
    if b = cr then hold (.lineEnd true) else if isPadding b then hold .padded else .malformed
  | .lineEnd padded => if b = lf then .delimiter false else if padded then .malformed else fresh
  | .last => if b = hyphen then .delimiter true else fresh

/-- Whether a mark may start with the first of some bytes, of which `room` are left in their chunk.
Within a chunk a mark counts as a whole only. Near the end of the chunk it may go on in the next one, if
no other line break is begun after it. -/
def canStart (mark : Bytes) (room : Nat) (bytes : Bytes) : Bool :=
  if mark.length < room then mark.isPrefixOf bytes
  else mark.isPrefixOf (bytes.take room) || !((bytes.take room).drop 1).contains cr

/-- The data of a part up to the delimiter after it, and whether that is the last one and what comes
after it. `size` is the number of bytes, and `breaks` has the numbers of bytes after the ends of the
chunks, the large ones first. -/
def dataUntil (mark : Bytes) (breaks : List Nat) (s : Scan) (size : Nat) :
    Bytes → Bytes × Except Stop (Bool × Bytes)
  | [] => (s.read.reverse, .error .ended)
  | b :: bs =>
    let breaks := breaks.dropWhile (size ≤ ·)
    let room := size - breaks.headD 0
    match s.step mark (canStart mark room (b :: bs)) b with
    | .next s => dataUntil mark breaks s (size - 1) bs
    | .delimiter last => (s.read.reverse, .ok (last, bs))
    | .malformed => (s.read.reverse, .error (.fault .malformed))

def bytesOf (s : String) : Bytes := s.toList.map fun c => UInt8.ofNat c.toNat

/-- The last component of a file name with the path of a drive or a share before it. -/
def fileName (s : String) : String :=
  let cs := s.toList
  if (cs.drop 1).take 2 = [':', '\\'] || cs.take 2 = ['\\', '\\'] then
    String.ofList (cs.reverse.takeWhile (· ≠ '\\')).reverse
  else s

/-- How the headers of a file are described: as a dictionary, or as pairs if a name is repeated. -/
def describeHeaders (hs : List (String × Bytes)) : String :=
  let names := hs.map Prod.fst
  if decide names.Nodup then
    "Headers(" ++
      (Value.object (hs.map fun h => (h.1, .text (String.ofList (Text.latin1 h.2))))).quoted ++ ")"
  else
    "Headers(raw=[" ++ ", ".intercalate (hs.map fun h =>
      "(" ++ Text.quoteBytes (bytesOf h.1) ++ ", " ++ Text.quoteBytes h.2 ++ ")") ++ "])"

def file (name : String) (hs : List (String × Bytes)) (data : Bytes) : Value :=
  .foreign "UploadFile"
    ("UploadFile(filename=" ++ Text.quote name ++ ", size=" ++ toString data.length ++
      ", headers=" ++ describeHeaders hs ++ ")")

def disposition (hs : List (String × Bytes)) : HeaderOptions :=
  match hs.reverse.lookup "content-disposition" with
  | some v => .ofText (String.ofList (Text.latin1 v))
  | none => ⟨"", []⟩

/-- Bytes as text in the encoding of a form. -/
def textIn (encoding : Text.Encoding) (bytes : Bytes) : Except FormFault String :=
  (encoding.read bytes).mapError .undecodable

/-- What the headers of a part tell: the name of its field, and that of its file if it is one. -/
structure Heading where
  name : String
  file? : Option String

/-- The heading of a part after `fields` fields and `files` files. -/
def heading (encoding : Text.Encoding) (fields files : Nat) (options : HeaderOptions) :
    Except FormFault Heading :=
  match options.find? "name" with
  | none => .error .noFieldName
  | some name => do
    let name ← textIn encoding (bytesOf name)
    match options.find? "filename" with
    | some fileName? =>
      if maxFiles ≤ files then .error .tooManyFiles
      else .ok ⟨name, some (← textIn encoding (bytesOf (fileName fileName?)))⟩
    | none => if maxFields ≤ fields then .error .tooManyFields else .ok ⟨name, none⟩

def value (encoding : Text.Encoding) (file? : Option String) (hs : List (String × Bytes))
    (data : Bytes) : Except FormFault Value :=
  match file? with
  | some name => .ok (file name hs data)
  | none => .text <$> textIn encoding data

/-- The rest of a form after a delimiter, when `fields` fields and `files` files have been read; there
are fewer than `fuel` parts. -/
def parts (encoding : Text.Encoding) (mark : Bytes) (breaks : List Nat) (fuel fields files : Nat)
    (bytes : Bytes) : Except FormFault (List (String × Value)) :=
  match fuel with
  | 0 => .ok []
  | fuel + 1 =>
    match headers maxHeaders bytes with
    | .error .ended => .ok []
    | .error (.fault f) => .error f
    | .ok (hs, rest) => do
      let ⟨name, file?⟩ ← heading encoding fields files (disposition hs)
      let (data, ending) := dataUntil mark breaks {} rest.length rest
      if file?.isNone && maxPartSize < data.length then .error .partTooLarge
      else match ending with
      | .error .ended => .ok []
      | .error (.fault f) => .error f
      | .ok (last, rest) =>
        let v ← value encoding file? hs data
        if last then .ok [(name, v)]
        else if file?.isSome then
          ((name, v) :: ·) <$> parts encoding mark breaks fuel fields (files + 1) rest
        else ((name, v) :: ·) <$> parts encoding mark breaks fuel (fields + 1) files rest

/-- A body without what stands before its first delimiter. As long as chunks start with a line break,
everything up to a hyphen is passed over, but a delimiter that does not follow a line break has to
stand at the start. -/
def afterPreamble : List Bytes → Bytes
  | [] => []
  | [] :: chunks => afterPreamble chunks
  | (b :: bs) :: chunks =>
    if b = cr || b = lf then
      match bs.dropWhile (· ≠ hyphen) with
      | [] => afterPreamble chunks
      | found => found ++ chunks.flatten
    else b :: bs ++ chunks.flatten

@[simp] theorem afterPreamble_nil : afterPreamble [] = [] := rfl

/-- A body that starts with a hyphen has nothing before its first delimiter. -/
theorem afterPreamble_hyphen (bytes : Bytes) (chunks : List Bytes) :
    afterPreamble ((hyphen :: bytes) :: chunks) = hyphen :: bytes ++ chunks.flatten := by
  simp [afterPreamble, hyphen, cr, lf]

/-- The numbers of bytes after each of several chunks. -/
def bytesAfter (chunks : List Bytes) : List Nat :=
  (chunks.foldr (fun chunk (after, size) => (size :: after, size + chunk.length)) ([], 0)).1

/-- The entries of a form with the given boundary, whose body has arrived in chunks. -/
def entries (encoding : Text.Encoding) (boundary : String) (chunks : List Bytes) :
    Except FormFault (List (String × Value)) :=
  let delimiter := [hyphen, hyphen] ++ bytesOf boundary
  if maxBoundarySize < boundary.length then .error .malformed
  else match expect delimiter (afterPreamble chunks) with
  | .error .ended => .ok []
  | .error (.fault f) => .error f
  | .ok [] => .ok []
  | .ok (b :: rest) =>
    if b = hyphen then
      match rest with
      | [] => .ok []
      | c :: _ => if c = hyphen then .ok [] else .error .malformed
    else match expect [cr, lf] (b :: rest) with
      | .error .ended => .ok []
      | .error (.fault f) => .error f
      | .ok rest =>
        parts encoding ([cr, lf] ++ delimiter) (bytesAfter chunks) (rest.length + 1) 0 0 rest

end OAuthGrant.Http.Multipart

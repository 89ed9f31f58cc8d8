import ConvLab.Json.Number
import ConvLab.Json.Skip
import ConvLab.Json.Writer
import ConvLab.Scalar.Single

/-!
# Reading JSON

A reader takes a value of a known type off the front of a text.  The text is read from left to
right and the first problem decides; in particular a value of the wrong type is itself read far
enough to be named in the report.

* `JsonReader.string`, `JsonReader.boolean`, `JsonReader.single`, … — scalars;
* `JsonReader.sequence` — a list of values;
* `JsonReader.choice` — one of several names, written as a text or as the only key of an object;
* `Record.read` — a record, written as an object in any order of its fields, or as an array in
  their order;
* `JsonReader.parse` — a value that is the whole of a text;
* `TextLayer.json` — the text layer of these readers and of compact texts.
-/

namespace ConvLab

/-- Takes a value off the front of a text. -/
abbrev JsonReader := StateT (List Char) (Except JsonError)

namespace JsonReader

variable {α β σ : Type}

def refuse (cause : Mismatch) : JsonReader α := throw (.mismatch cause)

/-- Passes over blanks and looks at the character after them. -/
def peek : JsonReader Char := fun cs => do
  let (c, rest) ← visible cs
  return (c, c :: rest)

def advance : JsonReader Unit := modify List.tail

def word (w : List Char) : JsonReader Unit := fun cs => do return ((), ← skipWord w cs)

def text : JsonReader String := readText

def number (negative : Bool) : JsonReader Number := readNumber negative

/-- The report's name for a number. -/
def foundNumber : Number → Found
  | .natural n => .integer n
  | .negative n => .integer n
  | .float x => .float x

/-- Whatever value stands next. -/
def found : JsonReader Found := do
  match ← peek with
  | 'n' => advance; word ['u', 'l', 'l']; return .null
  | 't' => advance; word ['r', 'u', 'e']; return .boolean true
  | 'f' => advance; word ['a', 'l', 's', 'e']; return .boolean false
  | '"' => advance; return .text (← text)
  | '-' => advance; return foundNumber (← number true)
  | '[' => return .sequence
  | '{' => return .map
  | c => if c.isDigit then return foundNumber (← number false) else throw .malformed

/-- Fails because the value that stands next is not of the expected type. -/
def mistyped (expected : String) : JsonReader α := do
  refuse (.invalidType (← found) expected)

def string : JsonReader String := do
  match ← peek with
  | '"' => advance; text
  | _ => mistyped "a string"

def boolean : JsonReader Bool := do
  match ← peek with
  | 't' => advance; word ['r', 'u', 'e']; return true
  | 'f' => advance; word ['a', 'l', 's', 'e']; return false
  | _ => mistyped "a boolean"

/-- A number that `accept` takes. -/
def numeric (expected : String) (accept : Number → Except Mismatch α) : JsonReader α := do
  let n ← match ← peek with
    | '-' => advance; number true
    | c => if c.isDigit then number false else mistyped expected
  match accept n with
  | .ok a => return a
  | .error cause => refuse cause

/-- An integer that `accept` takes. -/
def integer (expected : String) (accept : Int → Option α) : JsonReader α :=
  numeric expected fun n =>
    let check (value : Int) : Except Mismatch α :=
      match accept value with
      | some a => .ok a
      | none => .error (.invalidValue (.integer value) expected)
    match n with
    | .natural value => check value
    | .negative value => check value
    | .float value => .error (.invalidType (.float value) expected)

def unsigned32 : JsonReader UInt32 := integer "u32" fun value =>
  if 0 ≤ value ∧ value < 0x100000000 then some (UInt32.ofNat value.toNat) else none

def signed64 : JsonReader Int64 := integer "i64" fun value =>
  if -0x8000000000000000 ≤ value ∧ value < 0x8000000000000000 then some (Int64.ofInt value)
  else none

/-- A single-precision float.  A double is rounded to it. -/
def single : JsonReader Float32 := numeric "f32" fun
  | .natural value => .ok (Single.ofInt value)
  | .negative value => .ok (Single.ofInt value)
  | .float value => .ok (Single.ofDouble value)

/-- Whether a sequence goes on, `first` telling whether nothing has been read of it yet. -/
def hasElement (first : Bool) : JsonReader Bool := do
  match ← peek with
  | ']' => return false
  | c =>
      if first then
        return true
      else if c = ',' then
        advance
        if (← peek) = ']' then throw .malformed else return true
      else
        throw .malformed

/-- The elements of a sequence, of which there are fewer than `fuel`. -/
def elements (read : JsonReader α) : (fuel : Nat) → (first : Bool) → JsonReader (List α)
  | 0, _ => throw .malformed
  | fuel + 1, first => do
      if ← hasElement first then
        let a ← read
        return a :: (← elements read fuel false)
      else
        return []

/-- The end of a sequence, when no further element is wanted. -/
def endSequence : JsonReader Unit := do
  if (← peek) = ']' then advance else throw .malformed

def sequence (read : JsonReader α) : JsonReader (List α) := do
  match ← peek with
  | '[' => do
      advance
      let as ← elements read ((← get).length + 1) true
      endSequence
      return as
  | _ => mistyped "a sequence"

def colon : JsonReader Unit := do
  if (← peek) = ':' then advance else throw .malformed

/-- A name among the names of the given values.  It is a text; as the key of an object it can be
nothing else, so that another value in its place is malformed rather than mistyped. -/
def variant (name : α → String) (values : List α) : JsonReader α := do
  let written ← match ← peek with
    | '"' => advance; text
    | _ => throw .malformed
  match values.find? (name · = written) with
  | some a => return a
  | none => refuse (.unknownVariant written (values.map name))

/-- The value `null`. -/
def unit : JsonReader Unit := do
  match ← peek with
  | 'n' => advance; word ['u', 'l', 'l']
  | _ => mistyped "unit"

/-- One of the given values by its name, as a text or as the only key of an object that maps it
to `null`. -/
def choice (name : α → String) (values : List α) : JsonReader α := do
  match ← peek with
  | '"' => variant name values
  | '{' => do
      advance
      let a ← variant name values
      colon
      unit
      if (← peek) = '}' then advance else throw .malformed
      return a
  | _ => throw .malformed

/-- Whether an object goes on, `first` telling whether nothing has been read of it yet.  If it
does, its next key stands next. -/
def hasMember (first : Bool) : JsonReader Bool := do
  match ← peek with
  | '}' => return false
  | c =>
      if first then
        if c = '"' then return true else throw .malformed
      else if c = ',' then
        advance
        if (← peek) = '"' then return true else throw .malformed
      else
        throw .malformed

/-- Passes over any value. -/
def ignored : JsonReader Unit := fun cs => do return ((), ← skipValue (cs.length + 1) [] cs)

/-- The value that a reader finds in a text, which must hold nothing else. -/
def parse (read : JsonReader α) (source : String) : Except JsonError α := do
  let (a, rest) ← read source.toList
  if rest.all isBlank then return a else throw .malformed

end JsonReader

namespace Record

variable {α σ : Type}

/-- The fields of a record that is written as an array, from the given position on. -/
def readElements (r : Record JsonReader σ α) :
    (position : Nat) → List (Field JsonReader σ) → (first : Bool) → σ → JsonReader σ
  | _, [], _, draft => return draft
  | position, field :: fields, first, draft => do
      if ← JsonReader.hasElement first then
        readElements r (position + 1) fields false (field.set draft (← field.read))
      else if field.hasDefault then
        readElements r (position + 1) fields first draft
      else
        JsonReader.refuse
          (.invalidLength position s!"struct {r.name} with {r.fields.length} elements")

/-- The next field of a record that is written as an object.  A field of no known name is passed
over. -/
def readMember (r : Record JsonReader σ α) (draft : σ) : JsonReader σ := do
  JsonReader.advance
  let key ← JsonReader.text
  match r.fields.find? (·.name = key) with
  | some field =>
      if (field.get draft).isSome then
        JsonReader.refuse (.duplicateField field.name)
      else do
        JsonReader.colon
        return field.set draft (← field.read)
  | none => do
      JsonReader.colon
      JsonReader.ignored
      return draft

/-- The fields of a record that is written as an object, of which there are fewer than `fuel`. -/
def readMembers (r : Record JsonReader σ α) : (fuel : Nat) → (first : Bool) → σ → JsonReader σ
  | 0, _, _ => throw .malformed
  | fuel + 1, first, draft => do
      if ← JsonReader.hasMember first then
        readMembers r fuel false (← r.readMember draft)
      else
        JsonReader.advance
        return draft

def complete (r : Record JsonReader σ α) (draft : σ) : JsonReader α :=
  match r.finish draft with
  | .ok a => return a
  | .error cause => JsonReader.refuse cause

def read (r : Record JsonReader σ α) : JsonReader α := do
  match ← JsonReader.peek with
  | '{' => do
      JsonReader.advance
      r.complete (← r.readMembers ((← get).length + 1) true r.empty)
  | '[' => do
      JsonReader.advance
      let a ← r.complete (← r.readElements 0 r.fields true r.empty)
      JsonReader.endSequence
      return a
  | _ => JsonReader.mistyped s!"struct {r.name}"

end Record

/-- The text layer of JSON. -/
@[reducible]
def TextLayer.json : TextLayer where
  Reader := JsonReader
  string := JsonReader.string
  boolean := JsonReader.boolean
  unsigned32 := JsonReader.unsigned32
  signed64 := JsonReader.signed64
  single := JsonReader.single
  choice := JsonReader.choice
  sequence := JsonReader.sequence
  record := Record.read
  parse := JsonReader.parse
  write := JsonValue.compactText

end ConvLab

import ConvLab.Json.Error

/-!
# The text layer

Suites are kept as JSON texts.  How a JSON text is written and read is up to a text layer; what a
suite has to say to it is the document of a suite and a description of its records.

* `JsonValue` — a document, the members of an object in writing order;
* `Field`, `Record` — a record and how each of its fields is read;
* `TextLayer` — readers for the types that documents are made of, and the two ways between
  documents and texts.
-/

namespace ConvLab

/-- A document. -/
inductive JsonValue where
  | boolean (value : Bool)
  | integer (value : Int)
  | single (value : Float32)
  | string (value : String)
  | array (elements : List JsonValue)
  | object (members : List (String × JsonValue))

/-- A field of a record.  While the record is read, the fields read so far are a value of `σ`. -/
structure Field (Reader : Type → Type) (σ : Type) where
  {Value : Type}
  name : String
  /-- Whether the record has a default for the field. -/
  hasDefault : Bool
  read : Reader Value
  get : σ → Option Value
  set : σ → Value → σ

/-- How a record is read. -/
structure Record (Reader : Type → Type) (σ α : Type) where
  name : String
  fields : List (Field Reader σ)
  /-- No field has been read. -/
  empty : σ
  /-- Puts the record together.  A field without a default must have been read. -/
  finish : σ → Except Mismatch α

/-- The value of a field without a default. -/
def Record.require {β : Type} (name : String) : Option β → Except Mismatch β
  | some b => .ok b
  | none => .error (.missingField name)

/-- Readers of JSON texts, and a writer. -/
class TextLayer where
  Reader : Type → Type
  string : Reader String
  boolean : Reader Bool
  unsigned32 : Reader UInt32
  signed64 : Reader Int64
  single : Reader Float32
  /-- One of the given values, by its name. -/
  choice {α : Type} (name : α → String) (values : List α) : Reader α
  sequence {α : Type} (read : Reader α) : Reader (List α)
  record {σ α : Type} (r : Record Reader σ α) : Reader α
  /-- The value that a reader finds in a text, which must hold nothing else. -/
  parse {α : Type} (read : Reader α) (text : String) : Except JsonError α
  /-- The text of a document, without blanks. -/
  write (document : JsonValue) : String

end ConvLab

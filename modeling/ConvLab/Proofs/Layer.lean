import ConvLab.Json.Layer

/-!
# The laws of a text layer

What a text layer has to do for documents to survive being written and read again.  The laws are
stated with a relation between readers, documents and values, so that they say nothing about the
texts themselves.

* `Record.Fills` — the members of a document fill the fields of a record;
* `TextLayer.Rereads` — a float is read back from its text;
* `TextLayer.Faithful` — the laws.
-/

namespace ConvLab

namespace Record

variable {Reader : Type → Type} {σ α : Type}

/-- The members can be read one after another, each into a field that is not yet set, and turn the
one draft into the other. -/
inductive Fills (Takes : ∀ ⦃β : Type⦄, Reader β → JsonValue → β → Prop) (r : Record Reader σ α) :
    σ → List (String × JsonValue) → σ → Prop
  | nil (draft : σ) : Fills Takes r draft [] draft
  | cons {draft draft' : σ} {key : String} {document : JsonValue}
      {members : List (String × JsonValue)} {field : Field Reader σ} {value : field.Value}
      (hfield : r.fields.find? (·.name = key) = some field) (hunset : field.get draft = none)
      (htakes : Takes field.read document value)
      (hrest : Fills Takes r (field.set draft value) members draft') :
      Fills Takes r draft ((key, document) :: members) draft'

end Record

namespace TextLayer

theorem toOption_eq_some_iff {α : Type} {x : Except JsonError α} {a : α} :
    x.toOption = some a ↔ x = .ok a := by
  cases x <;> simp [Except.toOption]

variable [TextLayer]

/-- A float is read back from its text. -/
def Rereads (x : Float32) : Prop := parse single (write (.single x)) = .ok x

instance (x : Float32) : Decidable (Rereads x) :=
  decidable_of_iff ((parse single (write (.single x))).toOption = some x) toOption_eq_some_iff

/-- The laws of a text layer that reads back what it writes.  `Takes read document a` says that the
reader takes `a` from the text of the document wherever that text stands. -/
structure Faithful (Takes : ∀ ⦃α : Type⦄, Reader α → JsonValue → α → Prop) : Prop where
  parse_write {α : Type} {read : Reader α} {document : JsonValue} {a : α} :
    Takes read document a → parse read (write document) = .ok a
  string (s : String) : Takes string (.string s) s
  boolean (b : Bool) : Takes boolean (.boolean b) b
  unsigned32 (n : UInt32) : Takes unsigned32 (.integer n.toNat) n
  signed64 (n : Int64) : Takes signed64 (.integer n.toInt) n
  single {x : Float32} : Rereads x → Takes single (.single x) x
  /-- A value is told by its name, if no other value has the same. -/
  choice {α : Type} {name : α → String} {values : List α} {a : α} :
    a ∈ values → (∀ b ∈ values, name b = name a → b = a) →
    Takes (choice name values) (.string (name a)) a
  sequence {α : Type} {read : Reader α} {document : α → JsonValue} {as : List α} :
    (∀ a ∈ as, Takes read (document a) a) →
    Takes (sequence read) (.array (as.map document)) as
  record {σ α : Type} {r : Record Reader σ α} {members : List (String × JsonValue)} {draft : σ}
    {a : α} :
    r.Fills Takes r.empty members draft → r.finish draft = .ok a →
    Takes (record r) (.object members) a

end TextLayer

end ConvLab

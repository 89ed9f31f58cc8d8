import ConvLab.Json.Layer

/-!
# Writing JSON

* `JsonValue.compact` — the text of a document without blanks;
* `JsonValue.pretty` — its text with a line for every element and member, two blanks deeper for
  every level.
-/

namespace ConvLab

/-- Single-precision floats in documents have an exponent outside the range from `1e-6` to
`1e13`. -/
def NumberStyle.document : NumberStyle where
  positional exponent := -6 ≤ exponent ∧ exponent < 13
  keepsPoint := true
  signsExponent := true
  tie := .even

namespace JsonValue

def booleanText (value : Bool) : String := if value then "true" else "false"

/-- The text of a single-precision float; `null` stands for one that is not finite. -/
def singleText (value : Float32) : String :=
  if value.isFinite then NumberStyle.document.single value else "null"

mutual

/-- The text without blanks. -/
def compact : JsonValue → List Char
  | .boolean value => (booleanText value).toList
  | .integer value => (toString value).toList
  | .single value => (singleText value).toList
  | .string value => (quoteForJson value).toList
  | .array elements => '[' :: compactElements elements ++ [']']
  | .object members => '{' :: compactMembers members ++ ['}']

def compactElements : List JsonValue → List Char
  | [] => []
  | [element] => element.compact
  | element :: elements => element.compact ++ ',' :: compactElements elements

def compactMembers : List (String × JsonValue) → List Char
  | [] => []
  | [(key, value)] => (quoteForJson key).toList ++ ':' :: value.compact
  | (key, value) :: members =>
      (quoteForJson key).toList ++ ':' :: value.compact ++ ',' :: compactMembers members

end

def compactText (value : JsonValue) : String := String.ofList value.compact

/-- A line break and the blanks of a level. -/
def lineBreak (level : Nat) : String := "\n" ++ String.ofList (List.replicate (2 * level) ' ')

/-- Items between brackets, each on a line of its own. -/
def block (opening closing : String) (level : Nat) (items : List String) : String :=
  if items.isEmpty then opening ++ closing
  else
    let lines := items.map (lineBreak (level + 1) ++ ·)
    opening ++ ",".intercalate lines ++ lineBreak level ++ closing

mutual

/-- The text with line breaks, for a value at the given level. -/
def prettyAt (level : Nat) : JsonValue → String
  | .boolean value => booleanText value
  | .integer value => toString value
  | .single value => singleText value
  | .string value => quoteForJson value
  | .array elements => block "[" "]" level (prettyElements (level + 1) elements)
  | .object members => block "\x7b" "\x7d" level (prettyMembers (level + 1) members)

def prettyElements (level : Nat) : List JsonValue → List String
  | [] => []
  | element :: elements => element.prettyAt level :: prettyElements level elements

def prettyMembers (level : Nat) : List (String × JsonValue) → List String
  | [] => []
  | (key, value) :: members =>
      (quoteForJson key ++ ": " ++ value.prettyAt level) :: prettyMembers level members

end

def pretty (value : JsonValue) : String := value.prettyAt 0

end JsonValue

end ConvLab

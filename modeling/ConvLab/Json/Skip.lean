import ConvLab.Json.Text

/-!
# Skipping values

A value that nobody asked for is passed over.  Only its form is checked: numbers may be of any
size, escapes may be halves of surrogate pairs, and brackets may nest to any depth.
-/

namespace ConvLab

/-- The blanks between the parts of a JSON text. -/
def isBlank (c : Char) : Bool := c = ' ' ∨ c = '\t' ∨ c = '\n' ∨ c = '\r'

/-- The first character after blanks, and the text from it on. -/
def visible (cs : List Char) : Except JsonError (Char × List Char) :=
  match cs.dropWhile isBlank with
  | [] => .error .truncated
  | c :: rest => .ok (c, rest)

def skipWord : List Char → List Char → Except JsonError (List Char)
  | [], cs => .ok cs
  | _ :: _, [] => .error .truncated
  | w :: word, c :: cs => if c = w then skipWord word cs else .error .malformed

/-- Passes over digits, at least one of them.  A number that is cut off is malformed. -/
def skipDigits (cs : List Char) : Except JsonError (List Char) :=
  match cs with
  | [] => .error .malformed
  | c :: rest => if c.isDigit then .ok (rest.dropWhile Char.isDigit) else .error .malformed

/-- Passes over an exponent, if there is one. -/
def skipExponent (cs : List Char) : Except JsonError (List Char) :=
  match cs with
  | [] => .ok []
  | c :: rest =>
      if c = 'e' ∨ c = 'E' then
        match rest with
        | '+' :: digits => skipDigits digits
        | '-' :: digits => skipDigits digits
        | _ => skipDigits rest
      else
        .ok cs

def skipNumber (cs : List Char) : Except JsonError (List Char) := do
  let rest ← skipDigits cs
  if cs.head? = some '0' ∧ rest.length + 1 < cs.length then
    throw .malformed
  match rest with
  | '.' :: fraction => skipExponent (← skipDigits fraction)
  | _ => skipExponent rest

inductive Bracket where
  | square
  | curly
  deriving DecidableEq

def Bracket.close : Bracket → Char
  | .square => ']'
  | .curly => '}'

/-- Passes over the key and the colon in front of a value, where the bracket asks for them. -/
def Bracket.skipKey (bracket : Bracket) (cs : List Char) : Except JsonError (List Char) :=
  match bracket with
  | .square => .ok cs
  | .curly => do
      let (quote, rest) ← visible cs
      if quote ≠ '"' then
        throw .malformed
      let (colon, rest) ← visible (← skipText rest)
      if colon = ':' then return rest else throw .malformed

/-- How a value begins. -/
inductive Opening where
  /-- The value is complete. -/
  | complete
  /-- The value goes on inside a bracket. -/
  | inside (bracket : Bracket)

/-- Passes over a scalar or an opening bracket. -/
def skipOpening (cs : List Char) : Except JsonError (Opening × List Char) := do
  let (c, rest) ← visible cs
  match c with
  | 'n' => return (.complete, ← skipWord ['u', 'l', 'l'] rest)
  | 't' => return (.complete, ← skipWord ['r', 'u', 'e'] rest)
  | 'f' => return (.complete, ← skipWord ['a', 'l', 's', 'e'] rest)
  | '"' => return (.complete, ← skipText rest)
  | '-' => return (.complete, ← skipNumber rest)
  | '[' => return (.inside .square, rest)
  | '{' => return (.inside .curly, rest)
  | _ => if c.isDigit then return (.complete, ← skipNumber (c :: rest)) else throw .malformed

mutual

/-- Passes over a value inside the given brackets, and over all that follows it there. -/
def skipValue : (fuel : Nat) → List Bracket → List Char → Except JsonError (List Char)
  | 0, _, _ => .error .truncated
  | fuel + 1, brackets, cs => do
      match ← skipOpening cs with
      | (.complete, rest) => skipRest fuel brackets rest
      | (.inside bracket, rest) =>
          let (c, next) ← visible rest
          if c = bracket.close then
            skipRest fuel brackets next
          else
            skipValue fuel (bracket :: brackets) (← bracket.skipKey rest)

/-- Passes over all that follows a value inside the given brackets. -/
def skipRest : (fuel : Nat) → List Bracket → List Char → Except JsonError (List Char)
  | _, [], cs => .ok cs
  | 0, _ :: _, _ => .error .truncated
  | fuel + 1, bracket :: brackets, cs => do
      let (c, rest) ← visible cs
      if c = bracket.close then
        skipRest fuel brackets rest
      else if c = ',' then
        skipValue fuel (bracket :: brackets) (← bracket.skipKey rest)
      else
        throw .malformed

end

end ConvLab

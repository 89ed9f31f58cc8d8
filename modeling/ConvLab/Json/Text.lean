import ConvLab.Json.Error

/-!
# JSON texts

A text stands between double quotes.  A character below the space must be escaped, and a character
outside the first plane may be escaped as a pair of surrogates.

* `readText` — the characters up to the closing quote, escapes resolved;
* `skipText` — passes over them, checking only the form of the escapes.
-/

namespace ConvLab

def hexValue? (c : Char) : Option Nat :=
  if '0' ≤ c ∧ c ≤ '9' then some (c.toNat - 48)
  else if 'a' ≤ c ∧ c ≤ 'f' then some (c.toNat - 87)
  else if 'A' ≤ c ∧ c ≤ 'F' then some (c.toNat - 55)
  else none

def byteLength (cs : List Char) : Nat := (String.ofList cs).utf8ByteSize

/-- The number written by four hexadecimal digits.  The text counts as cut off if it has no four
bytes left. -/
def readHex (cs : List Char) : Except JsonError (Nat × List Char) :=
  match cs with
  | a :: b :: c :: d :: rest =>
      match [a, b, c, d].mapM hexValue? with
      | some digits => .ok (digits.foldl (fun n digit => n * 16 + digit) 0, rest)
      | none => .error .malformed
  | _ => .error (if 4 ≤ byteLength cs then .malformed else .truncated)

/-- Whether a number is the first half of a surrogate pair. -/
def isHighSurrogate (unit : Nat) : Bool := 0xD800 ≤ unit ∧ unit ≤ 0xDBFF

/-- Whether a number is the second half of a surrogate pair. -/
def isLowSurrogate (unit : Nat) : Bool := 0xDC00 ≤ unit ∧ unit ≤ 0xDFFF

/-- The second half of a surrogate pair, which is an escape of its own. -/
def readLowSurrogate : List Char → Except JsonError (Nat × List Char)
  | [] => .error .truncated
  | ['\\'] => .error .truncated
  | '\\' :: 'u' :: rest => do
      let (unit, rest) ← readHex rest
      if isLowSurrogate unit then return (unit, rest) else throw .malformed
  | _ => .error .malformed

/-- The character of a numeric escape, after its mark. -/
def readCodePoint (cs : List Char) : Except JsonError (Char × List Char) := do
  let (unit, rest) ← readHex cs
  if isLowSurrogate unit then
    throw .malformed
  else if isHighSurrogate unit then
    let (low, rest) ← readLowSurrogate rest
    return (Char.ofNat ((unit - 0xD800) * 0x400 + (low - 0xDC00) + 0x10000), rest)
  else
    return (Char.ofNat unit, rest)

def letterEscape? (c : Char) : Option Char :=
  match c with
  | '"' => some '"'
  | '\\' => some '\\'
  | '/' => some '/'
  | 'b' => some '\x08'
  | 'f' => some '\x0c'
  | 'n' => some '\n'
  | 'r' => some '\r'
  | 't' => some '\t'
  | _ => none

/-- The character of an escape, after the backslash. -/
def readEscape : List Char → Except JsonError (Char × List Char)
  | [] => .error .truncated
  | c :: rest =>
      if c = 'u' then readCodePoint rest
      else match letterEscape? c with
        | some escaped => .ok (escaped, rest)
        | none => .error .malformed

def skipEscape : List Char → Except JsonError (List Char)
  | [] => .error .truncated
  | c :: rest =>
      if c = 'u' then Prod.snd <$> readHex rest
      else if (letterEscape? c).isSome then .ok rest
      else .error .malformed

/-- The characters up to the closing quote.  `fuel` is at least the length of the text. -/
def textLoop : (fuel : Nat) → List Char → Except JsonError (List Char × List Char)
  | 0, _ => .error .truncated
  | _ + 1, [] => .error .truncated
  | fuel + 1, c :: rest =>
      if c = '"' then
        .ok ([], rest)
      else if c = '\\' then do
        let (escaped, rest) ← readEscape rest
        let (text, rest) ← textLoop fuel rest
        return (escaped :: text, rest)
      else if c.toNat < 32 then
        .error .malformed
      else do
        let (text, rest) ← textLoop fuel rest
        return (c :: text, rest)

def readText (cs : List Char) : Except JsonError (String × List Char) := do
  let (text, rest) ← textLoop cs.length cs
  return (String.ofList text, rest)

/-- Passes over the characters up to the closing quote. -/
def skipTextLoop : (fuel : Nat) → List Char → Except JsonError (List Char)
  | 0, _ => .error .truncated
  | _ + 1, [] => .error .truncated
  | fuel + 1, c :: rest =>
      if c = '"' then .ok rest
      else if c = '\\' then do skipTextLoop fuel (← skipEscape rest)
      else if c.toNat < 32 then .error .malformed
      else skipTextLoop fuel rest

def skipText (cs : List Char) : Except JsonError (List Char) := skipTextLoop cs.length cs

end ConvLab

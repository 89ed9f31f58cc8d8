import ConvLab.Text.Printable

/-!
# Quoted text

Two ways of putting a text between double quotes.

* `quoteForReport` — as a report shows it to a person: what cannot be printed is replaced by its
  code point in braces;
* `quoteForJson` — as a JSON document holds it: only quotes, backslashes and control characters
  are escaped.
-/

namespace ConvLab

/-- A number in hexadecimal digits, at least `width` of them. -/
def hexText (width n : Nat) : String :=
  let digits := Nat.toDigits 16 n
  String.ofList (List.replicate (width - digits.length) '0' ++ digits)

def reportEscape (c : Char) : String :=
  if c = '\x00' then "\\0"
  else if c = '\t' then "\\t"
  else if c = '\n' then "\\n"
  else if c = '\r' then "\\r"
  else if c = '"' then "\\\""
  else if c = '\\' then "\\\\"
  else if isPrintable c then c.toString
  else "\\u\x7b" ++ hexText 1 c.toNat ++ "\x7d"

def quoteForReport (s : String) : String :=
  "\"" ++ String.join (s.toList.map reportEscape) ++ "\""

def jsonEscape (c : Char) : List Char :=
  if c = '"' then ['\\', '"']
  else if c = '\\' then ['\\', '\\']
  else if c = '\x08' then ['\\', 'b']
  else if c = '\t' then ['\\', 't']
  else if c = '\n' then ['\\', 'n']
  else if c = '\x0c' then ['\\', 'f']
  else if c = '\r' then ['\\', 'r']
  else if c.toNat < 32 then '\\' :: 'u' :: (hexText 4 c.toNat).toList
  else [c]

def quoteForJson (s : String) : String :=
  "\"" ++ String.ofList (s.toList.flatMap jsonEscape) ++ "\""

end ConvLab

/-!
# Text without terminal controls

A text may hold control sequences, which a terminal obeys and does not show.  A log that no
terminal reads is written without them, and without the control characters that do not lay out
text.

* `Sequence` — how far a control sequence has been read;
* `Sequence.next` — what one more character does to it;
* `withoutControls` — the text that remains.

A sequence starts with an escape.  A tab or a line end that stands inside a sequence is kept and
suspends it: what follows is text again, up to the next control character, where the sequence goes
on.  A character outside ASCII in the meantime ends it.
-/

namespace ConvLab.Terminal

/-- How far a control sequence has been read. -/
inductive Sequence where
  /-- The text is outside of all sequences. -/
  | outside
  /-- Just after an escape. -/
  | escape
  /-- After an escape and intermediate characters. -/
  | intermediate
  /-- In a control command, up to its final character. -/
  | command
  /-- In a command of the operating system, up to a bell. -/
  | system
  /-- Just after the introducer of a device string. -/
  | device
  /-- In the parameters of a device string. -/
  | deviceParameter
  /-- After intermediate characters of a device string. -/
  | deviceIntermediate
  /-- In a string that only a string terminator ends. -/
  | string
  deriving DecidableEq, Repr

/-- The blanks among the control characters: tab, line feed, form feed and carriage return. -/
def isLayout (c : Char) : Bool := c = '\t' || c = '\n' || c = '\x0c' || c = '\r'

def isControl (c : Char) : Bool := c < ' ' || c = '\x7f'

/-- Characters that stand between an introducer and a final character. -/
def isIntermediate (c : Char) : Bool := ' ' ≤ c && c ≤ '/'

def isParameter (c : Char) : Bool := '0' ≤ c && c ≤ '?'

/-- Characters that mark a parameter as private. -/
def isPrivateMark (c : Char) : Bool := '<' ≤ c && c ≤ '?'

def isFinal (c : Char) : Bool := '@' ≤ c && c ≤ '~'

/-- Whether one of the bytes of a character is a string terminator. -/
def hasTerminator (c : Char) : Bool := (String.utf8EncodeChar c).contains 0x9c

namespace Sequence

/-- The sequence that a character after an escape starts.  Most of them are a sequence of their
own. -/
def introducedBy (c : Char) : Sequence :=
  if isIntermediate c then .intermediate
  else if c = '[' then .command
  else if c = ']' then .system
  else if c = 'P' then .device
  else if c = 'X' || c = '^' || c = '_' then .string
  else if isParameter c || isFinal c then .outside
  else .escape

/-- What a character that is no control character does to a sequence. -/
def consume (c : Char) : Sequence → Sequence
  | outside => .outside
  | escape => introducedBy c
  | intermediate => if isParameter c || isFinal c then .outside else .intermediate
  | command => if isFinal c then .outside else .command
  | system => .system
  | device =>
      if isIntermediate c then .deviceIntermediate
      else if isParameter c then .deviceParameter
      else if isFinal c then .string
      else .device
  | deviceParameter =>
      if isIntermediate c then .deviceIntermediate
      else if isPrivateMark c || isFinal c then .string
      else .deviceParameter
  | deviceIntermediate =>
      if isParameter c || isFinal c then .string else .deviceIntermediate
  | string => if hasTerminator c then .outside else .string

/-- What one more character does to a sequence.  An escape starts a new one, and a cancel or a
substitute ends each of them. -/
def next (c : Char) (s : Sequence) : Sequence :=
  if c = '\x1b' then .escape
  else if c = '\x18' || c = '\x1a' then .outside
  else if isControl c then if s = .system && c = '\x07' then .outside else s
  else s.consume c

/-- Whether tabs and line ends are kept inside a sequence.  In strings they are not. -/
def keepsLayout : Sequence → Bool
  | outside | escape | intermediate | command => true
  | system | device | deviceParameter | deviceIntermediate | string => false

end Sequence

/-- What remains of a text that starts in a sequence, which may be suspended. -/
def remaining (s : Sequence) (suspended : Bool) : List Char → List Char
  | [] => []
  | c :: rest =>
      if isLayout c && s.keepsLayout then c :: remaining s true rest
      else if !isControl c && (suspended || s = .outside) then
        c :: remaining (if c.toNat < 128 then s else .outside) suspended rest
      else remaining (s.next c) false rest

/-- A text without control sequences, and without control characters other than tabs and ends of
lines and pages. -/
def withoutControls (text : List Char) : List Char := remaining .outside false text

end ConvLab.Terminal

/-!
# Visible texts

What is left of a text once every escape sequence is taken out of it, and every control character
other than tabs, line feeds, form feeds and carriage returns.

A text is read character by character.  An escape character begins a sequence of one of several
kinds wherever it stands, and each kind has an end of its own.  The four control characters that are
left are seen within the short sequences too.  What follows one of them is seen like ordinary text,
up to the next control character that is taken out; only then is the sequence taken up again.
-/

namespace TagLedger.Terminal

/-- Where the reading of a text stands: in ordinary text or in a sequence of some kind. -/
inductive Reading where
  | ordinary
  | escape
  | escapeIntermediate
  | control
  | deviceEntry
  | deviceParameter
  | deviceIntermediate
  | untilTerminator
  | untilBell
  deriving DecidableEq, Repr

def isLayout (character : Char) : Bool :=
  character == '\t' || character == '\n' || character == '\x0c' || character == '\r'

def isVisible (character : Char) : Bool :=
  isLayout character || (' ' ≤ character && character ≠ '\x7f')

/-- The end of a long sequence is a byte, which may be one of several that encode a character. -/
def holdsTerminator (character : Char) : Bool :=
  (String.utf8EncodeChar character).contains 0x9c

namespace Reading

def shows : Reading → Char → Bool
  | .ordinary, character => isVisible character
  | .escape, character | .escapeIntermediate, character | .control, character => isLayout character
  | _, _ => false

def begun (character : Char) : Reading :=
  match character with
  | '[' => .control
  | ']' => .untilBell
  | 'P' => .deviceEntry
  | 'X' | '^' | '_' => .untilTerminator
  | _ =>
      if character < ' ' || '~' < character then .escape
      else if character ≤ '/' then .escapeIntermediate
      else .ordinary

def after (character : Char) : Reading → Reading
  | .ordinary => .ordinary
  | .escape => begun character
  | .escapeIntermediate =>
      if '0' ≤ character && character ≤ '~' then .ordinary else .escapeIntermediate
  | .control => if '@' ≤ character && character ≤ '~' then .ordinary else .control
  | .deviceEntry =>
      if character < ' ' || '~' < character then .deviceEntry
      else if character ≤ '/' then .deviceIntermediate
      else if character ≤ '?' then .deviceParameter
      else .untilTerminator
  | .deviceParameter =>
      if character < ' ' || '~' < character then .deviceParameter
      else if character ≤ '/' then .deviceIntermediate
      else if character ≤ ';' then .deviceParameter
      else .untilTerminator
  | .deviceIntermediate =>
      if '0' ≤ character && character ≤ '~' then .untilTerminator else .deviceIntermediate
  | .untilTerminator => if holdsTerminator character then .ordinary else .untilTerminator
  | .untilBell => if character = '\x07' then .ordinary else .untilBell

def next (reading : Reading) (character : Char) : Reading :=
  if character = '\x1b' then .escape
  else if character = '\x18' || character = '\x1a' then .ordinary
  else reading.after character

/-- The reading after a character that was seen behind another one that was. -/
def resumed (reading : Reading) (character : Char) : Reading :=
  if '\x7f' < character then .ordinary else reading

end Reading

/-- What is seen of a text.  `showing` tells whether the character before it was seen. -/
def visibleFrom (reading : Reading) (showing : Bool) : List Char → List Char
  | [] => []
  | character :: rest =>
      if showing && isVisible character then
        character :: visibleFrom (reading.resumed character) true rest
      else if reading.shows character then
        character :: visibleFrom (reading.next character) true rest
      else visibleFrom (reading.next character) false rest

def visible (text : String) : String :=
  String.ofList (visibleFrom .ordinary false text.toList)

end TagLedger.Terminal

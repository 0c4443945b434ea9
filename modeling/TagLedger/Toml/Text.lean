import TagLedger.Text.Digits

/-!
# TOML texts

Blanks, comments, line ends and the four kinds of strings.  Each reader takes a text and gives what
it read and the rest.
-/

namespace TagLedger.Toml

def isSpace (character : Char) : Bool :=
  character == ' ' || character == '\t'

def isPlain (character : Char) : Bool :=
  character == '\t' || (0x20 ≤ character.toNat && character.toNat ≠ 0x7F)

def skipSpace (text : List Char) : List Char :=
  text.dropWhile isSpace

def skipComment : List Char → List Char
  | '#' :: rest => rest.dropWhile isPlain
  | text => text

def lineEnd? : List Char → Option (List Char)
  | [] => some []
  | '\n' :: rest => some rest
  | '\r' :: '\n' :: rest => some rest
  | _ => none

def endLine? (text : List Char) : Option (List Char) :=
  lineEnd? (skipComment (skipSpace text))

/-- Skips spaces, line ends and comments; `inComment` if a comment has begun. -/
def skipBlank (inComment : Bool) : List Char → List Char
  | [] => []
  | '\n' :: rest => skipBlank false rest
  | '\r' :: '\n' :: rest => skipBlank false rest
  | character :: rest =>
      if inComment then
        if isPlain character then skipBlank true rest else character :: rest
      else if isSpace character then skipBlank false rest
      else if character = '#' then skipBlank true rest
      else character :: rest

/-! ## Strings -/

def isScalar (code : Nat) : Bool :=
  code < 0xD800 || (0xE000 ≤ code && code ≤ 0x10FFFF)

def scalar? (digits : List Char) : Option Char := do
  let code ← Text.hexNumber? digits
  if isScalar code then some (Char.ofNat code) else none

def simpleEscape? : Char → Option Char
  | '"' => some '"'
  | '\\' => some '\\'
  | 'b' => some '\x08'
  | 'f' => some '\x0c'
  | 'n' => some '\n'
  | 'r' => some '\r'
  | 't' => some '\t'
  | _ => none

def basicBody : List Char → Option (List Char × List Char)
  | [] => none
  | '"' :: rest => some ([], rest)
  | '\\' :: 'u' :: a :: b :: c :: d :: rest => do
      let character ← scalar? [a, b, c, d]
      let (inside, rest) ← basicBody rest
      return (character :: inside, rest)
  | '\\' :: 'U' :: a :: b :: c :: d :: e :: f :: g :: h :: rest => do
      let character ← scalar? [a, b, c, d, e, f, g, h]
      let (inside, rest) ← basicBody rest
      return (character :: inside, rest)
  | '\\' :: escape :: rest => do
      let character ← simpleEscape? escape
      let (inside, rest) ← basicBody rest
      return (character :: inside, rest)
  | character :: rest =>
      if isPlain character ∧ character ≠ '\\' then do
        let (inside, rest) ← basicBody rest
        return (character :: inside, rest)
      else none

def endsLine (text : List Char) : Bool :=
  match skipSpace text with
  | '\n' :: _ => true
  | '\r' :: '\n' :: _ => true
  | _ => false

/-- The inside of a multi-line basic string up to its closing quotes, of which two more may belong
to the inside.  After a backslash at the end of a line, blanks are dropped. -/
def multilineBody (dropping : Bool) : List Char → Option (List Char × List Char)
  | [] => none
  | '"' :: '"' :: '"' :: '"' :: '"' :: rest => some (['"', '"'], rest)
  | '"' :: '"' :: '"' :: '"' :: rest => some (['"'], rest)
  | '"' :: '"' :: '"' :: rest => some ([], rest)
  | '\n' :: rest =>
      if dropping then multilineBody true rest
      else do
        let (inside, rest) ← multilineBody false rest
        return ('\n' :: inside, rest)
  | '\r' :: '\n' :: rest =>
      if dropping then multilineBody true rest
      else do
        let (inside, rest) ← multilineBody false rest
        return ('\n' :: inside, rest)
  | '\\' :: 'u' :: a :: b :: c :: d :: rest => do
      let character ← scalar? [a, b, c, d]
      let (inside, rest) ← multilineBody false rest
      return (character :: inside, rest)
  | '\\' :: 'U' :: a :: b :: c :: d :: e :: f :: g :: h :: rest => do
      let character ← scalar? [a, b, c, d, e, f, g, h]
      let (inside, rest) ← multilineBody false rest
      return (character :: inside, rest)
  | '\\' :: escape :: rest =>
      if endsLine (escape :: rest) then multilineBody true (escape :: rest)
      else do
        let character ← simpleEscape? escape
        let (inside, rest) ← multilineBody false rest
        return (character :: inside, rest)
  | character :: rest =>
      if dropping ∧ isSpace character then multilineBody true rest
      else if isPlain character ∧ character ≠ '\\' then do
        let (inside, rest) ← multilineBody false rest
        return (character :: inside, rest)
      else none

def literalBody : List Char → Option (List Char × List Char)
  | [] => none
  | '\'' :: rest => some ([], rest)
  | character :: rest =>
      if isPlain character then do
        let (inside, rest) ← literalBody rest
        return (character :: inside, rest)
      else none

def multilineLiteralBody : List Char → Option (List Char × List Char)
  | [] => none
  | '\'' :: '\'' :: '\'' :: '\'' :: '\'' :: rest => some (['\'', '\''], rest)
  | '\'' :: '\'' :: '\'' :: '\'' :: rest => some (['\''], rest)
  | '\'' :: '\'' :: '\'' :: rest => some ([], rest)
  | '\n' :: rest => do
      let (inside, rest) ← multilineLiteralBody rest
      return ('\n' :: inside, rest)
  | '\r' :: '\n' :: rest => do
      let (inside, rest) ← multilineLiteralBody rest
      return ('\n' :: inside, rest)
  | character :: rest =>
      if isPlain character then do
        let (inside, rest) ← multilineLiteralBody rest
        return (character :: inside, rest)
      else none

/-- A line end directly behind the opening quotes does not belong to the string. -/
def dropFirstLineEnd : List Char → List Char
  | '\n' :: rest => rest
  | '\r' :: '\n' :: rest => rest
  | text => text

def lineString? : List Char → Option (List Char × List Char)
  | '"' :: rest => basicBody rest
  | '\'' :: rest => literalBody rest
  | _ => none

def string? : List Char → Option (List Char × List Char)
  | '"' :: '"' :: '"' :: rest => multilineBody false (dropFirstLineEnd rest)
  | '\'' :: '\'' :: '\'' :: rest => multilineLiteralBody (dropFirstLineEnd rest)
  | text => lineString? text

/-! ## Keys -/

def isBareKeyChar (character : Char) : Bool :=
  character.isAlphanum || character == '-' || character == '_'

def simpleKey? (text : List Char) : Option (String × List Char) :=
  match text with
  | '"' :: _ | '\'' :: _ => (lineString? text).map fun (key, rest) => (String.ofList key, rest)
  | _ =>
      match text.takeWhile isBareKeyChar with
      | [] => none
      | key => some (String.ofList key, text.dropWhile isBareKeyChar)

/-- The longest path that a key may spell, and the deepest nesting of values. -/
def depthLimit : Nat := 80

def keyWithin : Nat → List Char → Option (List String × List Char)
  | 0, _ => none
  | limit + 1, text => do
      let (part, rest) ← simpleKey? (skipSpace text)
      match skipSpace rest with
      | '.' :: rest => do
          let (parts, rest) ← keyWithin limit rest
          return (part :: parts, rest)
      | rest => return ([part], rest)

def key? (text : List Char) : Option (List String × String × List Char) := do
  let (parts, rest) ← keyWithin (depthLimit - 1) text
  let last ← parts.getLast?
  return (parts.dropLast, last, rest)

end TagLedger.Toml

import TagLedger.Json.Value
import TagLedger.Number.Scientific
import TagLedger.Text.Digits

/-!
# JSON tokens

A text is cut into brackets, commas, colons and the scalar values between them.  Blanks are the
four characters that JSON allows.  A text value must close, hold no control character, and pair its
surrogate escapes; a number must be in the grammar and not overflow a double.
-/

namespace TagLedger.Json

inductive Token where
  | openArray
  | closeArray
  | openObject
  | closeObject
  | comma
  | colon
  | scalar (value : Json)

def isSpace (character : Char) : Bool :=
  character == ' ' || character == '\n' || character == '\t' || character == '\r'

inductive Piece where
  | plain (character : Char)
  | unit (code : Nat)
  deriving DecidableEq

def simpleEscape? : Char → Option Char
  | '"' => some '"'
  | '\\' => some '\\'
  | '/' => some '/'
  | 'b' => some '\x08'
  | 'f' => some '\x0c'
  | 'n' => some '\n'
  | 'r' => some '\r'
  | 't' => some '\t'
  | _ => none

def readPieces : List Char → Option (List Piece × List Char)
  | [] => none
  | '"' :: rest => some ([], rest)
  | '\\' :: 'u' :: first :: second :: third :: fourth :: rest => do
      let code ← Text.hexNumber? [first, second, third, fourth]
      let (pieces, rest) ← readPieces rest
      return (.unit code :: pieces, rest)
  | '\\' :: escape :: rest => do
      let character ← simpleEscape? escape
      let (pieces, rest) ← readPieces rest
      return (.plain character :: pieces, rest)
  | character :: rest =>
      if character = '\\' ∨ character.toNat < 0x20 then none
      else do
        let (pieces, rest) ← readPieces rest
        return (.plain character :: pieces, rest)

def isHighSurrogate (code : Nat) : Bool :=
  0xD800 ≤ code && code < 0xDC00

def isLowSurrogate (code : Nat) : Bool :=
  0xDC00 ≤ code && code < 0xE000

/-- Puts the pieces together; a surrogate must be the high half before a low one. -/
def joinPieces : List Piece → Option (List Char)
  | [] => some []
  | .plain character :: rest => (joinPieces rest).map (character :: ·)
  | .unit high :: .unit low :: rest =>
      if isHighSurrogate high then
        if isLowSurrogate low then
          (joinPieces rest).map
            (Char.ofNat (0x10000 + (high - 0xD800) * 0x400 + (low - 0xDC00)) :: ·)
        else none
      else if isLowSurrogate high then none
      else (joinPieces (.unit low :: rest)).map (Char.ofNat high :: ·)
  | .unit code :: rest =>
      if isHighSurrogate code || isLowSurrogate code then none
      else (joinPieces rest).map (Char.ofNat code :: ·)

def readText (text : List Char) : Option (String × List Char) := do
  let (pieces, rest) ← readPieces text
  let characters ← joinPieces pieces
  return (String.ofList characters, rest)

def greatestSignificand : Nat :=
  twoTo 64 - 1

/-- Appends leading digits to a significand as long as it fits in 64 bits; the digits that did not
fit are returned. -/
def gatherDigits (significand : Nat) : List Char → Nat × List Char
  | [] => (significand, [])
  | digit :: rest =>
      let next := significand * 10 + Text.digitValue digit
      if next ≤ greatestSignificand then gatherDigits next rest else (significand, digit :: rest)

structure NumberText where
  negative : Bool
  whole : List Char
  fraction : Option (List Char)
  exponent : Option Int

def readNumber (number : NumberText) : Option Number :=
  let (significand, dropped) := gatherDigits 0 number.whole
  match number.fraction, number.exponent, dropped with
  | none, none, [] =>
      if number.negative then
        if significand = 0 ∨ twoTo 63 < significand then
          (Binary64.ofScientific true significand 0).map .real
        else some (.integer (-(significand : Int)))
      else some (.integer significand)
  | fraction, exponent, dropped =>
      let fraction := fraction.getD []
      let (significand, unread) := gatherDigits significand fraction
      let places : Int := dropped.length - (fraction.length - unread.length : Nat)
      (Binary64.ofScientific number.negative significand (places + exponent.getD 0)).map .real

def readWhole (text : List Char) : Option (List Char × List Char) :=
  match text with
  | '0' :: rest => some (['0'], rest)
  | _ => Text.takeDigits text

def readFraction : List Char → Option (Option (List Char) × List Char)
  | '.' :: rest => (Text.takeDigits rest).map fun (digits, rest) => (some digits, rest)
  | text => some (none, text)

def readSignedExponent : List Char → Option (Int × List Char)
  | '-' :: rest => (Text.takeDigits rest).map fun (digits, rest) => (-(Text.naturalOf digits : Int), rest)
  | '+' :: rest => (Text.takeDigits rest).map fun (digits, rest) => ((Text.naturalOf digits : Int), rest)
  | text => (Text.takeDigits text).map fun (digits, rest) => ((Text.naturalOf digits : Int), rest)

def readExponent : List Char → Option (Option Int × List Char)
  | 'e' :: rest => (readSignedExponent rest).map fun (value, rest) => (some value, rest)
  | 'E' :: rest => (readSignedExponent rest).map fun (value, rest) => (some value, rest)
  | text => some (none, text)

def lexNumber (text : List Char) : Option (Number × List Char) := do
  let (negative, text) :=
    match text with
    | '-' :: rest => (true, rest)
    | _ => (false, text)
  let (whole, text) ← readWhole text
  let (fraction, text) ← readFraction text
  let (exponent, text) ← readExponent text
  let value ← readNumber ⟨negative, whole, fraction, exponent⟩
  return (value, text)

def lexToken : List Char → Option (Token × List Char)
  | '[' :: rest => some (.openArray, rest)
  | ']' :: rest => some (.closeArray, rest)
  | '\x7b' :: rest => some (.openObject, rest)
  | '\x7d' :: rest => some (.closeObject, rest)
  | ',' :: rest => some (.comma, rest)
  | ':' :: rest => some (.colon, rest)
  | '"' :: rest => (readText rest).map fun (value, rest) => (.scalar (.string value), rest)
  | 'n' :: 'u' :: 'l' :: 'l' :: rest => some (.scalar .null, rest)
  | 't' :: 'r' :: 'u' :: 'e' :: rest => some (.scalar (.bool true), rest)
  | 'f' :: 'a' :: 'l' :: 's' :: 'e' :: rest => some (.scalar (.bool false), rest)
  | text => (lexNumber text).map fun (value, rest) => (.scalar (.number value), rest)

/-- Cuts at most `limit` tokens off a text. -/
def lexWithin : Nat → List Char → Option (List Token)
  | 0, text => if (text.dropWhile isSpace).isEmpty then some [] else none
  | limit + 1, text =>
      match text.dropWhile isSpace with
      | [] => some []
      | text => do
          let (token, rest) ← lexToken text
          let tokens ← lexWithin limit rest
          return token :: tokens

def lex (text : String) : Option (List Token) :=
  let characters := text.toList
  lexWithin characters.length characters

end TagLedger.Json

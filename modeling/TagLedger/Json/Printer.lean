import TagLedger.Json.Value
import TagLedger.Number.Shortest

/-!
# Writing JSON

Numbers that are not integers are written with the fewest digits that read back: positionally
between `1e-5` and `1e16` and always with a fraction, elsewhere with an exponent that carries its
sign.
-/

namespace TagLedger

def Decimal.text (decimal : Decimal) : String :=
  let digits := Nat.toDigits 10 decimal.digits
  let length : Int := digits.length
  let leading := decimal.exponent + length - 1
  if leading < -5 ∨ 16 ≤ leading then
    let mantissa :=
      match digits with
      | [] => []
      | [digit] => [digit]
      | digit :: rest => digit :: '.' :: rest
    let sign := if leading < 0 then "-" else "+"
    String.ofList mantissa ++ "e" ++ sign ++ toString leading.natAbs
  else if leading < 0 then
    "0." ++ String.ofList (List.replicate (-leading - 1).toNat '0' ++ digits)
  else if length ≤ leading + 1 then
    String.ofList (digits ++ List.replicate (leading + 1 - length).toNat '0') ++ ".0"
  else
    String.ofList (digits.take (leading + 1).toNat) ++ "." ++
      String.ofList (digits.drop (leading + 1).toNat)

def Binary64.text (number : Binary64) : String :=
  (if number.negative then "-" else "") ++ number.shortest.text

namespace Json

def Number.toText : Number → String
  | .integer value => toString value
  | .real value => value.text

def hexDigits (code : Nat) : List Char :=
  Nat.toDigits 16 code

def escapeChar (character : Char) : List Char :=
  match character with
  | '"' => ['\\', '"']
  | '\\' => ['\\', '\\']
  | '\x08' => ['\\', 'b']
  | '\x0c' => ['\\', 'f']
  | '\n' => ['\\', 'n']
  | '\r' => ['\\', 'r']
  | '\t' => ['\\', 't']
  | _ =>
      if character.toNat < 0x20 then
        let digits := hexDigits character.toNat
        '\\' :: 'u' :: (List.replicate (4 - digits.length) '0' ++ digits)
      else [character]

def quote (text : String) : String :=
  "\"" ++ String.ofList (text.toList.flatMap escapeChar) ++ "\""

mutual

def compact : Json → String
  | .null => "null"
  | .bool value => if value then "true" else "false"
  | .number value => value.toText
  | .string value => quote value
  | .array items => "[" ++ ",".intercalate (compactItems items) ++ "]"
  | .object fields => "\x7b" ++ ",".intercalate (compactFields fields) ++ "\x7d"

def compactItems : List Json → List String
  | [] => []
  | item :: rest => compact item :: compactItems rest

def compactFields : List (String × Json) → List String
  | [] => []
  | (name, value) :: rest => (quote name ++ ":" ++ compact value) :: compactFields rest

end

def newline (depth : Nat) : String :=
  String.ofList ('\n' :: List.replicate (2 * depth) ' ')

mutual

def prettyAt (depth : Nat) : Json → String
  | .array (item :: rest) =>
      "[" ++ newline (depth + 1) ++
        ("," ++ newline (depth + 1)).intercalate (prettyItems (depth + 1) (item :: rest)) ++
        newline depth ++ "]"
  | .object (field :: rest) =>
      "\x7b" ++ newline (depth + 1) ++
        ("," ++ newline (depth + 1)).intercalate (prettyFields (depth + 1) (field :: rest)) ++
        newline depth ++ "\x7d"
  | .array [] => "[]"
  | .object [] => "\x7b\x7d"
  | .null => "null"
  | .bool value => if value then "true" else "false"
  | .number value => value.toText
  | .string value => quote value

def prettyItems (depth : Nat) : List Json → List String
  | [] => []
  | item :: rest => prettyAt depth item :: prettyItems depth rest

def prettyFields (depth : Nat) : List (String × Json) → List String
  | [] => []
  | (name, value) :: rest => (quote name ++ ": " ++ prettyAt depth value) :: prettyFields depth rest

end

def pretty (value : Json) : String :=
  prettyAt 0 value

end Json

end TagLedger

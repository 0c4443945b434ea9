import TagLedger.Number.Binary64
import TagLedger.Toml.Text
import TagLedger.Toml.Value

/-!
# TOML numbers, dates and truth values

Integers must fit in 64 bits with a sign.  Of floats and dates only the form is checked, since
nothing here reads them.
-/

namespace TagLedger.Toml

def digitsWith (isDigit : Char → Bool) : List Char → Option (List Char × List Char)
  | first :: '_' :: second :: rest =>
      if isDigit first then
        if isDigit second then do
          let (digits, rest) ← digitsWith isDigit (second :: rest)
          return (first :: digits, rest)
        else none
      else none
  | first :: rest =>
      if isDigit first then
        match digitsWith isDigit rest with
        | some (digits, rest) => some (first :: digits, rest)
        | none => if rest.head?.any fun next => isDigit next || next == '_' then none
            else some ([first], rest)
      else none
  | [] => none

def isDecimal (character : Char) : Bool :=
  character.isDigit

def wholeDigits? (text : List Char) : Option (List Char × List Char) :=
  match text with
  | '0' :: rest => some (['0'], rest)
  | _ => digitsWith isDecimal text

def sign : List Char → Bool × List Char
  | '+' :: rest => (false, rest)
  | '-' :: rest => (true, rest)
  | text => (false, text)

/-! ## Floats -/

def exponent? : List Char → Option (Option Int × List Char)
  | first :: rest =>
      if first = 'e' ∨ first = 'E' then do
        let (negative, rest) := sign rest
        let (digits, rest) ← digitsWith isDecimal rest
        let value : Int := Text.naturalOf digits
        return (some (if negative then -value else value), rest)
      else some (none, first :: rest)
  | [] => some (none, [])

def fraction? : List Char → Option (Option (List Char) × List Char)
  | '.' :: rest => (digitsWith isDecimal rest).map fun (digits, rest) => (some digits, rest)
  | text => some (none, text)

def overflows (digits : List Char) (exponent : Int) : Bool :=
  let value := Text.naturalOf digits
  let places : Int := (Nat.toDigits 10 value).length + exponent
  if value = 0 ∨ places < 300 then false
  else if 400 < places then true
  else (Binary64.ofRatio false (value * tenTo exponent.toNat) (tenTo (-exponent).toNat)).isNone

def specialFloat? : List Char → Option (List Char)
  | 'i' :: 'n' :: 'f' :: rest => some rest
  | 'n' :: 'a' :: 'n' :: rest => some rest
  | _ => none

def float? (text : List Char) : Option (List Char) :=
  let (negative, digits) := sign text
  match specialFloat? digits with
  | some rest => some rest
  | none => do
      let (whole, rest) ← wholeDigits? digits
      let (fraction, rest) ← fraction? rest
      let (exponent, rest) ← exponent? rest
      if fraction.isNone ∧ exponent.isNone then none
      else
        let places := fraction.getD []
        if !negative && overflows (whole ++ places) (exponent.getD 0 - places.length) then none
        else some rest

/-! ## Integers -/

def inRange (value : Int) : Option Int :=
  let bound : Int := twoTo 63
  if -bound ≤ value ∧ value < bound then some value else none

def radixInteger? (radix : Nat) (isDigit : Char → Bool) (text : List Char) :
    Option (Int × List Char) := do
  let (digits, rest) ← digitsWith isDigit text
  let value ← digits.foldlM (fun value digit => (Text.hexDigit? digit).map (value * radix + ·)) 0
  let value ← inRange (value : Nat)
  return (value, rest)

def integer? : List Char → Option (Int × List Char)
  | '0' :: 'x' :: rest => radixInteger? 16 (fun digit => (Text.hexDigit? digit).isSome) rest
  | '0' :: 'o' :: rest => radixInteger? 8 (fun digit => '0' ≤ digit && digit ≤ '7') rest
  | '0' :: 'b' :: rest => radixInteger? 2 (fun digit => digit == '0' || digit == '1') rest
  | text => do
      let (negative, text) := sign text
      let (digits, rest) ← wholeDigits? text
      let value : Int := Text.naturalOf digits
      let value ← inRange (if negative then -value else value)
      return (value, rest)

/-! ## Dates and times -/

def twoDigits? (least greatest : Nat) : List Char → Option (Nat × List Char)
  | first :: second :: rest =>
      if first.isDigit ∧ second.isDigit then
        let value := Text.naturalOf [first, second]
        if least ≤ value ∧ value ≤ greatest then some (value, rest) else none
      else none
  | _ => none

def expect? (character : Char) : List Char → Option (List Char)
  | first :: rest => if first = character then some rest else none
  | [] => none

def isLeapYear (year : Nat) : Bool :=
  year % 4 == 0 && (year % 100 != 0 || year % 400 == 0)

def daysIn (year month : Nat) : Nat :=
  if month = 2 then (if isLeapYear year then 29 else 28)
  else if month = 4 ∨ month = 6 ∨ month = 9 ∨ month = 11 then 30
  else 31

def date? : List Char → Option (List Char)
  | a :: b :: c :: d :: '-' :: rest => do
      if [a, b, c, d].all Char.isDigit then
        let (month, rest) ← twoDigits? 1 12 rest
        let rest ← expect? '-' rest
        let (_, rest) ← twoDigits? 1 (daysIn (Text.naturalOf [a, b, c, d]) month) rest
        return rest
      else none
  | _ => none

def secondFraction : List Char → List Char
  | '.' :: rest => if rest.head?.any Char.isDigit then rest.dropWhile Char.isDigit else '.' :: rest
  | text => text

def time? (text : List Char) : Option (List Char) := do
  let (_, rest) ← twoDigits? 0 23 text
  let rest ← expect? ':' rest
  let (_, rest) ← twoDigits? 0 59 rest
  let rest ← expect? ':' rest
  let (_, rest) ← twoDigits? 0 60 rest
  return secondFraction rest

def offset? : List Char → Option (List Char)
  | first :: rest =>
      if first = 'Z' ∨ first = 'z' then some rest
      else if first = '+' ∨ first = '-' then do
        let (_, rest) ← twoDigits? 0 23 rest
        let rest ← expect? ':' rest
        let (_, rest) ← twoDigits? 0 59 rest
        return rest
      else some (first :: rest)
  | [] => some []

def beginsTime : List Char → Bool
  | first :: second :: ':' :: _ => (twoDigits? 0 23 [first, second]).isSome
  | _ => false

def datetime? (text : List Char) : Option (List Char) :=
  match date? text with
  | some (delimiter :: rest) =>
      if (delimiter = 'T' ∨ delimiter = 't' ∨ delimiter = ' ') ∧ beginsTime rest then
        (time? rest).bind offset?
      else some (delimiter :: rest)
  | some [] => some []
  | none => time? text

def number? (text : List Char) : Option (Toml × List Char) :=
  match datetime? text, float? text, integer? text with
  | some rest, _, _ => some (.datetime, rest)
  | none, some rest, _ => some (.float, rest)
  | none, none, some (value, rest) => some (.integer value, rest)
  | none, none, none => none

def scalarValue? (text : List Char) : Option (Toml × List Char) :=
  match text with
  | '"' :: _ | '\'' :: _ =>
      (string? text).map fun (value, rest) => (.string (String.ofList value), rest)
  | 't' :: 'r' :: 'u' :: 'e' :: rest => some (.bool true, rest)
  | 'f' :: 'a' :: 'l' :: 's' :: 'e' :: rest => some (.bool false, rest)
  | _ => number? text

end TagLedger.Toml

/-!
# Digits

Values of decimal and hexadecimal digits and of runs of them, and the powers that measure numbers.
-/

namespace TagLedger

def twoTo (power : Nat) : Nat :=
  Nat.pow 2 power

def tenTo (power : Nat) : Nat :=
  Nat.pow 10 power

namespace Text

def digitValue (digit : Char) : Nat :=
  digit.toNat - 48

def takeDigits (text : List Char) : Option (List Char × List Char) :=
  match text.takeWhile Char.isDigit with
  | [] => none
  | digits => some (digits, text.dropWhile Char.isDigit)

def naturalOf (digits : List Char) : Nat :=
  digits.foldl (fun value digit => value * 10 + digitValue digit) 0

def hexDigit? (character : Char) : Option Nat :=
  let code := character.toNat
  if '0' ≤ character && character ≤ '9' then some (code - 48)
  else if 'a' ≤ character && character ≤ 'f' then some (code - 87)
  else if 'A' ≤ character && character ≤ 'F' then some (code - 55)
  else none

def hexNumber? (digits : List Char) : Option Nat :=
  digits.foldlM (fun value digit => (hexDigit? digit).map (value * 16 + ·)) 0

end Text

end TagLedger

import TagLedger.Text.Digits

/-!
# Identifiers

An identifier is 122 bits, written as hexadecimal digits in five groups, with the digits that mark a
random identifier in their places.
-/

namespace TagLedger.Identifier

def hexadecimal (width value : Nat) : String :=
  let digits := Nat.toDigits 16 (value % twoTo (4 * width))
  String.ofList (List.replicate (width - digits.length) '0' ++ digits)

/-- Writes the lowest 122 bits of a number. -/
def text (bits : Nat) : String :=
  let variant := 0x8000 + bits / twoTo 48 % twoTo 14
  "-".intercalate
    [hexadecimal 8 (bits / twoTo 90), hexadecimal 4 (bits / twoTo 74),
      "4" ++ hexadecimal 3 (bits / twoTo 62), hexadecimal 4 variant, hexadecimal 12 bits]

/-- A sequence of identifiers that starts anywhere and goes on in steps of any odd size, so that
none comes twice before all have come. -/
def sequence (start step index : Nat) : String :=
  text (start + index * (2 * step + 1))

end TagLedger.Identifier

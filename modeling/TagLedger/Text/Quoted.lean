import TagLedger.Text.HiddenTable
import TagLedger.Text.Lowercase

/-!
# Quoted texts

A quotation shows a text unambiguously between double quotes: backslashes and double quotes are
escaped, the common control characters by a letter, and every other character without a printed
form by its number.
-/

namespace TagLedger.Text

def isHidden (character : Char) : Bool :=
  let code := character.toNat
  code < 0x20 || (0x7F ≤ code && inRanges hiddenRanges code)

def quoteChar (character : Char) : List Char :=
  match character with
  | '\x00' => ['\\', '0']
  | '\t' => ['\\', 't']
  | '\n' => ['\\', 'n']
  | '\r' => ['\\', 'r']
  | '"' => ['\\', '"']
  | '\\' => ['\\', '\\']
  | _ =>
      if isHidden character then
        ['\\', 'u', '\x7b'] ++ Nat.toDigits 16 character.toNat ++ ['\x7d']
      else [character]

def quoted (text : String) : String :=
  "\"" ++ String.ofList (text.toList.flatMap quoteChar) ++ "\""

end TagLedger.Text

/-!
# Blank characters

The blank characters are the twenty-five of Unicode's `White_Space` property.  `trim` removes them
from both ends of a text and touches nothing inside.
-/

namespace TagLedger.Text

def isBlank (character : Char) : Bool :=
  let code := character.toNat
  (9 ≤ code && code ≤ 13) || code == 0x20 || code == 0x85 || code == 0xA0 || code == 0x1680 ||
    (0x2000 ≤ code && code ≤ 0x200A) || code == 0x2028 || code == 0x2029 || code == 0x202F ||
    code == 0x205F || code == 0x3000

def trimLeft (text : List Char) : List Char :=
  text.dropWhile isBlank

def trimRight (text : List Char) : List Char :=
  (text.reverse.dropWhile isBlank).reverse

def trimList (text : List Char) : List Char :=
  trimRight (trimLeft text)

def trim (text : String) : String :=
  String.ofList (trimList text.toList)

def isAllBlank (text : String) : Bool :=
  text.toList.all isBlank

end TagLedger.Text

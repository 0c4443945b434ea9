/-!
# Marked texts

A text in parts, some of which stand out on a terminal.  The marks are escape sequences: one before
a part for each of its effects, and one behind it that ends them all.
-/

namespace TagLedger.Terminal

inductive Effect where
  | bold
  | red
  | yellow
  deriving DecidableEq, Repr

def Effect.code : Effect → String
  | .bold => "1"
  | .red => "31"
  | .yellow => "33"

structure Part where
  effects : List Effect
  text : String
  deriving DecidableEq, Repr

def mark (code : String) : String :=
  "\x1b[" ++ code ++ "m"

def resetCode : String := "0"

def Part.marked (part : Part) : String :=
  if part.effects.isEmpty then part.text
  else String.join (part.effects.map fun effect => mark effect.code) ++ part.text ++ mark resetCode

def marked (parts : List Part) : String :=
  String.join (parts.map Part.marked)

end TagLedger.Terminal

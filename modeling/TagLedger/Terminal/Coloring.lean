/-!
# Coloring

Whether a stream is written with marks for a terminal.  The environment can forbid or force them;
otherwise they are written to a terminal that is known to take them.
-/

namespace TagLedger.Terminal

structure Coloring where
  forbidden : Option String
  forced : Option String
  wanted : Option String
  terminalKind : Option String
  continuousIntegration : Option String
  deriving DecidableEq, Repr

namespace Coloring

def isSet (value : Option String) : Bool :=
  value.any (· ≠ "")

def takesMarks (terminalKind : Option String) : Bool :=
  terminalKind.any (· ≠ "dumb")

def marks (coloring : Coloring) (terminal : Bool) : Bool :=
  if isSet coloring.forbidden then false
  else if isSet coloring.forced then true
  else if coloring.wanted = some "0" then false
  else
    terminal &&
      (takesMarks coloring.terminalKind || coloring.wanted.isSome ||
        coloring.continuousIntegration.isSome)

end Coloring

end TagLedger.Terminal

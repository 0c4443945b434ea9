import TagLedger.Text.Blank
import TagLedger.Text.Lowercase

/-!
# Output modes

A command prints for people, as tab-separated rows, or as JSON.  The mode is named on the command
line, in the environment or in the user's settings, and the first of these that names one decides.
-/

namespace TagLedger

inductive OutputMode where
  | pretty
  | text
  | json
  deriving DecidableEq, Repr

namespace OutputMode

def name : OutputMode → String
  | .pretty => "pretty"
  | .text => "text"
  | .json => "json"

def names : List String :=
  [pretty, text, json].map name

/-- Reads a mode or one of its aliases, blanks and letter case aside. -/
def parse? (raw : String) : Option OutputMode :=
  match Text.asciiLower (Text.trim raw) with
  | "pretty" | "human" => some .pretty
  | "text" | "plain" => some .text
  | "json" => some .json
  | _ => none

def default (terminal : Bool) : OutputMode :=
  if terminal then .pretty else .text

def resolve (flag environment user : Option String) (terminal : Bool) : OutputMode :=
  ([flag, environment, user].findSome? (·.bind parse?)).getD (default terminal)

end OutputMode

end TagLedger

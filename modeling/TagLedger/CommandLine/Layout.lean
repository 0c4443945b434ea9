/-!
# Layout

Columns and sections of the output for people.  Widths count characters; a text that is too wide is
left as it is.
-/

namespace TagLedger.CommandLine

def padRight (width : Nat) (text : String) : String :=
  text ++ String.ofList (List.replicate (width - text.length) ' ')

def padLeft (width : Nat) (text : String) : String :=
  String.ofList (List.replicate (width - text.length) ' ') ++ text

def ruleWidth : Nat := 72

def rule : String :=
  String.ofList (List.replicate ruleWidth '-')

def headed (heading : String) : List String :=
  [heading, rule]

def keyValue (key value : String) : String :=
  padRight 12 (key ++ ":") ++ " " ++ value

def tabbed (fields : List String) : String :=
  "\t".intercalate fields

def unlines (lines : List String) : String :=
  String.join (lines.map (· ++ "\n"))

end TagLedger.CommandLine

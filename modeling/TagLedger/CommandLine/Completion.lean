import TagLedger.CommandLine.Layout
import TagLedger.CommandLine.Request

/-!
# Completion

What a shell has to be told so that it completes the names of the program's commands.
-/

namespace TagLedger.CommandLine

def commandNames : List String :=
  program.subcommands.map (·.name) ++ [Command.helpName]

def joinedNames (separator : String) (quoted : Bool) : String :=
  separator.intercalate
    (commandNames.map fun name => if quoted then "'" ++ name ++ "'" else name)

def completionLine (shell : Shell) : String :=
  let plain := joinedNames " " false
  match shell with
  | .bash => s!"complete -W '{plain}' {programName}"
  | .elvish =>
      let names := joinedNames " " true
      s!"set edit:completion:arg-completer[{programName}] = \x7b|@words| put {names} \x7d"
  | .fish => s!"complete -c {programName} -f -a '{plain}'"
  | .powershell =>
      let names := joinedNames ", " true
      "Register-ArgumentCompleter -Native " ++
        s!"-CommandName {programName} -ScriptBlock \x7b {names} \x7d"
  | .zsh => s!"compctl -k ({plain}) {programName}"

def completionScript (shell : Shell) : String :=
  unlines [completionLine shell]

end TagLedger.CommandLine

import TagLedger.CommandLine.Grammar
import TagLedger.Settings.OutputMode

/-!
# Requests

What the program can be asked for, and the grammar in which it is asked.
-/

namespace TagLedger.CommandLine

inductive Request where
  | setUp (force : Bool)
  | load (projects charts : Option String)
  | hashtags (debug : Bool) (limit : Option Nat)
  | resolveSlugs (tags : List String)
  | showSlug (slug : String)
  | listSlugs
  | references (key : Option String)
  | addAsset (key : String) (kind : AssetKind) (title : String) (content : Option String)
  | removeAsset (key : String) (force : Bool)
  | listAssets
  | setColor (tag color : String)
  | listColors (tags : List String)
  deriving DecidableEq, Repr

inductive Shell where
  | bash
  | elvish
  | fish
  | powershell
  | zsh
  deriving DecidableEq, Repr

namespace Shell

def name : Shell → String
  | .bash => "bash"
  | .elvish => "elvish"
  | .fish => "fish"
  | .powershell => "powershell"
  | .zsh => "zsh"

def all : List Shell :=
  [.bash, .elvish, .fish, .powershell, .zsh]

def ofName? (name : String) : Option Shell :=
  all.find? (·.name == name)

end Shell

inductive Demand where
  | perform (request : Request)
  | complete (shell : Shell)
  deriving DecidableEq, Repr

/-! ## The grammar -/

def programName : String := "tb"

def versionText : String := "tagboard-cli 0.4.1"

def switch (long : String) (letter : Option Char) : NamedArgument :=
  ⟨long, letter, .nothing .set⟩

def valued (long : String) (letter : Option Char) (placeholder : String) (form : ValueForm) :
    NamedArgument :=
  ⟨long, letter, .value placeholder form false⟩

def everywhere : List NamedArgument :=
  [switch "verbose" (some 'v'),
    valued "format" none "FORMAT" (.oneOf OutputMode.names),
    switch "json" none,
    ⟨"help", some 'h', .nothing .help⟩]

def action (name about : String) (named : List NamedArgument) (positionals : List Positional)
    (build : Given → Option Request) : Command Demand :=
  .action name about (named ++ everywhere) positionals fun given =>
    (build given).map .perform

def group (name about : String) (subcommands : List (Command Demand)) : Command Demand :=
  .group name about everywhere subcommands

def givenCount? (given : Given) (name : String) : Option Nat :=
  (given.value? name).bind fun value => (count value).toOption

def initCommand : Command Demand :=
  action "init" "Initialize a tagboard project" [switch "force" none] [] fun given =>
    some (.setUp (given.has "force"))

def loadCommand : Command Demand :=
  action "load" "Load project and chart documents"
    [valued "projects" none "FILE" .path, valued "charts" none "FILE" .path] [] fun given =>
      some (.load (given.value? "projects") (given.value? "charts"))

def hashtagsCommand : Command Demand :=
  action "hashtags" "Count hashtag usage across projects"
    [switch "debug" none, valued "limit" (some 'l') "LIMIT" .count] [] fun given =>
      some (.hashtags (given.has "debug") (givenCount? given "limit"))

def slugCommand : Command Demand :=
  group "slug" "Resolve or look up hashtag slugs"
    [action "resolve" "Resolve tags to slugs, registering new tags" [] [⟨"TAGS", .text, true⟩]
        fun given => if given.has "TAGS" then some (.resolveSlugs (given.all "TAGS")) else none,
      action "show" "Show the tag behind a slug" [] [⟨"SLUG", .text, false⟩] fun given =>
        (given.value? "SLUG").map .showSlug,
      action "list" "List every registered tag and slug" [] [] fun _ => some .listSlugs]

def refsCommand : Command Demand :=
  action "refs" "Find chart elements that embed an asset" [] [⟨"KEY", .text, false⟩] fun given =>
    some (.references (given.value? "KEY"))

def assetsCommand : Command Demand :=
  group "assets" "Manage content assets"
    [action "add" "Create or update a content asset"
        [valued "kind" none "KIND" .assetKind, valued "title" none "TITLE" .text,
          valued "content" none "CONTENT" .text]
        [⟨"KEY", .text, false⟩] fun given => do
          let key ← given.value? "KEY"
          let kind ← (given.value? "kind").bind AssetKind.parse?
          return .addAsset key kind ((given.value? "title").getD "") (given.value? "content"),
      action "rm" "Delete a content asset unless charts still reference it" [switch "force" none]
        [⟨"KEY", .text, false⟩] fun given =>
          (given.value? "KEY").map fun key => .removeAsset key (given.has "force"),
      action "list" "List content assets" [] [] fun _ => some .listAssets]

def colorsCommand : Command Demand :=
  group "colors" "Manage hashtag display colors"
    [action "set" "Assign a display color to a tag" []
        [⟨"TAG", .text, false⟩, ⟨"COLOR", .text, false⟩] fun given => do
          return .setColor (← given.value? "TAG") (← given.value? "COLOR"),
      action "list" "List tag colors" [⟨"tag", none, .value "TAG" .text true⟩] [] fun given =>
        some (.listColors (given.all "tag"))]

def completionsCommand : Command Demand :=
  .action "completions" "Generate shell completions" everywhere
    [⟨"SHELL", .oneOf (Shell.all.map Shell.name), false⟩] fun given =>
      ((given.value? "SHELL").bind Shell.ofName?).map .complete

def program : Command Demand :=
  .group programName "tagboard: hashtag usage, stable tag slugs, and asset reference tracking"
    (everywhere ++ [⟨"version", some 'V', .nothing .version⟩])
    [initCommand, loadCommand, hashtagsCommand, slugCommand, refsCommand, assetsCommand,
      colorsCommand, completionsCommand]

/-! ## Reading a command line -/

structure Call where
  demand : Demand
  mode : Option OutputMode
  verbose : Bool
  deriving DecidableEq, Repr

/-- The mode that is named innermost; without one, the switch for JSON names it. -/
def modeOf (levels : List Given) : Option OutputMode :=
  match levels.reverse.findSome? (·.value? "format") with
  | some name => OutputMode.parse? name
  | none => if levels.any (·.has "json") then some .json else none

def readCall (words : List String) : Except Stop Call :=
  match program.read programName .start words with
  | .ok invocation =>
      .ok ⟨invocation.result, modeOf invocation.levels,
        invocation.levels.any (·.has "verbose")⟩
  | .error stop => .error stop

end TagLedger.CommandLine

import TagLedger.Toml.Document

/-!
# Settings

A project's settings and a user's are TOML documents in which every key may be missing and unknown
keys mean nothing.  A key that is known must hold a value of its type.
-/

namespace TagLedger

structure ProjectSettings where
  includeDebug : Bool
  limit : Option Nat
  fallbackColor : String
  deriving DecidableEq, Repr

structure UserSettings where
  output : Option String
  deriving DecidableEq, Repr

namespace Toml

/-- The value of a group's setting: by its name in a table, by its place in an array, and nowhere
in a date. -/
def setting? (group : Toml) (place : Nat) (name : String) : Option (Option Toml) :=
  match group with
  | .table _ entries => some (entries.lookup name)
  | .inline entries => some (entries.lookup name)
  | .array items => some items[place]?
  | .datetime => some none
  | _ => none

def settingOr {α : Type} (absent : α) (read : Toml → Option α) : Option Toml → Option α
  | none => some absent
  | some value => read value

def boolean? : Toml → Option Bool
  | .bool value => some value
  | _ => none

def natural? : Toml → Option Nat
  | .integer value => if 0 ≤ value then some value.toNat else none
  | _ => none

def text? : Toml → Option String
  | .string value => some value
  | _ => none

end Toml

namespace ProjectSettings

def default : ProjectSettings :=
  ⟨false, none, "#6b7280"⟩

def withUsage (settings : ProjectSettings) (usage : Toml) : Option ProjectSettings := do
  let includeDebug ← Toml.settingOr false Toml.boolean? (← usage.setting? 0 "include_debug")
  let limit ← Toml.settingOr none (fun value => value.natural?.map some) (← usage.setting? 1 "limit")
  return { settings with includeDebug, limit }

def withColors (settings : ProjectSettings) (colors : Toml) : Option ProjectSettings := do
  let absent := ProjectSettings.default.fallbackColor
  let fallbackColor ← Toml.settingOr absent Toml.text? (← colors.setting? 0 "fallback")
  return { settings with fallbackColor }

def ofEntries (entries : Toml.Entries) : Option ProjectSettings := do
  let settings ← Toml.settingOr default default.withUsage (entries.lookup "usage")
  Toml.settingOr settings settings.withColors (entries.lookup "colors")

def read (text : String) : Option ProjectSettings :=
  (Toml.read text).bind ofEntries

def defaultText : String :=
  "[usage]\ninclude_debug = false\n\n[colors]\nfallback = \"#6b7280\"\n"

end ProjectSettings

namespace UserSettings

def default : UserSettings :=
  ⟨none⟩

def ofEntries (entries : Toml.Entries) : Option UserSettings :=
  Toml.settingOr default (fun value => value.text?.map fun output => ⟨some output⟩)
    (entries.lookup "output")

def read (text : String) : Option UserSettings :=
  (Toml.read text).bind ofEntries

end UserSettings

end TagLedger

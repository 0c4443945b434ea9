import TagLedger.CommandLine.Failure
import TagLedger.Store.Asset

/-!
# The log of a run

What happens in a run is logged as events.  Each has a level, the part of the program in which it
happened, and a message.  The events that a filter lets through are written to where the errors go, a
line for each.

How a line looks, and which filter a text may name, is up to whoever writes the log; a run is told
both.
-/

namespace TagLedger.CommandLine

inductive LogLevel where
  | error
  | warn
  | info
  | debug
  deriving DecidableEq, Repr

namespace LogLevel

/-- How much is shown up to a level. -/
def detail : LogLevel → Nat
  | error => 0
  | warn => 1
  | info => 2
  | debug => 3

def name : LogLevel → String
  | error => "ERROR"
  | warn => "WARN"
  | info => "INFO"
  | debug => "DEBUG"

end LogLevel

structure LogEntry where
  level : LogLevel
  target : String
  message : String
  deriving DecidableEq, Repr

def LogEntry.line (entry : LogEntry) : String :=
  s!"{entry.level.name} {entry.target}: {entry.message}\n"

inductive LogEvent where
  | verboseEnabled
  | settingsIgnored (failure : SettingsFailure)
  | commandFailed (failure : Failure)
  | storeInitialized (path : String) (version : Nat)
  | migrationApplied (version : Nat)
  | metadataUnreadable (path : String)
  | openFailed (path : String) (failure : OpenFailure)
  | documentsWritten (collection : Collection) (count : Nat)
  | documentsLoaded (path : String) (count : Nat) (collection : Collection)
  | projectSkipped (id : String)
  | usageScanned (scanned skipped distinct : Nat)
  | slugsResolved (requested missed created : Nat)
  | slugMissing (tag : String)
  | chartSkipped (id : String)
  | elementsMissing (id : String)
  | referencesScanned (key : String) (scanned skipped usage : Nat)
  | assetSaved (key : String) (kind : AssetKind)
  | referencedAssetDeleted (key : String) (usage : Nat)
  | assetDeleted (key : String)
  | invalidationPublished (dataset : String) (reached : Nat)
  | fetchCompleted (dataset : String)
  | fetchFailed (dataset : String) (failure : Cache.FetchFailure)
  | colorsServed (fetches : Nat)
  deriving DecidableEq, Repr

namespace LogEvent

def entry : LogEvent → LogEntry
  | verboseEnabled => ⟨.info, "tb", "Verbose mode enabled"⟩
  | settingsIgnored _ => ⟨.warn, "tb::output", "ignoring unreadable user config"⟩
  | commandFailed _ => ⟨.debug, "tb", "command failed"⟩
  | storeInitialized .. => ⟨.info, "tb::cmd::init", "initialized store"⟩
  | migrationApplied _ => ⟨.debug, "tagboard_core::db::migrations", "applied store migration"⟩
  | metadataUnreadable _ =>
      ⟨.warn, "tagboard_core::db", "store metadata unreadable, treating as corrupt"⟩
  | openFailed .. => ⟨.warn, "tagboard_core::db", "failed to open store database"⟩
  | documentsWritten .. => ⟨.debug, "tagboard_core::db::documents", "upserted documents"⟩
  | documentsLoaded .. => ⟨.info, "tb::cmd::load", "loaded documents"⟩
  | projectSkipped _ =>
      ⟨.warn, "tagboard_core::tags::usage", "skipping project with unparsable document"⟩
  | usageScanned .. => ⟨.debug, "tagboard_core::tags::usage", "scanned hashtag usage"⟩
  | slugsResolved .. => ⟨.debug, "tagboard_core::tags::slug", "resolved hashtag slugs in batch"⟩
  | slugMissing _ =>
      ⟨.warn, "tagboard_core::tags::usage", "no slug resolved for representation"⟩
  | chartSkipped _ =>
      ⟨.warn, "tagboard_core::refs::scan", "skipping unparsable chart definition"⟩
  | elementsMissing _ =>
      ⟨.debug, "tagboard_core::refs::scan", "chart definition has no elements list"⟩
  | referencesScanned .. => ⟨.debug, "tagboard_core::refs::scan", "scanned asset references"⟩
  | assetSaved .. => ⟨.info, "tb::cmd::assets", "saved content asset"⟩
  | referencedAssetDeleted .. =>
      ⟨.warn, "tagboard_core::db::assets", "force-deleting referenced content asset"⟩
  | assetDeleted _ => ⟨.info, "tagboard_core::db::assets", "deleted content asset"⟩
  | invalidationPublished .. =>
      ⟨.debug, "tagboard_core::cache::bus", "published invalidation"⟩
  | fetchCompleted _ => ⟨.debug, "tagboard_core::cache", "cache fetch completed"⟩
  | fetchFailed .. => ⟨.warn, "tagboard_core::cache", "cache fetch failed"⟩
  | colorsServed _ => ⟨.debug, "tb::cmd::colors", "color table served"⟩

def isOfCore (event : LogEvent) : Bool :=
  event.entry.target.startsWith "tagboard"

end LogEvent

/-! ## What is shown -/

abbrev LogFilter : Type :=
  LogEvent → Bool

namespace LogFilter

def upTo (level : LogLevel) : LogFilter :=
  fun event => event.entry.level.detail ≤ level.detail

/-- The filter that is named by a level.  Nothing is logged that is of more detail than the last. -/
def ofName? (name : String) : Option LogFilter :=
  match Text.asciiLower name with
  | "off" => some fun _ => false
  | "" | "error" => some (upTo .error)
  | "warn" => some (upTo .warn)
  | "info" => some (upTo .info)
  | "debug" | "trace" => some (upTo .debug)
  | _ => none

/-- Without a filter, warnings are shown, of the core also information; in detail, one level more of
both. -/
def default (detailed : Bool) : LogFilter :=
  fun event =>
    match detailed, event.isOfCore with
    | false, false => upTo .warn event
    | true, true => upTo .debug event
    | _, _ => upTo .info event

end LogFilter

/-- What a run learns about its log from its surroundings: a filter, if they name one, whether they ask
for details, and the line of an event after so many others. -/
structure Logging where
  filter : Option LogFilter
  detailed : Bool
  line : Nat → LogEvent → String

namespace Logging

def shown (logging : Logging) (verbose : Bool) (events : List LogEvent) : List LogEvent :=
  events.filter (logging.filter.getD (.default (verbose || logging.detailed)))

def write (logging : Logging) (verbose : Bool) (events : List LogEvent) : String :=
  String.join ((logging.shown verbose events).zipIdx.map fun event => logging.line event.2 event.1)

end Logging

end TagLedger.CommandLine

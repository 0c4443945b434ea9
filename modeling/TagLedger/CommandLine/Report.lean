import TagLedger.CommandLine.Layout
import TagLedger.Json.Printer
import TagLedger.Response
import TagLedger.Settings.OutputMode
import TagLedger.Store.Opening

/-!
# Reports

What a command that succeeds has to say, and its form in each output mode: rows of tab-separated
fields, sections for people, or one JSON object.
-/

namespace TagLedger.CommandLine

structure LoadReport where
  projectsLoaded : Nat
  chartsLoaded : Nat
  projectsTotal : Nat
  chartsTotal : Nat
  deriving DecidableEq, Repr

structure ColorRow where
  tag : String
  color : String
  deriving DecidableEq, Repr

inductive Report where
  | initialized (storePath settingsPath : String) (schemaVersion : Nat)
  | loaded (report : LoadReport)
  | usage (report : UsageReport)
  | resolved (slugs : Table String)
  | shownSlug (entry : SlugEntry)
  | listedSlugs (entries : List SlugEntry)
  | references (report : ReferenceReport)
  | savedAsset (asset : ContentAsset)
  | deletedAsset (report : DeleteReport)
  | listedAssets (assets : List ContentAsset)
  | colors (fallback : String) (rows : List ColorRow)

namespace Report

/-! ## JSON -/

def json : Report → Json
  | initialized storePath settingsPath schemaVersion =>
      success
        [("store", .string storePath), ("config", .string settingsPath),
          ("schema_version", .ofNat schemaVersion)]
  | loaded report =>
      success
        [("projectsLoaded", .ofNat report.projectsLoaded),
          ("chartsLoaded", .ofNat report.chartsLoaded),
          ("projectsTotal", .ofNat report.projectsTotal),
          ("chartsTotal", .ofNat report.chartsTotal)]
  | usage report => report.body
  | resolved slugs =>
      success
        [("slugs", .array (slugs.rows.map fun row =>
          .object [("tag", .string row.1), ("slug", .string row.2)]))]
  | shownSlug entry => success entry.fields
  | listedSlugs entries => success [("entries", .array (entries.map fun entry => .object entry.fields))]
  | references report => report.body
  | savedAsset asset => success [("asset", asset.json)]
  | deletedAsset report =>
      success
        [("key", .string report.key),
          ("danglingReferences", .array (report.dangling.map fun hit => .string hit.elementId))]
  | listedAssets assets => success [("assets", .array (assets.map (·.json)))]
  | colors fallback rows =>
      success
        [("fallback", .string fallback),
          ("colors", .array (rows.map fun row =>
            .object [("tag", .string row.tag), ("color", .string row.color)]))]

/-! ## Rows -/

def deletedLines (report : DeleteReport) : List String :=
  s!"✓ Deleted asset {report.key}" ::
    report.dangling.map fun hit => s!"  warning: {hit.elementId} still references it"

def slugLines (slugs : Table String) : List String :=
  slugs.rows.map fun row => tabbed [row.1, row.2]

def rows : Report → List String
  | initialized storePath _ _ => [tabbed ["initialized", storePath]]
  | loaded report => [tabbed [toString report.projectsLoaded, toString report.chartsLoaded]]
  | usage report =>
      report.hashtags.map fun row => tabbed [toString row.count, row.hashtag, row.slug]
  | resolved slugs => slugLines slugs
  | shownSlug entry => [tabbed [entry.slug, entry.tag]]
  | listedSlugs entries => entries.map fun entry => tabbed [entry.tag, entry.slug]
  | references report =>
      report.charts.map fun chart =>
        tabbed [chart.chartId, toString chart.elementIndex, chart.kind]
  | savedAsset asset => [tabbed [asset.key, asset.kind.name]]
  | deletedAsset report => deletedLines report
  | listedAssets assets => assets.map fun asset => tabbed [asset.key, asset.kind.name, asset.title]
  | colors _ rows => rows.map fun row => tabbed [row.tag, row.color]

/-! ## Sections -/

def usageRow (width : Nat) (count hashtag slug : String) : String :=
  padLeft 6 count ++ "  " ++ padRight width hashtag ++ "  " ++ slug

def debugLines (debug : UsageDebug) : List String :=
  ["",
    s!"scanned {debug.projectsScanned} project(s), skipped {debug.projectsSkipped}, " ++
      s!"{debug.distinctHashtags} distinct, {debug.totalOccurrences} occurrence(s)"]

def usageSection (report : UsageReport) : List String :=
  if report.hashtags.isEmpty then ["No hashtags found."]
  else
    let heading := "HASHTAG"
    let width := (report.hashtags.map (·.hashtag.length)).foldl max heading.length
    headed (usageRow width "COUNT" heading "SLUG") ++
      report.hashtags.map (fun row => usageRow width (toString row.count) row.hashtag row.slug) ++
      (report.debug.map debugLines).getD []

def referenceLine (chart : ChartReference) : String :=
  let title := if chart.title.isEmpty then "(untitled)" else chart.title
  s!"  {chart.chartId}[{chart.elementIndex}]  {padRight 8 chart.kind}  {title}"

def sections : Report → List String
  | initialized storePath settingsPath schemaVersion =>
      [s!"✓ Initialized {storeDirectory}/ project structure.", "",
        keyValue "Store" storePath,
        keyValue "Config" settingsPath,
        keyValue "Schema" (toString schemaVersion), "",
        "Next steps:",
        "  tb load --projects projects.json --charts charts.json",
        "  tb hashtags"]
  | loaded report =>
      [keyValue "Projects" s!"{report.projectsLoaded} loaded ({report.projectsTotal} total)",
        keyValue "Charts" s!"{report.chartsLoaded} loaded ({report.chartsTotal} total)"]
  | usage report => usageSection report
  | resolved slugs => slugLines slugs
  | shownSlug entry =>
      [keyValue "Tag" entry.tag, keyValue "Slug" entry.slug, keyValue "Created" entry.createdAt,
        keyValue "Updated" entry.updatedAt]
  | listedSlugs entries =>
      headed s!"{entries.length} registered tag(s)" ++
        entries.map fun entry => padRight 36 entry.slug ++ "  " ++ entry.tag
  | references report =>
      headed s!"\x60{report.key}\x60 is used by {report.usageCount} chart element(s)" ++
        report.charts.map referenceLine
  | savedAsset asset =>
      [s!"✓ Saved asset {asset.key}", keyValue "Kind" asset.kind.name, keyValue "Title" asset.title]
  | deletedAsset report => deletedLines report
  | listedAssets assets =>
      headed s!"{assets.length} content asset(s)" ++
        assets.map fun asset =>
          padRight 24 asset.key ++ "  " ++ padRight 5 asset.kind.name ++ "  " ++ asset.title
  | colors fallback rows =>
      headed s!"Tag colors (fallback {fallback})" ++
        rows.map fun row => padRight 9 row.color ++ "  " ++ row.tag

def render (report : Report) : OutputMode → String
  | .json => report.json.pretty ++ "\n"
  | .text => unlines report.rows
  | .pretty => unlines report.sections

end Report

end TagLedger.CommandLine

import TagLedger.Store.Asset
import TagLedger.Store.Usage

/-!
# Response bodies

The JSON form of what the operations report, with the fields in their documented order.
-/

namespace TagLedger

def HashtagCount.json (row : HashtagCount) : Json :=
  .object [("hashtag", .string row.hashtag), ("slug", .string row.slug), ("count", .ofNat row.count)]

def UsageDebug.json (debug : UsageDebug) : Json :=
  .object
    [("projectsScanned", .ofNat debug.projectsScanned),
      ("projectsSkipped", .ofNat debug.projectsSkipped),
      ("distinctHashtags", .ofNat debug.distinctHashtags),
      ("totalOccurrences", .ofNat debug.totalOccurrences)]

def optionalField (name : String) : Option Json → List (String × Json)
  | some value => [(name, value)]
  | none => []

def success (fields : List (String × Json)) : Json :=
  .object (("success", .bool true) :: fields)

def UsageReport.body (report : UsageReport) : Json :=
  success
    (("hashtags", .array (report.hashtags.map (·.json))) ::
      optionalField "debug" (report.debug.map (·.json)))

def ChartReference.json (chart : ChartReference) : Json :=
  .object
    [("chartId", .string chart.chartId), ("title", .string chart.title),
      ("type", .string chart.kind), ("elementIndex", .ofNat chart.elementIndex)]

def ReferenceReport.body (report : ReferenceReport) : Json :=
  success
    [("slug", .string report.key), ("usageCount", .ofNat report.usageCount),
      ("charts", .array (report.charts.map (·.json)))]

def SlugEntry.fields (entry : SlugEntry) : List (String × Json) :=
  [("tag", .string entry.tag), ("slug", .string entry.slug),
    ("createdAt", .string entry.createdAt), ("updatedAt", .string entry.updatedAt)]

def ContentAsset.json (asset : ContentAsset) : Json :=
  .object
    ([("key", .string asset.key), ("kind", .string asset.kind.name),
        ("title", .string asset.title)] ++
      optionalField "content" (asset.content.map .string) ++
      [("createdAt", .string asset.createdAt), ("updatedAt", .string asset.updatedAt)])

end TagLedger

import RecordCache.Report.Json
import RecordCache.Report.Sample
import RecordCache.Report.Snapshot
/-! Reports on snapshots and samples, as text, as JSON and as one line. -/
namespace RecordCache

inductive ReportFormat where
  | text
  | json
  | compact
  deriving DecidableEq, Repr

instance : Inhabited ReportFormat := ⟨.text⟩

def Census.json (c : Census) : JsonText :=
  .object [("unknown", .number c.unknown), ("short_term", .number c.shortTerm),
    ("long_term", .number c.longTerm)]

namespace Snapshot

def percentText (s : Snapshot) : String := twoPlaces (s.hitRate * 100.0) ++ "%"

def text (s : Snapshot) : String :=
  "=== Window Pool: " ++ s.storeName ++ " ===\n"
    ++ "Pages:\n"
    ++ "  Table Size:   " ++ toString s.pageTableSize ++ "\n"
    ++ "  Resident:     " ++ toString s.residentPages ++ "\n"
    ++ "  Page Size:    " ++ toString s.bytesPerPage ++ " bytes (" ++ toString s.recordsPerPage
    ++ " records)\n"
    ++ "\n"
    ++ "Tiers:\n"
    ++ "  Unknown:      " ++ toString s.tiers.unknown ++ "\n"
    ++ "  Short Term:   " ++ toString s.tiers.shortTerm ++ "\n"
    ++ "  Long Term:    " ++ toString s.tiers.longTerm ++ "\n"
    ++ "\n"
    ++ "Access:\n"
    ++ "  Hits:         " ++ toString s.hitCount ++ "\n"
    ++ "  Misses:       " ++ toString s.missCount ++ "\n"
    ++ "  Hit Rate:     " ++ s.percentText ++ "\n"

def json (s : Snapshot) : JsonText :=
  .object
    [("store_name", .text s.storeName),
     ("page_table_size", .number s.pageTableSize),
     ("bytes_per_page", .number s.bytesPerPage),
     ("records_per_page", .number s.recordsPerPage),
     ("hit_count", .number s.hitCount),
     ("miss_count", .number s.missCount),
     ("resident_pages", .number s.residentPages),
     ("tier_counts", s.tiers.json)]

def line (s : Snapshot) : String :=
  "store=" ++ s.storeName ++ " pages=" ++ toString s.pageTableSize ++ " resident="
    ++ toString s.residentPages ++ " hits=" ++ toString s.hitCount ++ " misses="
    ++ toString s.missCount ++ " hit_rate=" ++ s.percentText

def report (s : Snapshot) : ReportFormat → String
  | .text => s.text
  | .json => s.json.indented 0
  | .compact => s.line

end Snapshot

namespace Sample

def json (s : Sample) : JsonText :=
  .object [("store", .text s.store), ("acquired", .number s.acquired),
    ("mapped", .number s.mapped), ("elapsed_ms", .number s.elapsedMillis)]

def line (s : Sample) : String :=
  "store=" ++ s.store ++ " acquired=" ++ toString s.acquired ++ " mapped=" ++ toString s.mapped
    ++ " miss=" ++ twoPlaces s.missPercent ++ "% elapsed_ms=" ++ toString s.elapsedMillis

def report (s : Sample) : ReportFormat → String
  | .text => s.text
  | .json => s.json.indented 0
  | .compact => s.line

end Sample

end RecordCache

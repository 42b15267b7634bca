import RecordCache.Replacement.Eviction
import RecordCache.Report.Sample
/-! Log events. -/
namespace RecordCache

inductive LogLevel where
  | trace
  | debug
  | info
  | warn
  deriving DecidableEq, Repr

def LogLevel.name : LogLevel → String
  | trace => "TRACE"
  | debug => "DEBUG"
  | info => "INFO"
  | warn => "WARN"

inductive LogValue where
  | number (n : Nat)
  | real (x : Float)
  | text (s : String)

inductive Event where
  | pageEvicted (eviction : Eviction)
  | loadFailed (store : String) (position byteOffset : Nat) (page : PageId) (error : LoadError)
  | poolOpened (store : String) (fileSize bytesPerRecord recordsPerPage capacity pages : Nat)
  | poolClosed (store : String) (released acquired mapped : Nat)
  | sampled (sample : Sample)
  deriving DecidableEq, Repr

namespace Event

def level : Event → LogLevel
  | pageEvicted _ => .trace
  | loadFailed .. => .warn
  | poolOpened .. => .debug
  | poolClosed .. => .debug
  | sampled _ => .info

def message : Event → String
  | pageEvicted _ => "page evicted"
  | loadFailed .. => "failed to load page"
  | poolOpened .. => "window pool opened"
  | poolClosed .. => "window pool closed"
  | sampled sample => sample.text

def fields : Event → List (String × LogValue)
  | pageEvicted e =>
    [("page", .text (toString e.page)), ("address", .number e.address), ("tier", .text e.tier.name)]
  | loadFailed store position byteOffset page error =>
    [("store", .text store), ("position", .number position), ("byte_offset", .number byteOffset),
     ("page", .text (toString page)), ("error", .text error.message)]
  | poolOpened store fileSize bytesPerRecord recordsPerPage capacity pages =>
    [("store", .text store), ("file_size", .number fileSize),
     ("bytes_per_record", .number bytesPerRecord), ("records_per_page", .number recordsPerPage),
     ("capacity", .number capacity), ("pages", .number pages)]
  | poolClosed store released acquired mapped =>
    [("store", .text store), ("released", .number released), ("acquired", .number acquired),
     ("mapped", .number mapped)]
  | sampled sample =>
    [("store", .text sample.store), ("acquired", .number sample.acquired),
     ("mapped", .number sample.mapped), ("miss_pct", .real sample.missPercent),
     ("elapsed_ms", .number sample.elapsedMillis)]

end Event

end RecordCache

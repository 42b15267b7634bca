import RecordCache.IoError
/-! Errors of a window pool. -/
namespace RecordCache

inductive Operation where
  | read
  | write
  deriving DecidableEq, Repr

def Operation.name : Operation → String
  | read => "READ"
  | write => "WRITE"

inductive PoolError where
  /-- A record is empty or does not fit a page. -/
  | invalidRecordSize (bytesPerRecord targetBytesPerPage : Nat)
  | invalidCapacity (capacity : Nat)
  | positionOverflow (position recordsPerPage pageNumber : Nat)
  | unsupportedOperation (operation : Operation)
  | storage (position byteOffset : Nat) (cause : LoadError)
  | io (cause : IoError)
  deriving DecidableEq, Repr

namespace PoolError

def message : PoolError → String
  | invalidRecordSize bytes target =>
    s!"number of bytes per record [{bytes}] is not in the valid range [1-{target}]"
  | invalidCapacity capacity => s!"pool capacity must be at least one page, got {capacity}"
  | positionOverflow position records number =>
    s!"position [record {position}] with current page size [{records} records/page] implies an " ++
      s!"impossible page number [{number}]"
  | unsupportedOperation operation =>
    s!"unsupported operation {operation.name}: only READ operations are supported"
  | storage position byteOffset _ => s!"unable to load position[{position}] @[{byteOffset}]"
  | io cause => "io error: " ++ cause.message

def isConfig : PoolError → Bool
  | invalidRecordSize .. | invalidCapacity _ => true
  | _ => false

def isIo : PoolError → Bool
  | storage .. | io _ => true
  | _ => false

end PoolError

end RecordCache

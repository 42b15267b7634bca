import RecordCache.Census
/-! The figures of a pool at one moment. -/
namespace RecordCache

structure Snapshot where
  storeName : String
  pageTableSize : Nat
  bytesPerPage : Nat
  recordsPerPage : Nat
  hitCount : Nat
  missCount : Nat
  residentPages : Nat
  tiers : Census
  deriving DecidableEq, Repr

namespace Snapshot

def acquireCount (s : Snapshot) : Nat := s.hitCount + s.missCount

def hitRate (s : Snapshot) : Float :=
  if s.acquireCount = 0 then 0.0 else Float.ofNat s.hitCount / Float.ofNat s.acquireCount

end Snapshot

end RecordCache

import RecordCache.Decimal.Render
/-! Hit-rate samples: how many pages were acquired and mapped during one interval. -/
namespace RecordCache

structure Sample where
  store : String
  acquired : Nat
  mapped : Nat
  /-- The length of the interval in nanoseconds. -/
  elapsed : Nat
  deriving DecidableEq, Repr

namespace Sample

def missPercent (s : Sample) : Float :=
  if s.acquired = 0 then 0.0 else Float.ofNat s.mapped * 100.0 / Float.ofNat s.acquired

def hitRate (s : Sample) : Float :=
  if s.acquired = 0 then 0.0 else Float.ofNat (s.acquired - s.mapped) / Float.ofNat s.acquired

/-- The length of the interval in whole milliseconds, of which the low 64 bits are kept. -/
def elapsedMillis (s : Sample) : Nat := s.elapsed / tenTo 6 % twoTo 64

def text (s : Sample) : String :=
  "In " ++ s.store ++ ": " ++ toString s.acquired ++ " pages acquired, " ++ toString s.mapped
    ++ " pages mapped (" ++ twoPlaces s.missPercent ++ "%) in " ++ toString s.elapsedMillis ++ " ms"

end Sample

/-- Turns running totals into samples. Each sample covers what the totals gained over the greatest
ones seen before. -/
structure Sampler where
  store : String
  lastAcquired : Nat := 0
  lastMapped : Nat := 0
  /-- The time of the last sample, in nanoseconds. -/
  lastTime : Nat := 0
  deriving DecidableEq, Repr

namespace Sampler

/-- Whether the acquisition with this number ends an interval. An interval of zero never ends. -/
def isDue (interval acquired : Nat) : Bool :=
  interval ≠ 0 ∧ acquired ≠ 0 ∧ acquired % interval = 0

def sample (s : Sampler) (acquired mapped time : Nat) : Sample × Sampler :=
  ({ store := s.store
     acquired := acquired - s.lastAcquired
     mapped := mapped - s.lastMapped
     elapsed := time - s.lastTime },
   { s with
     lastAcquired := max s.lastAcquired acquired
     lastMapped := max s.lastMapped mapped
     lastTime := time })

end Sampler

end RecordCache

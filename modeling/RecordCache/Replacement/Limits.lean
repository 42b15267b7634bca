import RecordCache.Fault
import RecordCache.Fraction
/-! How many pages may be resident, and how many of them in the upper tiers. -/
namespace RecordCache

structure Limits where
  capacity : Nat
  /-- The bound on the two upper tiers together. -/
  protectedLimit : Nat
  /-- The bound on the top tier. -/
  longTermLimit : Nat
  deriving DecidableEq, Repr

namespace Limits

def defaultProtectedFraction : Float := 1.0

def defaultLongTermFraction : Float := 0.5

def ofFractions (capacity : Nat) (protectedFraction longTermFraction : Float) :
    Except Fault Limits :=
  if capacity = 0 then .error .capacityZero
  else .ok
    { capacity
      protectedLimit := shareOf capacity protectedFraction
      longTermLimit := shareOf capacity longTermFraction }

end Limits

end RecordCache

import RecordCache.Power
/-! Numbers of 64 bits read exactly: a sign, and a significand times a power of two. -/
namespace RecordCache

structure Binary64 where
  negative : Bool
  significand : Nat
  exponent : Int
  deriving DecidableEq, Repr

inductive Binary64.Reading where
  | notANumber
  | infinite (negative : Bool)
  | finite (value : Binary64)
  deriving DecidableEq, Repr

namespace Binary64

def ofWord (word : Nat) : Reading :=
  let negative := word / twoTo 63 % 2 = 1
  let exponent : Nat := word / twoTo 52 % twoTo 11
  let fraction := word % twoTo 52
  if exponent = 2047 then
    if fraction = 0 then .infinite negative else .notANumber
  else if exponent = 0 then .finite ⟨negative, fraction, -1074⟩
  else .finite ⟨negative, twoTo 52 + fraction, Int.ofNat exponent - 1075⟩

def ofFloat (x : Float) : Reading := ofWord x.toBits.toNat

def isBinadeStart (b : Binary64) : Bool := b.significand = twoTo 52 ∧ -1074 < b.exponent

def ratio (b : Binary64) : Nat × Nat :=
  (b.significand * twoTo b.exponent.toNat, twoTo (-b.exponent).toNat)

end Binary64

end RecordCache

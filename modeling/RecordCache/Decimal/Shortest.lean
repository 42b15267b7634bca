import RecordCache.Decimal.Binary64
/-! The fewest decimal digits that read back. Every real in the rounding interval of a number reads
back as it; the interval has its ends if the significand is even. Of the grids of decimals with one,
two, three digits and so on, the first that has a point in the interval gives the digits. A point of
a grid lies in the interval only if one of the two neighbours of the number does. -/
namespace RecordCache

structure Decimal where
  digits : Nat
  exponent : Int
  deriving DecidableEq, Repr

namespace Decimal

def compareBinary (digits : Nat) (k : Int) (quarters : Nat) (e : Int) : Ordering :=
  compare (digits * tenTo k.toNat * twoTo (-e).toNat)
    (quarters * twoTo e.toNat * tenTo (-k).toNat)

/-- Whether `digits * 10 ^ k` reads back as the number. The ends of the interval are counted in
quarters of the last place. -/
def readsBack (b : Binary64) (digits : Nat) (k : Int) : Bool :=
  let low := 4 * b.significand - (if b.isBinadeStart then 1 else 2)
  let high := 4 * b.significand + 2
  let closed := b.significand % 2 = 0
  (match compareBinary digits k low (b.exponent - 2) with
    | .lt => false
    | .eq => closed
    | .gt => true) &&
  (match compareBinary digits k high (b.exponent - 2) with
    | .lt => true
    | .eq => closed
    | .gt => false)

def floorOnGrid (b : Binary64) (k : Int) : Nat :=
  (b.significand * twoTo b.exponent.toNat * tenTo (-k).toNat) /
    (twoTo (-b.exponent).toNat * tenTo k.toNat)

def upperIsNearer (b : Binary64) (d : Nat) (k : Int) : Bool :=
  compareBinary (2 * d + 1) k (2 * b.significand) b.exponent != .gt

def onGrid? (b : Binary64) (k : Int) : Option Decimal :=
  let d := floorOnGrid b k
  match readsBack b d k, readsBack b (d + 1) k with
  | true, true => some ⟨if upperIsNearer b d k then d + 1 else d, k⟩
  | true, false => some ⟨d, k⟩
  | false, true => some ⟨d + 1, k⟩
  | false, false => none

/-- The exponent of the leading digit. Every positive number is above `10 ^ (-350)`. -/
def leadingExponent (b : Binary64) : Int :=
  (Nat.toDigits 10 (floorOnGrid b (-350))).length - 351

def dropTrailingZeros : Nat → Decimal → Decimal
  | 0, d => d
  | n + 1, d =>
    if d.digits % 10 = 0 ∧ d.digits ≠ 0 then dropTrailingZeros n ⟨d.digits / 10, d.exponent + 1⟩
    else d

/-- The decimal with the fewest digits that reads back as a positive number. -/
def shortest (b : Binary64) : Decimal :=
  if b.significand = 0 then ⟨0, 0⟩
  else
    let grids := (List.range 17).map fun i => leadingExponent b - Int.ofNat i
    dropTrailingZeros 17 ((grids.findSome? (onGrid? b)).getD ⟨0, 0⟩)

end Decimal

end RecordCache

import RecordCache.Power
/-! Numbers of 64 bits read from decimals: the nearest one, and of two as near the even one. -/
namespace RecordCache

def roundHalfEven (n d : Nat) : Nat :=
  let q := n / d
  let twice := 2 * (n % d)
  if twice < d ∨ (twice = d ∧ q % 2 = 0) then q else q + 1

namespace Binary64

def infinityWord : Nat := 2047 * twoTo 52

/-- The word of the magnitude nearest to `n / d`, which is positive. The significand is the fraction
in units of `2 ^ e`, rounded, where `e` gives it 53 bits or is the least exponent; a carry out of
the significand falls into the exponent field, and a full exponent field is infinity. -/
def nearestWord (n d : Nat) : Nat :=
  let units (e : Int) : Nat × Nat := (n * twoTo (-e).toNat, d * twoTo e.toNat)
  let guess : Int := (n.log2 : Int) - d.log2 - 52
  let short := (units guess).1 / (units guess).2 < twoTo 52
  let e := max (if short then guess - 1 else guess) (-1074)
  min (roundHalfEven (units e).1 (units e).2 + (e + 1074).toNat * twoTo 52) infinityWord

/-- The number nearest to `digits * 10 ^ exponent`, with a sign. Far outside the range of exponents
the answer does not depend on the digits. -/
def ofDecimal (negative : Bool) (digits : Nat) (exponent : Int) : Float :=
  let size := exponent + (Nat.toDigits 10 digits).length
  let word :=
    if digits = 0 ∨ size < -330 then 0
    else if 310 < size then infinityWord
    else nearestWord (digits * tenTo exponent.toNat) (tenTo (-exponent).toNat)
  Float.ofBits (word + if negative then twoTo 63 else 0).toUInt64

end Binary64

end RecordCache

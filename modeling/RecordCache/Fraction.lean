/-! Shares of a whole. -/
namespace RecordCache

/-- The nearest number from zero to one. What is no number stays as it is, and so does minus zero.
-/
def clampUnit (x : Float) : Float :=
  if x < 0.0 then 0.0 else if 1.0 < x then 1.0 else x

/-- The least whole number that is not below `x`, for `x` neither below zero nor past 64 bits. -/
def ceilNat (x : Float) : Nat :=
  let n := x.toUInt64.toNat
  if Float.ofNat n < x then n + 1 else n

/-- The share `fraction` of `whole`, rounded up: at least one and at most `whole`. A fraction that
is not finite stands for the whole. -/
def shareOf (whole : Nat) (fraction : Float) : Nat :=
  let fraction := if fraction.isFinite then clampUnit fraction else 1.0
  max 1 (min (ceilNat (Float.ofNat whole * fraction)) whole)

theorem one_le_shareOf (whole : Nat) (fraction : Float) : 1 ≤ shareOf whole fraction :=
  Nat.le_max_left ..

theorem shareOf_le {whole : Nat} (fraction : Float) (h : 1 ≤ whole) :
    shareOf whole fraction ≤ whole :=
  Nat.max_le.2 ⟨h, Nat.min_le_right ..⟩

end RecordCache

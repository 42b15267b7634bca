import Mathlib
import RecordCache.Fraction
/-! The order of the floats, as far as clamping needs it. What is no number compares with nothing;
of two numbers one is at most the other. So clamping leaves what is no number alone, and takes any
number to the nearest from zero to one. -/
namespace RecordCache

open Float.Model (UnpackedFloat)

variable {x y : Float}

theorem lt_iff_compare : x < y ↔ x.toModel.unpack.compare y.toModel.unpack = some .lt := by
  calc x < y
    _ ↔ decide (x.toModel < y.toModel) = true := Iff.rfl
    _ ↔ (x.toModel.unpack.compare y.toModel.unpack == some .lt) = true := decide_eq_true_iff
    _ ↔ x.toModel.unpack.compare y.toModel.unpack = some .lt := beq_iff_eq

theorem le_iff_compare :
    x ≤ y ↔ (x.toModel.unpack.compare y.toModel.unpack).any Ordering.isLE = true := by
  calc x ≤ y
    _ ↔ decide (x.toModel ≤ y.toModel) = true := Iff.rfl
    _ ↔ (x.toModel.unpack.compare y.toModel.unpack).any Ordering.isLE = true := decide_eq_true_iff

theorem isSome_compare (a b : UnpackedFloat) :
    (a.compare b).isSome = (!a.isNaN && !b.isNaN) := by
  fun_cases UnpackedFloat.compare a b <;> simp_all [UnpackedFloat.isNaN]

theorem compare_swap (a b : UnpackedFloat) : b.compare a = (a.compare b).map Ordering.swap := by
  cases a with
  | notANumber => cases b <;> rfl
  | infinity s =>
    cases b with
    | notANumber => rfl
    | infinity t => cases s <;> cases t <;> rfl
    | zero t => cases s <;> rfl
    | finite t n f hn => cases s <;> rfl
  | zero s =>
    cases b with
    | notANumber => rfl
    | infinity t => cases t <;> rfl
    | zero t => rfl
    | finite t n f hn => cases t <;> rfl
  | finite s m e hm =>
    cases b with
    | notANumber => rfl
    | infinity t => cases t <;> rfl
    | zero t => cases s <;> rfl
    | finite t n f hn =>
      have hexponent : compare f e = (compare e f).swap := Std.OrientedCmp.eq_swap
      have hmantissa : compare n m = (compare m n).swap := Std.OrientedCmp.eq_swap
      cases s <;> cases t <;>
        simp [UnpackedFloat.compare, hexponent, hmantissa, Ordering.swap_then]

theorem not_lt_of_isNaN (h : x.isNaN = true ∨ y.isNaN = true) : ¬x < y := by
  intro hlt
  have hsome := isSome_compare x.toModel.unpack y.toModel.unpack
  rw [lt_iff_compare.mp hlt] at hsome
  change true = (!x.isNaN && !y.isNaN) at hsome
  rcases h with h | h
  · rw [h] at hsome
    cases hsome
  · rw [h, Bool.not_true, Bool.and_false] at hsome
    cases hsome

theorem le_iff_not_lt (hx : x.isNaN = false) (hy : y.isNaN = false) : x ≤ y ↔ ¬y < x := by
  have hsome : (x.toModel.unpack.compare y.toModel.unpack).isSome = (!x.isNaN && !y.isNaN) :=
    isSome_compare ..
  rw [hx, hy] at hsome
  obtain ⟨o, ho⟩ := Option.isSome_iff_exists.mp hsome
  rw [lt_iff_compare, le_iff_compare, compare_swap x.toModel.unpack, ho]
  cases o <;> simp

theorem not_lt_of_le (h : x ≤ y) : ¬y < x := by
  rw [le_iff_compare] at h
  rw [lt_iff_compare, compare_swap x.toModel.unpack]
  cases ho : x.toModel.unpack.compare y.toModel.unpack with
  | none => simp
  | some o =>
    rw [ho] at h
    cases o <;> simp_all

theorem clampUnit_of_isNaN (h : x.isNaN = true) : clampUnit x = x := by
  rw [clampUnit, if_neg (not_lt_of_isNaN (.inl h)), if_neg (not_lt_of_isNaN (.inr h))]

theorem clampUnit_of_mem (h₀ : 0.0 ≤ x) (h₁ : x ≤ 1.0) : clampUnit x = x := by
  rw [clampUnit, if_neg (not_lt_of_le h₀), if_neg (not_lt_of_le h₁)]

theorem clampUnit_of_neg (h : x < 0.0) : clampUnit x = 0.0 := if_pos h

theorem clampUnit_of_one_lt (h : 1.0 < x) : clampUnit x = 1.0 := by
  have hpositive : ¬x < 0.0 := by
    rw [lt_iff_compare] at h ⊢
    change (UnpackedFloat.finite .positive 4503599627370496 (-52) (by decide)).compare _ = _ at h
    change x.toModel.unpack.compare (.zero .positive) ≠ _
    cases hx : x.toModel.unpack with
    | notANumber => simp [UnpackedFloat.compare]
    | infinity s => cases s <;> simp_all [UnpackedFloat.compare]
    | zero s => simp [UnpackedFloat.compare]
    | finite s n f hn => cases s <;> simp_all [UnpackedFloat.compare]
  rw [clampUnit, if_neg hpositive, if_pos h]

theorem clampUnit_mem (h : x.isNaN = false) :
    0.0 ≤ clampUnit x ∧ clampUnit x ≤ 1.0 := by
  unfold clampUnit
  split
  case isTrue hneg => decide
  case isFalse hneg =>
    split
    case isTrue hone => decide
    case isFalse hone =>
      constructor
      · exact (le_iff_not_lt (by decide) h).mpr hneg
      · exact (le_iff_not_lt h (by decide)).mpr hone

end RecordCache

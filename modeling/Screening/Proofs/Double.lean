import Mathlib

/-!
# Doubles as they are compared

A double equals itself unless it is no number. The product of two finite doubles
may be infinite, but is always a number. A double is taken apart into its sign,
mantissa and exponent; no rounding is computed.
-/

set_option autoImplicit false

namespace Screening.Double

open Float.Model Float.Model.UnpackedFloat

theorem beq_self (x : Float) (h : x.isNaN = false) : (x == x) = true := by
  rw [Float.isNaN_eq_decide_eq_nan, decide_eq_false_iff_not] at h
  exact Float.beq_self_iff.mpr h

/-- Components are no number exactly if the exponent is full and the mantissa is not zero. -/
theorem isNaN_unpack_components (s : Sign) (e : BitVec 11) (m : BitVec 52) :
    (unpack Format.binary64 (packComponents Format.binary64 s e m)).isNaN =
      (decide (e = -1#11) && decide (m ≠ 0#52)) := by
  unfold UnpackedFloat.unpack
  simp only [unpackExponent_packComponents, unpackMantissa_packComponents]
  by_cases he : e = -1#11
  · by_cases hm : m = 0#52 <;> simp [he, hm, UnpackedFloat.isNaN]
  · rw [if_neg he, decide_eq_false he, Bool.false_and]
    by_cases hz : e = 0#11
    · by_cases hm : m = 0#52 <;> simp [hz, hm, UnpackedFloat.isNaN]
    · rw [if_neg hz]
      rfl

theorem isNaN_unpack_pack (u : UnpackedFloat) (h : u.isNaN = false) :
    (unpack Format.binary64 (pack Format.binary64 u)).isNaN = false := by
  fun_cases UnpackedFloat.pack Format.binary64 u with
  | case1 => simp [UnpackedFloat.isNaN] at h
  | case2 s => rw [packedInfinity, isNaN_unpack_components]; simp
  | case3 s => rw [packedZero, isNaN_unpack_components]; decide
  | case4 s m e hm biased hb => rw [packedInfinity, isNaN_unpack_components]; simp
  | case5 s m e hm bits biased hb hn =>
    have hfull : BitVec.ofNat 11 biased ≠ -1#11 := by
      intro he
      have hv := congrArg BitVec.toNat he
      simp at hv hb
      omega
    rw [isNaN_unpack_components, decide_eq_false hfull, Bool.false_and]
  | case6 s m e hm bits biased hb hn => rw [isNaN_unpack_components]; simp

theorem isNaN_round (s : Sign) (m : Nat) (e : Int) (a : Accuracy) :
    (roundWithAccuracy Format.binary64 s m e a).isNaN = false := by
  simp only [roundWithAccuracy]
  split <;> rfl

/-- A product overflows at most; it never stops being a number. -/
theorem isNaN_mul (x y : Float) (hx : x.isFinite = true) (hy : y.isFinite = true) :
    (x * y).isNaN = false := by
  apply isNaN_unpack_pack
  change x.toModel.unpack.isFinite = true at hx
  change y.toModel.unpack.isFinite = true at hy
  cases hu : x.toModel.unpack with
  | notANumber => simp [hu, UnpackedFloat.isFinite] at hx
  | infinity s => simp [hu, UnpackedFloat.isFinite] at hx
  | zero s =>
    cases hv : y.toModel.unpack with
    | notANumber => simp [hv, UnpackedFloat.isFinite] at hy
    | infinity t => simp [hv, UnpackedFloat.isFinite] at hy
    | zero t => rfl
    | finite t n f hn => rfl
  | finite s m e hm =>
    cases hv : y.toModel.unpack with
    | notANumber => simp [hv, UnpackedFloat.isFinite] at hy
    | infinity t => simp [hv, UnpackedFloat.isFinite] at hy
    | zero t => rfl
    | finite t n f hn => exact isNaN_round _ _ _ _

theorem isNaN_of_isFinite (x : Float) (h : x.isFinite = true) : x.isNaN = false := by
  change x.toModel.unpack.isFinite = true at h
  change x.toModel.unpack.isNaN = false
  cases hu : x.toModel.unpack <;> simp_all [UnpackedFloat.isFinite, UnpackedFloat.isNaN]

end Screening.Double

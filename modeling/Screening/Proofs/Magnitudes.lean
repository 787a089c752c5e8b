import Screening.Proofs.DoubleOrder
import Screening.Proofs.PowersOfTen

/-!
# The values of doubles

A finite double is a mantissa times a power of two. A double holds each such number in one
way only, with as many bits as there is room for, so the order of doubles by exponent and
mantissa is the order of their values.
-/

set_option autoImplicit false

namespace Screening.Double

open Float.Model Float.Model.UnpackedFloat

def valueOf : UnpackedFloat → ℚ
  | .finite s m e _ => s.apply m * 2 ^ e
  | _ => 0

def value (x : Float) : ℚ := valueOf x.toModel.unpack

theorem valueOf_positive (m : ℕ) (e : ℤ) (hm : 0 < m) :
    valueOf (.finite .positive m e hm) = m * 2 ^ e := rfl

theorem valueOf_negative (m : ℕ) (e : ℤ) (hm : 0 < m) :
    valueOf (.finite .negative m e hm) = -(m * 2 ^ e) := by
  simp [valueOf, Sign.apply]

theorem valueOf_neg (u : UnpackedFloat) : valueOf u.neg = -valueOf u := by
  cases u with
  | finite s m e hm =>
    cases s with
    | negative =>
      rw [valueOf_negative, neg_neg]
      rfl
    | positive => exact valueOf_negative m e hm
  | _ => exact neg_zero.symm

theorem value_neg (x : Float) (h : x.isFinite = true) : value (-x) = -value x := by
  rw [value, unpack_neg x h, valueOf_neg, value]

theorem magnitude_pos (m : ℕ) (e : ℤ) (hm : 0 < m) : (0 : ℚ) < m * 2 ^ e :=
  mul_pos (by exact_mod_cast hm) (zpow_pos two_pos e)

/-- A greater exponent makes up for any mantissa, since mantissas are of full length. -/
theorem magnitude_lt (m n : ℕ) (e f : ℤ) (hm : Canonical m e) (hn : Canonical n f)
    (h : e < f ∨ e = f ∧ m < n) : (m : ℚ) * 2 ^ e < n * 2 ^ f := by
  have htwo (g : ℤ) : (0 : ℚ) < 2 ^ g := zpow_pos two_pos g
  rcases h with hlt | ⟨rfl, hlt⟩
  · have hbits : (m : ℚ) < 2 ^ 53 := by exact_mod_cast hm.bits
    have hnormal : (2 : ℚ) ^ 52 ≤ n := by
      rcases hn.normal with hnormal | hleast
      · exact_mod_cast hnormal
      · have hbelow := hm.least
        omega
    calc (m : ℚ) * 2 ^ e < 2 ^ 53 * 2 ^ e := mul_lt_mul_of_pos_right hbits (htwo e)
      _ = 2 ^ 52 * 2 ^ (e + 1) := by rw [zpow_add_one₀ two_ne_zero]; ring
      _ ≤ 2 ^ 52 * 2 ^ f :=
        mul_le_mul_of_nonneg_left (zpow_le_zpow_right₀ one_le_two hlt) (by norm_num)
      _ ≤ n * 2 ^ f := mul_le_mul_of_nonneg_right hnormal (htwo f).le
  · have hless : (m : ℚ) < n := by exact_mod_cast hlt
    exact mul_lt_mul_of_pos_right hless (htwo e)

theorem toLex_lt_iff (a b c d e f : ℤ) :
    toLex (a, toLex (b, c)) < toLex (d, toLex (e, f)) ↔
      a < d ∨ a = d ∧ (b < e ∨ b = e ∧ c < f) := by
  rw [Prod.Lex.toLex_lt_toLex, Prod.Lex.toLex_lt_toLex]

theorem toLex_eq_iff (a b c d e f : ℤ) :
    toLex (a, toLex (b, c)) = toLex (d, toLex (e, f)) ↔ a = d ∧ b = e ∧ c = f := by
  simp

theorem valueOf_lt_of_rank_lt (u v : UnpackedFloat) (hu : Held u) (hv : Held v)
    (h : rank u < rank v) : valueOf u < valueOf v := by
  cases hu with
  | zero s =>
    cases hv with
    | zero t => exact absurd h (lt_irrefl _)
    | finite t n f hn hf =>
      cases t with
      | negative => exact absurd ((toLex_lt_iff _ _ _ _ _ _).mp h) (by omega)
      | positive => exact magnitude_pos n f hn
  | finite s m e hm he =>
    cases s with
    | negative =>
      rw [valueOf_negative]
      have hbelow := neg_neg_of_pos (magnitude_pos m e hm)
      cases hv with
      | zero t => exact hbelow
      | finite t n f hn hf =>
        cases t with
        | negative =>
          rw [valueOf_negative, neg_lt_neg_iff]
          have horder := (toLex_lt_iff _ _ _ _ _ _).mp h
          exact magnitude_lt n m f e hf he (by omega)
        | positive => exact hbelow.trans (magnitude_pos n f hn)
    | positive =>
      cases hv with
      | zero t => exact absurd ((toLex_lt_iff _ _ _ _ _ _).mp h) (by omega)
      | finite t n f hn hf =>
        cases t with
        | negative => exact absurd ((toLex_lt_iff _ _ _ _ _ _).mp h) (by omega)
        | positive =>
          have horder := (toLex_lt_iff _ _ _ _ _ _).mp h
          exact magnitude_lt m n e f he hf (by omega)

theorem valueOf_eq_of_rank_eq (u v : UnpackedFloat) (hu : Held u) (hv : Held v)
    (h : rank u = rank v) : valueOf u = valueOf v := by
  cases hu with
  | zero s =>
    cases hv with
    | zero t => rfl
    | finite t n f hn hf => cases t <;> exact absurd ((toLex_eq_iff _ _ _ _ _ _).mp h) (by omega)
  | finite s m e hm he =>
    cases hv with
    | zero t => cases s <;> exact absurd ((toLex_eq_iff _ _ _ _ _ _).mp h) (by omega)
    | finite t n f hn hf =>
      have hsame : s = t ∧ e = f ∧ m = n := by
        cases s <;> cases t <;> have hrank := (toLex_eq_iff _ _ _ _ _ _).mp h
        · exact ⟨rfl, by omega, by omega⟩
        · omega
        · omega
        · exact ⟨rfl, by omega, by omega⟩
      obtain ⟨rfl, rfl, rfl⟩ := hsame
      rfl

theorem rank_lt_iff (u v : UnpackedFloat) (hu : Held u) (hv : Held v) :
    rank u < rank v ↔ valueOf u < valueOf v := by
  refine ⟨valueOf_lt_of_rank_lt u v hu hv, fun h => ?_⟩
  rcases lt_trichotomy (rank u) (rank v) with hlt | heq | hgt
  · exact hlt
  · exact absurd (valueOf_eq_of_rank_eq u v hu hv heq) h.ne
  · exact absurd (valueOf_lt_of_rank_lt v u hv hu hgt) h.asymm

section Finite

variable (x y : Float) (hx : x.isFinite = true) (hy : y.isFinite = true)

include hx hy

/-- Finite doubles are in order as their values are. -/
theorem lt_iff_value : x < y ↔ value x < value y := by
  have hrank := rank_lt_iff _ _ (held_of_isFinite x hx) (held_of_isFinite y hy)
  rw [lt_iff, isNaN_of_isFinite x hx, isNaN_of_isFinite y hy]
  exact ⟨fun h => hrank.mp h.2.2, fun h => ⟨rfl, rfl, hrank.mpr h⟩⟩

theorem le_iff_value : x ≤ y ↔ value x ≤ value y := by
  have hrank := rank_lt_iff _ _ (held_of_isFinite y hy) (held_of_isFinite x hx)
  rw [le_iff, isNaN_of_isFinite x hx, isNaN_of_isFinite y hy, ← not_lt, ← not_lt]
  exact ⟨fun h hlt => h.2.2 (hrank.mpr hlt), fun h => ⟨rfl, rfl, fun hlt => h (hrank.mp hlt)⟩⟩

theorem beq_iff_value : (x == y) = true ↔ value x = value y := by
  have hle := le_iff_value x y hx hy
  have hge := (lt_iff_value x y hx hy).symm
  rw [lt_iff_le_and_not_beq, hle] at hge
  constructor
  · intro heq
    have hxy : x ≤ y := (le_iff x y).mpr <| by
      obtain ⟨hx, hy, h⟩ := (beq_iff x y).mp heq
      exact ⟨hx, hy, h.le⟩
    exact (hle.mp hxy).antisymm (not_lt.mp fun hlt => (hge.mp hlt).2 heq)
  · intro heq
    by_contra hne
    exact absurd (hge.mpr ⟨heq.le, hne⟩) heq.not_lt

end Finite

end Screening.Double

import Screening.Json.Reader
import Screening.Proofs.Rounding

/-!
# Whole numbers and powers of ten as doubles

A whole number of sixty-four bits is rounded from its mantissa, and so are the powers of ten
that stand in no table. Rounding moves the leading bit by one place at most, so the powers up to
the largest that is a double are finite, and all but the first are at least two. A finite double
stays finite when it is divided by one of at least two.
-/

set_option autoImplicit false

namespace Screening.Double

open Float.Model Float.Model.UnpackedFloat

theorem isFinite_of_isInf (x : Float) (hnan : x.isNaN = false) (hinf : x.isInf = false) :
    x.isFinite = true := by
  change x.toModel.unpack.isNaN = false at hnan
  change x.toModel.unpack.isInf = false at hinf
  show x.toModel.unpack.isFinite = true
  cases hx : x.toModel.unpack with
  | notANumber => rw [hx] at hnan; cases hnan
  | infinity s => rw [hx] at hinf; cases hinf
  | _ => rfl

theorem unpack_neg (x : Float) (h : x.isFinite = true) :
    (-x).toModel.unpack = x.toModel.unpack.neg := by
  have hheld := held_of_isFinite x h
  show unpack Format.binary64 (pack Format.binary64 x.toModel.unpack.neg) = _
  generalize x.toModel.unpack = u at hheld ⊢
  cases hheld with
  | zero s => cases s <;> rfl
  | finite s m e hm he => exact unpack_pack_of_canonical _ m e hm he

theorem isFinite_neg (x : Float) (h : x.isFinite = true) : (-x).isFinite = true := by
  have hheld := held_of_isFinite x h
  show (-x).toModel.unpack.isFinite = true
  rw [unpack_neg x h]
  generalize x.toModel.unpack = u at hheld ⊢
  cases hheld <;> rfl

theorem isFinite_unpack_zero (s : Sign) :
    (unpack Format.binary64 (pack Format.binary64 (.zero s))).isFinite = true := by
  cases s <;> rfl

def isAtLeastTwo : UnpackedFloat → Bool
  | .finite _ m e _ => 2 ≤ totalExponent m e
  | _ => false

def AtLeastTwo (y : Float) : Prop := isAtLeastTwo y.toModel.unpack = true

theorem isFinite_of_atLeastTwo (y : Float) (h : AtLeastTwo y) : y.isFinite = true := by
  unfold AtLeastTwo at h
  show y.toModel.unpack.isFinite = true
  cases hy : y.toModel.unpack with
  | finite s n f hn => rfl
  | _ => rw [hy] at h; cases h

/-- The leading bit of a quotient stands where those of its terms say, or one place below. -/
theorem log2_div (m n : ℕ) (hm : m ≠ 0) (hn : n ≠ 0) :
    m.log2 ≤ (m / n).log2 + n.log2 + 1 ∧ (n ≤ m → (m / n).log2 + n.log2 ≤ m.log2) := by
  obtain ⟨hnlow, hnhigh⟩ := (Nat.log2_eq_iff hn).mp rfl
  constructor
  · have hlt : m < 2 ^ ((m / n).log2 + n.log2 + 2) := by
      calc m < n * (m / n + 1) := Nat.lt_mul_div_succ m (Nat.pos_of_ne_zero hn)
        _ ≤ 2 ^ (n.log2 + 1) * 2 ^ ((m / n).log2 + 1) :=
          Nat.mul_le_mul hnhigh.le Nat.lt_log2_self
        _ = 2 ^ ((m / n).log2 + n.log2 + 2) := by
          rw [← Nat.pow_add]
          congr 1
          omega
    have hlog := (Nat.log2_lt hm).mpr hlt
    omega
  · intro hle
    have hq : m / n ≠ 0 := (Nat.div_pos hle (Nat.pos_of_ne_zero hn)).ne'
    rw [Nat.le_log2 hm, Nat.pow_add]
    calc 2 ^ (m / n).log2 * 2 ^ n.log2 ≤ m / n * n :=
          Nat.mul_le_mul (Nat.log2_self_le hq) hnlow
      _ ≤ m := Nat.div_mul_le_self m n

theorem totalExponent_of_canonical (m : ℕ) (e : ℤ) (hm : 0 < m) (h : Canonical m e) :
    totalExponent m e ≤ 1024 := by
  have hlog : m.log2 < 53 := (Nat.log2_lt hm.ne').mpr h.bits
  have hgreatest := h.greatest
  rw [totalExponent]
  omega

theorem isFinite_unpacked_div (r s : Sign) (m n : ℕ) (e f : ℤ) (hm : 0 < m) (hn : 0 < n)
    (he : Canonical m e) (hf : 2 ≤ totalExponent n f) :
    (unpack Format.binary64 (pack Format.binary64 (UnpackedFloat.div Format.binary64
      (.finite r m e hm) (.finite s n f hn)))).isFinite = true := by
  have htotal := totalExponent_of_canonical m e hm he
  simp only [UnpackedFloat.div, divCore]
  -- The dividend is given zeros on its right, so that the quotient is long enough.
  generalize hg : min (e - f) (Format.binary64.targetExponent
    (totalExponent m e - totalExponent n f)) = g
  generalize hk : (e - f - g).toNat = k
  have hlong := log2_mul_two_pow m k hm.ne'
  have hpos : m * 2 ^ k ≠ 0 := Nat.mul_ne_zero hm.ne' (Nat.two_pow_pos k).ne'
  obtain ⟨hlow, hhigh⟩ := log2_div (m * 2 ^ k) n hpos hn.ne'
  rw [Nat.shiftLeft_eq]
  rw [targetExponent_binary64] at hg
  simp only [totalExponent] at htotal hf hg
  rw [unpack_pack_round]
  · exact isFinite_round _ _ _ _
  · rw [targetExponent_binary64, totalExponent]
    omega
  · rw [totalExponent]
    by_cases hle : n ≤ m * 2 ^ k
    · have hquotient := hhigh hle
      omega
    · rw [Nat.div_eq_of_lt (not_le.mp hle), Nat.log2_zero] at *
      omega

/-- A quotient by a double of at least two is no larger than what was divided. -/
theorem isFinite_div (x y : Float) (hx : x.isFinite = true) (hy : AtLeastTwo y) :
    (x / y).isFinite = true := by
  have hheld := held_of_isFinite x hx
  unfold AtLeastTwo at hy
  show (unpack Format.binary64 (pack Format.binary64 (UnpackedFloat.div Format.binary64
    x.toModel.unpack y.toModel.unpack))).isFinite = true
  generalize x.toModel.unpack = u at hheld ⊢
  generalize y.toModel.unpack = v at hy ⊢
  cases v with
  | finite s n f hn =>
    cases hheld with
    | zero r => exact isFinite_unpack_zero (r * s)
    | finite r m e hm he =>
      exact isFinite_unpacked_div r s m n e f hm hn he (decide_eq_true_iff.mp hy)
  | _ => cases hy

/-- A whole number times a power of ten is rounded from a mantissa with zeros on its right. -/
theorem unpacked_ofScientific (m k : ℕ) (hm : m ≠ 0) (hk : k < 2048) :
    UnpackedFloat.ofScientific Format.binary64 m (Int.ofNat k) =
      roundWithAccuracy Format.binary64 .positive (m * 2 ^ 53 * 10 ^ k) (-53) .exact := by
  have habove : ¬ (Int.ofNat k > 2 ^ Format.binary64.exponentBits) := by
    change ¬ ((k : ℤ) > 2048)
    omega
  have hbelow : ¬ (Int.ofNat k < -(2 ^ Format.binary64.exponentBits + (m.log2 : ℤ))) := by
    change ¬ ((k : ℤ) < -(2048 + (m.log2 : ℤ)))
    omega
  have hwhole : 0 ≤ Int.ofNat k := Int.natCast_nonneg k
  unfold UnpackedFloat.ofScientific
  rw [dif_neg hm, if_neg habove, if_neg hbelow, if_pos hwhole]
  show roundWithAccuracy Format.binary64 .positive ((m <<< 53) * 10 ^ k) (-53) .exact = _
  rw [Nat.shiftLeft_eq]

/-- A number off the table is found in its bits as it was rounded. -/
theorem unpack_ofScientific (m k : ℕ) (hm : m ≠ 0) (hk : k < 2048)
    (htable : 2 ^ 53 ≤ m ∨ 22 < k) (hlog : (m * 2 ^ 53 * 10 ^ k).log2 ≤ 1075) :
    (Float.ofScientific m false k).toModel.unpack =
      roundWithAccuracy Format.binary64 .positive (m * 2 ^ 53 * 10 ^ k) (-53) .exact := by
  have hlarge : 53 ≤ (m * 2 ^ 53 * 10 ^ k).log2 := by
    have hone : 1 ≤ m * 10 ^ k := Nat.one_le_iff_ne_zero.mpr
      (Nat.mul_ne_zero hm (Nat.pow_pos (by decide)).ne')
    rw [Nat.le_log2 (by positivity), Nat.mul_right_comm]
    exact Nat.le_mul_of_pos_left _ hone
  unfold Float.ofScientific
  rw [dif_neg (by omega)]
  show unpack Format.binary64 (pack Format.binary64
    (UnpackedFloat.ofScientific Format.binary64 m (Int.ofNat k))) = _
  rw [unpacked_ofScientific m k hm hk]
  apply unpack_pack_round
  · rw [targetExponent_binary64, totalExponent]
    omega
  · rw [totalExponent]
    omega

/-- A number of few bits has a mantissa of all of them and a negative exponent. -/
theorem canonical_whole (n : ℕ) (hn : n ≠ 0) (hlt : n < 2 ^ 53) :
    Canonical (n * 2 ^ (52 - n.log2)) (n.log2 - 52) := by
  have hlog : n.log2 < 53 := (Nat.log2_lt hn).mpr hlt
  have hmantissa : (n * 2 ^ (52 - n.log2)).log2 = 52 := by
    rw [log2_mul_two_pow _ _ hn]
    omega
  have hne : n * 2 ^ (52 - n.log2) ≠ 0 := Nat.mul_ne_zero hn (Nat.two_pow_pos _).ne'
  obtain ⟨hlow, hhigh⟩ := (Nat.log2_eq_iff hne).mp hmantissa
  exact ⟨hhigh, by omega, by omega, .inl hlow⟩

theorem unpack_ofUInt64 (n : ℕ) (hn : n ≠ 0) (hlt : n < 2 ^ 53) :
    n.toUInt64.toFloat.toModel.unpack = .finite .positive (n * 2 ^ (52 - n.log2)) (n.log2 - 52)
      (Nat.pos_of_ne_zero (Nat.mul_ne_zero hn (Nat.two_pow_pos _).ne')) := by
  have hcanonical := canonical_whole n hn hlt
  have hlog : n.log2 < 53 := (Nat.log2_lt hn).mpr hlt
  have hvalue : n.toUInt64.toNat = n := Nat.mod_eq_of_lt (by omega)
  have hpositive : compare (n : ℤ) 0 = .gt := Int.compare_eq_gt.mpr (by omega)
  have hround : UnpackedFloat.ofUInt64 Format.binary64 n.toUInt64 =
      roundWithAccuracy Format.binary64 .positive (n * 2 ^ (52 - n.log2)) (n.log2 - 52) .exact := by
    have htarget : (0 - Format.binary64.targetExponent (totalExponent n 0)).toNat =
        52 - n.log2 := by
      rw [targetExponent_binary64, totalExponent]
      omega
    have hexponent : (0 : ℤ) - ↑(52 - n.log2) = n.log2 - 52 := by omega
    simp only [UnpackedFloat.ofUInt64, UnpackedFloat.ofNat, UnpackedFloat.ofInt,
      UnpackedFloat.normalize, hvalue, hpositive, UnpackedFloat.round, decreaseExponent, htarget,
      hexponent, Int.toNat_natCast, Nat.shiftLeft_eq]
  show unpack Format.binary64 (pack Format.binary64 (UnpackedFloat.ofUInt64 _ _)) = _
  rw [hround, round_of_canonical _ _ _
    (Nat.pos_of_ne_zero (Nat.mul_ne_zero hn (Nat.two_pow_pos _).ne')) hcanonical,
    unpack_pack_of_canonical _ _ _ _ hcanonical]

theorem one_eq_ofBits : Float.ofBits 0x3FF0000000000000 = 1.0 := by decide

/-- A number of few bits is multiplied by one, the first power of ten in the table. -/
theorem unpack_ofNat_short (n : ℕ) (hn : n ≠ 0) (hlt : n < 2 ^ 53) :
    (Float.ofNat n).toModel.unpack = .finite .positive (n * 2 ^ (52 - n.log2)) (n.log2 - 52)
      (Nat.pos_of_ne_zero (Nat.mul_ne_zero hn (Nat.two_pow_pos _).ne')) := by
  have hunpack := unpack_ofUInt64 n hn hlt
  have hfinite : n.toUInt64.toFloat.isFinite = true := by
    show n.toUInt64.toFloat.toModel.unpack.isFinite = true
    rw [hunpack]
    rfl
  have hone : Float.ofNat n = n.toUInt64.toFloat := by
    show Float.ofScientific n false 0 = _
    unfold Float.ofScientific
    rw [dif_pos ⟨hlt, by decide⟩]
    show n.toUInt64.toFloat * Float.ofBits 0x3FF0000000000000 = _
    rw [one_eq_ofBits, mul_one_of_isFinite _ hfinite]
  rw [hone, hunpack]

theorem unpack_ofNat_long (n : ℕ) (hlow : 2 ^ 53 ≤ n) (hhigh : n < 2 ^ 64) :
    (Float.ofNat n).toModel.unpack =
      roundWithAccuracy Format.binary64 .positive n 0 .exact := by
  have hn : n ≠ 0 := by omega
  have hlog : n.log2 < 64 := (Nat.log2_lt hn).mpr hhigh
  have hlog' : 53 ≤ n.log2 := (Nat.le_log2 hn).mpr hlow
  have hlength : (n * 2 ^ 53 * 10 ^ 0).log2 ≤ 1075 := by
    rw [pow_zero, Nat.mul_one, log2_mul_two_pow n 53 hn]
    omega
  have hzeros := round_append_zeros .positive n 53 0 hn (by
    rw [targetExponent_binary64, totalExponent]
    omega)
  have hround := unpack_ofScientific n 0 hn (by decide) (.inl hlow) hlength
  rw [pow_zero, Nat.mul_one] at hround
  exact hround.trans hzeros

theorem isFinite_ofNat (n : ℕ) (hn : n < 2 ^ 64) : (Float.ofNat n).isFinite = true := by
  show (Float.ofNat n).toModel.unpack.isFinite = true
  by_cases hlt : n < 2 ^ 53
  · by_cases hzero : n = 0
    · subst hzero
      rfl
    · rw [unpack_ofNat_short n hzero hlt]
      rfl
  · rw [unpack_ofNat_long n (by omega) hn]
    exact isFinite_round _ _ _ _

theorem isFinite_ofInt (i : ℤ) (hi : i.natAbs < 2 ^ 64) : (Float.ofInt i).isFinite = true := by
  cases i with
  | ofNat n =>
    rw [Float.ofInt]
    exact isFinite_ofNat n hi
  | negSucc n =>
    rw [Float.ofInt]
    exact isFinite_neg _ (isFinite_ofNat _ hi)

/-- Rounding does not move the leading bit down. -/
theorem isAtLeastTwo_round (s : Sign) (m : ℕ) (e : ℤ) (a : Accuracy)
    (he : e ≤ Format.binary64.targetExponent (totalExponent m e)) (ht : 2 ≤ totalExponent m e) :
    isAtLeastTwo (roundWithAccuracy Format.binary64 s m e a) = true := by
  have hsurplus : (surplus m e : ℤ) = totalExponent m e - 53 - e := by
    rw [targetExponent_binary64] at he
    rw [surplus, targetExponent_binary64]
    omega
  have hlow : 2 ^ 52 ≤ cut m e a := (normal_of_cut m e a he).resolve_right (by omega)
  rw [roundWithAccuracy_eq_carried, carried, dif_neg (by omega)]
  split
  · next hlt =>
    have hlog := log2_of_normal _ hlow hlt
    simp only [isAtLeastTwo, totalExponent, hlog, decide_eq_true_eq]
    omega
  · simp only [isAtLeastTwo, totalExponent, Nat.log2_two_pow, decide_eq_true_eq]
    omega

theorem atLeastTwo_powerOfTen_short (k : ℕ) (hlow : 1 ≤ k) (hhigh : k ≤ 22) :
    AtLeastTwo (Json.powerOfTen k) := by
  revert k
  unfold AtLeastTwo
  decide +kernel

theorem log2_largest_ten_pow : (10 ^ 307).log2 = 1019 := by
  decide +kernel

theorem log2_ten_pow_lt (k : ℕ) (hk : k < 308) : (10 ^ k).log2 < 1020 := by
  rw [Nat.log2_eq_log_two]
  calc Nat.log 2 (10 ^ k) ≤ Nat.log 2 (10 ^ 307) :=
        Nat.log_mono_right (pow_le_pow_right₀ (by decide) (by omega))
    _ < 1020 := by rw [← Nat.log2_eq_log_two, log2_largest_ten_pow]; decide

theorem atLeastTwo_powerOfTen_long (k : ℕ) (hlow : 22 < k) (hhigh : k < 308) :
    AtLeastTwo (Json.powerOfTen k) := by
  have hlog := log2_ten_pow_lt k hhigh
  have hlength : (1 * 2 ^ 53 * 10 ^ k).log2 = (10 ^ k).log2 + 53 := by
    rw [Nat.one_mul, Nat.mul_comm, log2_mul_two_pow _ _ (Nat.pow_pos (by decide)).ne']
  have hone : 1 ≤ (10 ^ k).log2 := by
    rw [Nat.le_log2 (Nat.pow_pos (by decide)).ne']
    exact (show 2 ^ 1 ≤ 10 ^ 1 by decide).trans (Nat.pow_le_pow_right (by decide) (by omega))
  unfold AtLeastTwo Json.powerOfTen
  rw [unpack_ofScientific 1 k one_ne_zero (by omega) (.inr hlow) (by omega)]
  apply isAtLeastTwo_round
  · rw [targetExponent_binary64, totalExponent]
    omega
  · rw [totalExponent]
    omega

theorem atLeastTwo_powerOfTen_last : AtLeastTwo (Json.powerOfTen 308) := by
  unfold AtLeastTwo
  decide +kernel

/-- Every power of ten that a decimal number is divided by is finite and at least two. -/
theorem atLeastTwo_powerOfTen (k : ℕ) (hlow : 1 ≤ k) (hhigh : k ≤ 308) :
    AtLeastTwo (Json.powerOfTen k) := by
  -- The short powers stand in a table, and the last one is rounded next to infinity.
  rcases Nat.lt_or_eq_of_le hhigh with hlt | rfl
  · by_cases hshort : k ≤ 22
    · exact atLeastTwo_powerOfTen_short k hlow hshort
    · exact atLeastTwo_powerOfTen_long k (by omega) hlt
  · exact atLeastTwo_powerOfTen_last

theorem isFinite_powerOfTen (k : ℕ) (hk : k ≤ 308) : (Json.powerOfTen k).isFinite = true := by
  cases k with
  | zero => decide
  | succ k => exact isFinite_of_atLeastTwo _ (atLeastTwo_powerOfTen _ (by omega) hk)

end Screening.Double

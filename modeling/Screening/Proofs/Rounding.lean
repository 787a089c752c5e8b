import Screening.Proofs.Double

/-!
# Rounding

A mantissa of more than fifty-three bits is cut to as many. What is cut off decides whether
the rest goes up, a half goes to the even neighbour, and a rest that comes up to a power of
two is carried into the exponent. A rounded double that is not too large is found again in its
bits, and a double that needs no rounding keeps its value in a product with one.
-/

set_option autoImplicit false

namespace Screening.Double

open Float.Model Float.Model.UnpackedFloat

theorem mantissa_shiftRight (em : ExtendedMantissa) (n : ℕ) :
    (em >>> n).mantissa = em.mantissa / 2 ^ n := by
  induction n with
  | zero => exact (Nat.div_one _).symm
  | succ n ih =>
    show (em >>> n).mantissa / 2 = _
    rw [ih, Nat.div_div_eq_div_mul, ← Nat.pow_succ]

theorem mantissa_ofMantissaAndAccuracy (m : ℕ) (a : Accuracy) :
    (ExtendedMantissa.ofMantissaAndAccuracy m a).mantissa = m := by
  unfold ExtendedMantissa.ofMantissaAndAccuracy
  split <;> rfl

theorem roundedMantissa_bounds (em : ExtendedMantissa) :
    em.mantissa ≤ em.roundedMantissa ∧ em.roundedMantissa ≤ em.mantissa + 1 := by
  unfold ExtendedMantissa.roundedMantissa Accuracy.roundToNearestEven
  split <;> omega

theorem accuracyOfFraction_below (r d : ℕ) (h : r < d) :
    accuracyOfFraction r (2 * d) = if r = 0 then .exact else .inexact .lt := by
  unfold accuracyOfFraction
  rw [Nat.compare_eq_lt.mpr (by omega)]

theorem accuracyOfFraction_above (r d : ℕ) (h : 0 < d) :
    accuracyOfFraction (d + r) (2 * d) = if r = 0 then .inexact .eq else .inexact .gt := by
  unfold accuracyOfFraction
  rw [if_neg (by omega)]
  split
  · rw [Nat.compare_eq_eq.mpr (by omega)]
  · rw [Nat.compare_eq_gt.mpr (by omega)]

theorem accuracyOfFraction_mul (r d k : ℕ) (hk : 0 < k) :
    accuracyOfFraction (r * k) (d * k) = accuracyOfFraction r d := by
  have hcompare : compare (2 * (r * k)) (d * k) = compare (2 * r) d := by
    rw [← Nat.mul_assoc, ← cmp_eq_compare, ← cmp_eq_compare]
    exact StrictMono.cmp_map_eq (f := (· * k)) (fun _ _ h => Nat.mul_lt_mul_of_pos_right h hk) _ _
  unfold accuracyOfFraction
  simp only [hcompare, Nat.mul_eq_zero, hk.ne', or_false]

/-- A bit more is cut off: it is the half, and what was cut off before decides on the rest. -/
theorem shiftRightOne_fraction (q r d : ℕ) (h : r < d) :
    (ExtendedMantissa.ofMantissaAndAccuracy q (accuracyOfFraction r d)).shiftRightOne =
      .ofMantissaAndAccuracy (q / 2) (accuracyOfFraction (r + d * (q % 2)) (d * 2)) := by
  have hbits : (ExtendedMantissa.ofMantissaAndAccuracy q (accuracyOfFraction r d)).shiftRightOne =
      ⟨q / 2, q % 2 != 0, r ≠ 0⟩ := by
    unfold accuracyOfFraction
    by_cases hr : r = 0
    · rw [if_pos hr]
      simp [ExtendedMantissa.shiftRightOne, ExtendedMantissa.ofMantissaAndAccuracy, hr]
    · rw [if_neg hr]
      cases compare (2 * r) d <;>
        simp [ExtendedMantissa.shiftRightOne, ExtendedMantissa.ofMantissaAndAccuracy, hr]
  rw [hbits, Nat.mul_comm d 2]
  rcases Nat.mod_two_eq_zero_or_one q with hq | hq
  · rw [hq, Nat.mul_zero, Nat.add_zero, accuracyOfFraction_below r d h]
    by_cases hr : r = 0 <;> simp [hr, ExtendedMantissa.ofMantissaAndAccuracy]
  · rw [hq, Nat.mul_one, Nat.add_comm r d, accuracyOfFraction_above r d (by omega)]
    by_cases hr : r = 0 <;> simp [hr, ExtendedMantissa.ofMantissaAndAccuracy]

/-- What is left of a mantissa knows how the bits that were cut off compare with a half. -/
theorem exact_shiftRight (m n : ℕ) :
    ExtendedMantissa.ofMantissaAndAccuracy m .exact >>> n =
      .ofMantissaAndAccuracy (m / 2 ^ n) (accuracyOfFraction (m % 2 ^ n) (2 ^ n)) := by
  induction n with
  | zero =>
    rw [Nat.pow_zero, Nat.div_one, Nat.mod_one]
    rfl
  | succ n ih =>
    show (ExtendedMantissa.ofMantissaAndAccuracy m .exact >>> n).shiftRightOne = _
    rw [ih, shiftRightOne_fraction _ _ _ (Nat.mod_lt _ (Nat.two_pow_pos n)),
      Nat.div_div_eq_div_mul, ← Nat.pow_succ, Nat.pow_succ, Nat.mod_mul]

theorem log2_mul_two_pow (m k : ℕ) (hm : m ≠ 0) : (m * 2 ^ k).log2 = m.log2 + k := by
  obtain ⟨hlow, hhigh⟩ := (Nat.log2_eq_iff hm).mp rfl
  refine (Nat.log2_eq_iff (Nat.mul_ne_zero hm (Nat.two_pow_pos k).ne')).mpr ⟨?_, ?_⟩
  · rw [Nat.pow_add]
    exact Nat.mul_le_mul_right _ hlow
  · rw [Nat.add_right_comm, Nat.pow_add]
    exact Nat.mul_lt_mul_of_pos_right hhigh (Nat.two_pow_pos k)

theorem log2_le_of_lt (n k : ℕ) (h : n < 2 ^ (k + 1)) : n.log2 ≤ k := by
  by_cases hzero : n = 0
  · rw [hzero, Nat.log2_zero]
    exact Nat.zero_le k
  · exact Nat.lt_succ_iff.mp ((Nat.log2_lt hzero).mpr h)

theorem targetExponent_binary64 (t : ℤ) :
    Format.binary64.targetExponent t = max (t - 53) (-1074) := rfl

def surplus (m : ℕ) (e : ℤ) : ℕ :=
  (Format.binary64.targetExponent (totalExponent m e) - e).toNat

def cut (m : ℕ) (e : ℤ) (a : Accuracy) : ℕ :=
  (ExtendedMantissa.ofMantissaAndAccuracy m a >>> surplus m e).roundedMantissa

def carried (s : Sign) (r : ℕ) (e : ℤ) : UnpackedFloat :=
  if h : r = 0 then .zero s
  else if r < 2 ^ 53 then .finite s r e (Nat.pos_of_ne_zero h)
  else .finite s (2 ^ 52) (e + 1) (Nat.two_pow_pos 52)

theorem surplus_bounds (m : ℕ) (e : ℤ) :
    -1074 ≤ e + surplus m e ∧ m.log2 ≤ 52 + surplus m e := by
  rw [surplus, targetExponent_binary64, totalExponent]
  omega

theorem surplus_eq_zero (m : ℕ) (e : ℤ) (hm : m < 2 ^ 53) (he : -1074 ≤ e) : surplus m e = 0 := by
  have hlog := log2_le_of_lt m 52 hm
  rw [surplus, targetExponent_binary64, totalExponent]
  omega

theorem cut_le (m : ℕ) (e : ℤ) (a : Accuracy) : cut m e a ≤ 2 ^ 53 := by
  obtain ⟨-, hup⟩ := roundedMantissa_bounds
    (ExtendedMantissa.ofMantissaAndAccuracy m a >>> surplus m e)
  rw [mantissa_shiftRight, mantissa_ofMantissaAndAccuracy] at hup
  have hlt : m / 2 ^ surplus m e < 2 ^ 53 := by
    rw [Nat.div_lt_iff_lt_mul (Nat.two_pow_pos _), ← Nat.pow_add]
    have hlog := (surplus_bounds m e).2
    exact Nat.lt_log2_self.trans_le (Nat.pow_le_pow_right (by decide) (by omega))
  unfold cut
  omega

theorem cut_exact (m : ℕ) (e : ℤ) : cut m e .exact =
    (accuracyOfFraction (m % 2 ^ surplus m e) (2 ^ surplus m e)).roundToNearestEven
      (m / 2 ^ surplus m e) := by
  rw [cut, exact_shiftRight]
  generalize accuracyOfFraction _ _ = a
  unfold ExtendedMantissa.roundedMantissa
  congr 1
  · exact mantissa_ofMantissaAndAccuracy _ _
  · cases a with
    | exact => rfl
    | inexact o => cases o <;> rfl

/-- Of a rounded mantissa nothing is cut off but the bit it may have come up by. -/
theorem carried_eq (s : Sign) (r : ℕ) (e : ℤ) (hr : r ≤ 2 ^ 53) (he : -1074 ≤ e) :
    (if h : (ExtendedMantissa.ofMantissaAndAccuracy r .exact >>> surplus r e).mantissa = 0 then
      UnpackedFloat.zero s
    else .finite s (ExtendedMantissa.ofMantissaAndAccuracy r .exact >>> surplus r e).mantissa
      (e + surplus r e) (Nat.pos_of_ne_zero h)) = carried s r e := by
  simp only [mantissa_shiftRight, mantissa_ofMantissaAndAccuracy]
  unfold carried
  rcases Nat.lt_or_eq_of_le hr with hlt | rfl
  · simp only [surplus_eq_zero r e hlt he, pow_zero, Nat.div_one, if_pos hlt, Nat.cast_zero,
      add_zero]
  · have hone : surplus (2 ^ 53) e = 1 := by
      rw [surplus, targetExponent_binary64, totalExponent, Nat.log2_two_pow]
      omega
    rw [hone]
    rfl

/-- Rounding cuts off the surplus and carries. -/
theorem roundWithAccuracy_eq_carried (s : Sign) (m : ℕ) (e : ℤ) (a : Accuracy) :
    roundWithAccuracy Format.binary64 s m e a = carried s (cut m e a) (e + surplus m e) :=
  carried_eq s (cut m e a) (e + surplus m e) (cut_le m e a) (surplus_bounds m e).1

theorem isFinite_round (s : Sign) (m : ℕ) (e : ℤ) (a : Accuracy) :
    (roundWithAccuracy Format.binary64 s m e a).isFinite = true := by
  rw [roundWithAccuracy_eq_carried]
  unfold carried
  split_ifs <;> rfl

/-- Zeros on the right of a mantissa that is long enough do not matter. -/
theorem round_append_zeros (s : Sign) (m k : ℕ) (e : ℤ) (hm : m ≠ 0)
    (he : e ≤ Format.binary64.targetExponent (totalExponent m e)) :
    roundWithAccuracy Format.binary64 s (m * 2 ^ k) (e - k) .exact =
      roundWithAccuracy Format.binary64 s m e .exact := by
  have htotal : totalExponent (m * 2 ^ k) (e - k) = totalExponent m e := by
    rw [totalExponent, totalExponent, log2_mul_two_pow m k hm]
    omega
  have hsurplus : surplus (m * 2 ^ k) (e - k) = surplus m e + k := by
    rw [surplus, surplus, htotal]
    omega
  have hexponent : e - (k : ℤ) + ↑(surplus m e + k) = e + surplus m e := by omega
  have hpos := Nat.two_pow_pos k
  rw [roundWithAccuracy_eq_carried, roundWithAccuracy_eq_carried, cut_exact, cut_exact, hsurplus,
    hexponent, Nat.pow_add, Nat.mul_div_mul_right _ _ hpos, Nat.mul_mod_mul_right,
    accuracyOfFraction_mul _ _ _ hpos]

/-- A mantissa and an exponent that a double holds: of fifty-three bits, or of fewer at the
least exponent. -/
structure Canonical (m : ℕ) (e : ℤ) : Prop where
  bits : m < 2 ^ 53
  least : -1074 ≤ e
  greatest : e ≤ 971
  normal : 2 ^ 52 ≤ m ∨ e = -1074

theorem log2_of_normal (m : ℕ) (hlow : 2 ^ 52 ≤ m) (hhigh : m < 2 ^ 53) : m.log2 = 52 :=
  (Nat.log2_eq_iff (by omega)).mpr ⟨hlow, hhigh⟩

theorem targetExponent_of_canonical (m : ℕ) (e : ℤ) (h : Canonical m e) :
    Format.binary64.targetExponent (totalExponent m e) = e := by
  obtain ⟨hbits, hleast, -, hnormal⟩ := h
  rw [targetExponent_binary64, totalExponent]
  by_cases hlow : 2 ^ 52 ≤ m
  · rw [log2_of_normal m hlow hbits]
    omega
  · have hlog := log2_le_of_lt m 52 hbits
    omega

theorem finite_congr (s : Sign) (m n : ℕ) (e f : ℤ) (hm : 0 < m) (hn : 0 < n) (h : m = n)
    (he : e = f) : UnpackedFloat.finite s m e hm = .finite s n f hn := by
  subst h he
  rfl

theorem toNat_leading (f : BitVec 52) : (1#1 ++ f).toNat = 2 ^ 52 + f.toNat := by
  rw [BitVec.toNat_append, Nat.shiftLeft_eq, Nat.mul_comm, ← Nat.two_pow_add_eq_or_of_lt f.isLt]
  rfl

theorem unpack_components_normal (s : Sign) (b : BitVec 11) (f : BitVec 52) (hfull : b ≠ -1#11)
    (hzero : b ≠ 0#11) : unpack Format.binary64 (packComponents Format.binary64 s b f) =
      .finite s (2 ^ 52 + f.toNat) (b.toNat - 1075) (by omega) := by
  unfold UnpackedFloat.unpack
  simp only [unpackExponent_packComponents, unpackMantissa_packComponents,
    unpackSign_packComponents, Sign.ofBitVec_toBitVec]
  rw [if_neg hfull, if_neg hzero]
  exact finite_congr _ _ _ _ _ _ _ (toNat_leading f) rfl

theorem unpack_components_least (s : Sign) (f : BitVec 52) (hf : 0 < f.toNat) :
    unpack Format.binary64 (packComponents Format.binary64 s 0#11 f) =
      .finite s f.toNat (-1074) hf := by
  have hne : f ≠ 0#52 := by
    rintro rfl
    cases hf
  unfold UnpackedFloat.unpack
  simp only [unpackExponent_packComponents, unpackMantissa_packComponents,
    unpackSign_packComponents, Sign.ofBitVec_toBitVec]
  rw [if_neg (by decide), if_pos trivial, dif_neg hne]
  rfl

/-- What a double holds is found again in its bits. -/
theorem unpack_pack_of_canonical (s : Sign) (m : ℕ) (e : ℤ) (hm : 0 < m) (h : Canonical m e) :
    unpack Format.binary64 (pack Format.binary64 (.finite s m e hm)) = .finite s m e hm := by
  obtain ⟨hbits, hleast, hgreatest, hnormal⟩ := h
  have hbound : ¬ 2 ^ Format.binary64.exponentBits ≤
      (e + Format.binary64.exponentBias + Format.binary64.mantissaBitsWithoutImplicit).toNat
        + 1 := by
    change ¬ 2048 ≤ (e + 1023 + 52).toNat + 1
    omega
  simp only [UnpackedFloat.pack, if_neg hbound]
  by_cases hlow : 2 ^ 52 ≤ m
  · rw [log2_of_normal m hlow hbits, if_pos (show 52 + 1 = Format.binary64.mantissaBits from rfl)]
    have hfield : (BitVec.ofNat 11 (e + 1023 + 52).toNat).toNat = (e + 1023 + 52).toNat := by
      rw [BitVec.toNat_ofNat]
      omega
    refine (unpack_components_normal s (BitVec.ofNat 11 (e + 1023 + 52).toNat) (BitVec.ofNat 52 m)
      ?_ ?_).trans (finite_congr _ _ _ _ _ _ _ ?_ ?_)
    · intro hc
      have hv : (e + 1023 + 52).toNat = 2047 := hfield.symm.trans (congrArg BitVec.toNat hc)
      omega
    · intro hc
      have hv : (e + 1023 + 52).toNat = 0 := hfield.symm.trans (congrArg BitVec.toNat hc)
      omega
    · rw [BitVec.toNat_ofNat]
      omega
    · rw [hfield]
      omega
  · have hlog : m.log2 < 52 := (Nat.log2_lt hm.ne').mpr (by omega)
    rw [if_neg (show m.log2 + 1 ≠ Format.binary64.mantissaBits by change m.log2 + 1 ≠ 53; omega)]
    have hfield : (BitVec.ofNat 52 m).toNat = m := by
      rw [BitVec.toNat_ofNat]
      omega
    exact (unpack_components_least s _ (hfield.symm ▸ hm)).trans
      (finite_congr _ _ _ _ _ _ _ hfield (by omega))

/-- What is found in the bits of a double is held by it. -/
theorem canonical_of_unpack (b : BitVec 64) (s : Sign) (m : ℕ) (e : ℤ) (hm : 0 < m)
    (h : unpack Format.binary64 b = .finite s m e hm) : Canonical m e := by
  have hmantissa := (@unpackMantissa Format.binary64 b).isLt
  have hexponent := (@unpackExponent Format.binary64 b).isLt
  change _ < 2 ^ 52 at hmantissa
  change _ < 2 ^ 11 at hexponent
  unfold UnpackedFloat.unpack at h
  simp only at h
  split at h
  · split at h <;> cases h
  · next hfull =>
    have hne : (@unpackExponent Format.binary64 b).toNat ≠ 2047 :=
      fun hc => hfull (BitVec.eq_of_toNat_eq hc)
    split at h
    · next hzero =>
      split at h
      · cases h
      · cases h
        rw [hzero]
        exact ⟨by omega, by decide, by decide, .inr (by decide)⟩
    · next hzero =>
      have hnez : (@unpackExponent Format.binary64 b).toNat ≠ 0 :=
        fun hc => hzero (BitVec.eq_of_toNat_eq hc)
      have hvalue := toNat_leading (@unpackMantissa Format.binary64 b)
      simp only [UnpackedFloat.finite.injEq] at h
      obtain ⟨-, hm', he⟩ := h
      change _ - ((1023 : ℤ) + 52) = e at he
      rw [← hm', hvalue]
      exact ⟨by omega, by omega, by omega, .inl (by omega)⟩

inductive Held : UnpackedFloat → Prop
  | zero (s : Sign) : Held (.zero s)
  | finite (s : Sign) (m : ℕ) (e : ℤ) (hm : 0 < m) (h : Canonical m e) : Held (.finite s m e hm)

theorem held_of_isFinite (x : Float) (h : x.isFinite = true) : Held x.toModel.unpack := by
  change x.toModel.unpack.isFinite = true at h
  cases hx : x.toModel.unpack with
  | notANumber => rw [hx] at h; cases h
  | infinity s => rw [hx] at h; cases h
  | zero s => exact .zero s
  | finite s m e hm => exact .finite s m e hm (canonical_of_unpack _ s m e hm hx)

theorem unpack_pack_carried (s : Sign) (r : ℕ) (e : ℤ) (hleast : -1074 ≤ e) (hgreatest : e ≤ 970)
    (hnormal : 2 ^ 52 ≤ r ∨ e = -1074) :
    unpack Format.binary64 (pack Format.binary64 (carried s r e)) = carried s r e := by
  unfold carried
  split
  · cases s <;> rfl
  · split
    · next hlt => exact unpack_pack_of_canonical s r e _ ⟨hlt, hleast, by omega, hnormal⟩
    · exact unpack_pack_of_canonical s (2 ^ 52) (e + 1) _
        ⟨by decide, by omega, by omega, .inl le_rfl⟩

/-- What rounding leaves of a mantissa is of full length, unless the exponent is the least. -/
theorem normal_of_cut (m : ℕ) (e : ℤ) (a : Accuracy)
    (he : e ≤ Format.binary64.targetExponent (totalExponent m e)) :
    2 ^ 52 ≤ cut m e a ∨ e + (surplus m e : ℤ) = -1074 := by
  have hsurplus : (surplus m e : ℤ) = max (totalExponent m e - 53) (-1074) - e := by
    rw [targetExponent_binary64] at he
    rw [surplus, targetExponent_binary64]
    omega
  by_cases hmin : e + (surplus m e : ℤ) = -1074
  · exact .inr hmin
  · left
    have hlog : m.log2 = 52 + surplus m e := by
      rw [totalExponent] at hsurplus
      omega
    have hm : m ≠ 0 := by
      rintro rfl
      rw [Nat.log2_zero] at hlog
      omega
    obtain ⟨hdown, -⟩ := roundedMantissa_bounds
      (ExtendedMantissa.ofMantissaAndAccuracy m a >>> surplus m e)
    rw [mantissa_shiftRight, mantissa_ofMantissaAndAccuracy] at hdown
    refine le_trans ?_ hdown
    rw [Nat.le_div_iff_mul_le (Nat.two_pow_pos _), ← Nat.pow_add, ← hlog]
    exact Nat.log2_self_le hm

/-- A rounded double is found again in its bits, unless it is too large. -/
theorem unpack_pack_round (s : Sign) (m : ℕ) (e : ℤ) (a : Accuracy)
    (he : e ≤ Format.binary64.targetExponent (totalExponent m e)) (ht : totalExponent m e ≤ 1023) :
    unpack Format.binary64 (pack Format.binary64 (roundWithAccuracy Format.binary64 s m e a)) =
      roundWithAccuracy Format.binary64 s m e a := by
  obtain ⟨hlow, -⟩ := surplus_bounds m e
  have hhigh : e + (surplus m e : ℤ) ≤ 970 := by
    rw [targetExponent_binary64] at he
    rw [surplus, targetExponent_binary64]
    omega
  rw [roundWithAccuracy_eq_carried]
  exact unpack_pack_carried s _ _ hlow hhigh (normal_of_cut m e a he)

theorem round_of_canonical (s : Sign) (m : ℕ) (e : ℤ) (hm : 0 < m) (h : Canonical m e) :
    roundWithAccuracy Format.binary64 s m e .exact = .finite s m e hm := by
  have hsurplus : surplus m e = 0 := by
    rw [surplus, targetExponent_of_canonical m e h, Int.sub_self]
    rfl
  rw [roundWithAccuracy_eq_carried, cut_exact, hsurplus, pow_zero, Nat.div_one, Nat.mod_one,
    Nat.cast_zero, add_zero]
  exact (dif_neg hm.ne').trans (if_pos h.bits)

/-- One is neutral, bit for bit, on finite doubles. -/
theorem mul_one_of_isFinite (x : Float) (h : x.isFinite = true) : x * 1.0 = x := by
  have hone : (1.0 : Float).toModel.unpack =
      .finite .positive (2 ^ 52) (-52) (Nat.two_pow_pos 52) := rfl
  have hproduct : UnpackedFloat.mul Format.binary64 x.toModel.unpack (1.0 : Float).toModel.unpack =
      x.toModel.unpack := by
    have hheld := held_of_isFinite x h
    rw [hone]
    generalize x.toModel.unpack = u at hheld ⊢
    cases hheld with
    | zero s => cases s <;> rfl
    | finite s m e hm he =>
      have hs : s * Sign.positive = s := by cases s <;> rfl
      show roundWithAccuracy Format.binary64 (s * .positive) (m * 2 ^ 52) (e - (52 : ℕ)) .exact = _
      rw [hs, round_append_zeros s m 52 e hm.ne' (targetExponent_of_canonical m e he).ge]
      exact round_of_canonical s m e hm he
  show Float.ofModel (Float.Model.pack (UnpackedFloat.mul Format.binary64 _ _)) = x
  rw [hproduct, ← Float.toBits_inj]
  exact congrArg UInt64.ofBitVec (pack_unpack_of_valid x.toModel.valid)

end Screening.Double

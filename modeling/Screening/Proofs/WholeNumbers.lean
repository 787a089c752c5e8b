import Screening.Proofs.Magnitudes
import Screening.Proofs.Thresholds

/-!
# Whole numbers that are compared

A whole number is compared as the double it is rounded to, in a record as in a rule. Rounding
keeps its fifty-three leading bits, so it can make two numbers equal but never puts them into
the other order, and below the fifty-fourth bit it changes nothing.
-/

set_option autoImplicit false

namespace Screening

def nearestMultiple (unit n : ℕ) : ℕ :=
  if 2 * (n % unit) < unit ∨ 2 * (n % unit) = unit ∧ n / unit % 2 = 0 then n / unit * unit
  else (n / unit + 1) * unit

def leadingBits (n : ℕ) : ℕ := nearestMultiple (2 ^ (n.log2 - 52)) n

/-- A whole number with the leading bits of its magnitude. -/
def rounded (i : ℤ) : ℤ := i.sign * leadingBits i.natAbs

theorem nearestMultiple_mul (unit k : ℕ) (hunit : 0 < unit) :
    nearestMultiple unit (k * unit) = k * unit := by
  rw [nearestMultiple, Nat.mul_mod_left, Nat.mul_div_cancel _ hunit]
  exact if_pos (.inl hunit)

theorem nearestMultiple_bounds (unit n : ℕ) :
    n / unit * unit ≤ nearestMultiple unit n ∧ nearestMultiple unit n ≤ (n / unit + 1) * unit := by
  have hstep : n / unit * unit ≤ (n / unit + 1) * unit :=
    Nat.mul_le_mul_right unit (Nat.le_succ _)
  unfold nearestMultiple
  split
  · exact ⟨le_rfl, hstep⟩
  · exact ⟨hstep, le_rfl⟩

theorem nearestMultiple_mono (unit m n : ℕ) (h : m ≤ n) :
    nearestMultiple unit m ≤ nearestMultiple unit n := by
  rcases (Nat.div_le_div_right h : m / unit ≤ n / unit).lt_or_eq with hlt | heq
  · calc nearestMultiple unit m ≤ (m / unit + 1) * unit := (nearestMultiple_bounds unit m).2
      _ ≤ n / unit * unit := Nat.mul_le_mul_right unit hlt
      _ ≤ nearestMultiple unit n := (nearestMultiple_bounds unit n).1
  · have hrest : m % unit ≤ n % unit := by
      have hm := Nat.div_add_mod m unit
      have hn := Nat.div_add_mod n unit
      rw [heq] at hm
      omega
    by_cases hdown : 2 * (n % unit) < unit ∨ 2 * (n % unit) = unit ∧ n / unit % 2 = 0
    · have hm : nearestMultiple unit m = m / unit * unit := if_pos (by omega)
      rw [hm, heq]
      exact (nearestMultiple_bounds unit n).1
    · have hn : nearestMultiple unit n = (n / unit + 1) * unit := if_neg hdown
      rw [hn, ← heq]
      exact (nearestMultiple_bounds unit m).2

theorem leadingBits_of_le (n : ℕ) (hn : n ≤ 2 ^ 53) : leadingBits n = n := by
  rcases hn.lt_or_eq with hlt | rfl
  · have hlog : n.log2 - 52 = 0 := Nat.sub_eq_zero_of_le (Double.log2_le_of_lt n 52 hlt)
    rw [leadingBits, hlog, pow_zero]
    simpa using nearestMultiple_mul 1 n one_pos
  · decide +kernel

/-- Rounding stays between the powers of two around a number, which are multiples of its unit. -/
theorem leadingBits_bounds (n : ℕ) (hn : n ≠ 0) :
    2 ^ n.log2 ≤ leadingBits n ∧ leadingBits n ≤ 2 ^ (n.log2 + 1) := by
  by_cases hshort : n.log2 ≤ 52
  · have hexact : leadingBits n = n :=
      leadingBits_of_le n ((Nat.log2_lt hn).mp (by omega)).le
    rw [hexact]
    exact ⟨Nat.log2_self_le hn, Nat.lt_log2_self.le⟩
  · have hpower (k : ℕ) (hk : n.log2 - 52 ≤ k) :
        nearestMultiple (2 ^ (n.log2 - 52)) (2 ^ k) = 2 ^ k := by
      obtain ⟨j, rfl⟩ := Nat.exists_eq_add_of_le hk
      rw [Nat.add_comm, Nat.pow_add]
      exact nearestMultiple_mul _ _ (Nat.two_pow_pos _)
    constructor
    · rw [← hpower n.log2 (by omega)]
      exact nearestMultiple_mono _ _ _ (Nat.log2_self_le hn)
    · rw [← hpower (n.log2 + 1) (by omega)]
      exact nearestMultiple_mono _ _ _ Nat.lt_log2_self.le

theorem leadingBits_mono (m n : ℕ) (h : m ≤ n) : leadingBits m ≤ leadingBits n := by
  by_cases hm : m = 0
  · subst hm
    exact Nat.zero_le _
  have hn : n ≠ 0 := by omega
  have hlog : m.log2 ≤ n.log2 := by
    rw [Nat.le_log2 hn]
    exact (Nat.log2_self_le hm).trans h
  rcases hlog.lt_or_eq with hlt | heq
  · calc leadingBits m ≤ 2 ^ (m.log2 + 1) := (leadingBits_bounds m hm).2
      _ ≤ 2 ^ n.log2 := Nat.pow_le_pow_right two_pos hlt
      _ ≤ leadingBits n := (leadingBits_bounds n hn).1
  · rw [leadingBits, leadingBits, heq]
    exact nearestMultiple_mono _ m n h

theorem rounded_natCast (n : ℕ) : rounded n = leadingBits n := by
  by_cases hn : n = 0
  · subst hn
    rfl
  · rw [rounded, Int.sign_eq_one_of_pos (by omega), Int.natAbs_natCast, one_mul]

theorem rounded_neg (i : ℤ) : rounded (-i) = -rounded i := by
  rw [rounded, rounded, Int.sign_neg, Int.natAbs_neg, neg_mul]

theorem rounded_of_le (i : ℤ) (hi : i.natAbs ≤ 2 ^ 53) : rounded i = i := by
  rw [rounded, leadingBits_of_le _ hi, Int.sign_mul_natAbs]

theorem rounded_mono (i j : ℤ) (h : i ≤ j) : rounded i ≤ rounded j := by
  have hnonneg (k : ℕ) : 0 ≤ rounded k := by
    rw [rounded_natCast]
    exact Int.natCast_nonneg _
  have hnat (k l : ℕ) (h : k ≤ l) : rounded k ≤ rounded l := by
    rw [rounded_natCast, rounded_natCast]
    exact_mod_cast leadingBits_mono k l h
  obtain ⟨m, rfl | rfl⟩ := i.eq_nat_or_neg <;> obtain ⟨n, rfl | rfl⟩ := j.eq_nat_or_neg
  · exact hnat m n (by omega)
  · obtain rfl : m = 0 := by omega
    obtain rfl : n = 0 := by omega
    rfl
  · rw [rounded_neg]
    exact (neg_nonpos.mpr (hnonneg m)).trans (hnonneg n)
  · rw [rounded_neg, rounded_neg, neg_le_neg_iff]
    exact hnat n m (by omega)

/-- A number below the fifty-fourth bit stays apart from every other one. -/
theorem rounded_lt_iff (i j : ℤ) (h : i.natAbs < 2 ^ 53 ∨ j.natAbs < 2 ^ 53) :
    rounded i < rounded j ↔ i < j := by
  constructor
  · intro hlt
    by_contra hle
    exact absurd (rounded_mono j i (by omega)) (not_le.mpr hlt)
  · intro hlt
    rcases h with h | h
    · have hnext := rounded_mono (i + 1) j (by omega)
      rw [rounded_of_le (i + 1) (by omega)] at hnext
      rw [rounded_of_le i (by omega)]
      omega
    · have hnext := rounded_mono i (j - 1) (by omega)
      rw [rounded_of_le (j - 1) (by omega)] at hnext
      rw [rounded_of_le j (by omega)]
      omega

namespace Double

open Float.Model Float.Model.UnpackedFloat

theorem roundToNearestEven_fraction (unit n : ℕ) (hunit : 0 < unit) :
    (accuracyOfFraction (n % unit) unit).roundToNearestEven (n / unit) * unit =
      nearestMultiple unit n := by
  unfold accuracyOfFraction nearestMultiple
  rcases Nat.lt_trichotomy (2 * (n % unit)) unit with hlt | heq | hgt
  · rw [if_pos (Or.inl hlt), Nat.compare_eq_lt.mpr hlt]
    split <;> rfl
  · rw [Nat.compare_eq_eq.mpr heq, if_neg (show ¬ n % unit = 0 by omega)]
    show (n / unit + n / unit % 2) * unit = _
    rcases Nat.mod_two_eq_zero_or_one (n / unit) with heven | hodd
    · rw [if_pos (Or.inr ⟨heq, heven⟩), heven, Nat.add_zero]
    · rw [if_neg (by omega), hodd]
  · rw [Nat.compare_eq_gt.mpr hgt, if_neg (show ¬ n % unit = 0 by omega), if_neg (by omega)]
    rfl

theorem valueOf_carried (r : ℕ) (e : ℤ) (hr : r ≤ 2 ^ 53) :
    valueOf (carried .positive r e) = r * 2 ^ e := by
  unfold carried
  split
  · next hzero => simp [hzero, valueOf]
  · split
    · rfl
    · obtain rfl : r = 2 ^ 53 := by omega
      rw [valueOf_positive, zpow_add_one₀ two_ne_zero]
      norm_num
      ring

/-- A whole number of sixty-four bits becomes the double of its leading bits. -/
theorem value_ofNat (n : ℕ) (hn : n < 2 ^ 64) : value (Float.ofNat n) = leadingBits n := by
  show valueOf (Float.ofNat n).toModel.unpack = _
  by_cases hlt : n < 2 ^ 53
  · rw [leadingBits_of_le n hlt.le]
    by_cases hzero : n = 0
    · subst hzero
      rfl
    · have hlog : n.log2 < 53 := (Nat.log2_lt hzero).mpr hlt
      have hexponent : (n.log2 : ℤ) - 52 = -((52 - n.log2 : ℕ) : ℤ) := by omega
      rw [unpack_ofNat_short n hzero hlt, valueOf_positive, hexponent, Nat.cast_mul, Nat.cast_pow,
        Nat.cast_two, mul_assoc, zpow_neg, zpow_natCast,
        mul_inv_cancel₀ (pow_ne_zero _ two_ne_zero), mul_one]
  · have hlog : 53 ≤ n.log2 := (Nat.le_log2 (by omega)).mpr (by omega)
    have hsurplus : surplus n 0 = n.log2 - 52 := by
      rw [surplus, targetExponent_binary64, totalExponent]
      omega
    rw [unpack_ofNat_long n (by omega) hn, roundWithAccuracy_eq_carried,
      valueOf_carried _ _ (cut_le _ _ _), cut_exact, hsurplus, leadingBits,
      ← roundToNearestEven_fraction _ _ (Nat.two_pow_pos _)]
    push_cast
    rw [zero_add, zpow_natCast]

theorem value_ofInt (i : ℤ) (hi : i.natAbs < 2 ^ 64) : value (Float.ofInt i) = rounded i := by
  cases i with
  | ofNat n =>
    rw [Float.ofInt, value_ofNat n hi, Int.ofNat_eq_natCast, rounded_natCast]
    rfl
  | negSucc n =>
    have hsucc : n + 1 < 2 ^ 64 := hi
    show value (-Float.ofNat (n + 1)) = _
    rw [value_neg _ (isFinite_ofNat _ hsucc), value_ofNat _ hsucc, Int.negSucc_eq, rounded_neg,
      ← Nat.cast_succ, rounded_natCast]
    push_cast
    rfl

end Double

theorem Whole.natAbs_lt (w : Whole) : w.val.natAbs < 2 ^ 64 := by
  obtain ⟨i, hlower, hupper⟩ := w
  show i.natAbs < 2 ^ 64
  omega

theorem Whole.value_toFloat (w : Whole) :
    Double.value (Number.whole w).toFloat = rounded w.val :=
  Double.value_ofInt w.val w.natAbs_lt

theorem Whole.isFinite_toFloat (w : Whole) : (Number.whole w).toFloat.isFinite = true :=
  Double.isFinite_ofInt w.val w.natAbs_lt

section Order

variable (a b : Whole)

theorem Whole.beq_iff : ((Number.whole b).toFloat == (Number.whole a).toFloat) = true ↔
    rounded b.val = rounded a.val := by
  rw [Double.beq_iff_value _ _ b.isFinite_toFloat a.isFinite_toFloat, b.value_toFloat,
    a.value_toFloat, Int.cast_inj]

theorem Whole.gt_iff : (Number.whole b).toFloat > (Number.whole a).toFloat ↔
    rounded b.val > rounded a.val := by
  rw [gt_iff_lt, Double.lt_iff_value _ _ a.isFinite_toFloat b.isFinite_toFloat, b.value_toFloat,
    a.value_toFloat, Int.cast_lt]

theorem Whole.le_iff : (Number.whole b).toFloat ≤ (Number.whole a).toFloat ↔
    rounded b.val ≤ rounded a.val := by
  rw [Double.le_iff_value _ _ b.isFinite_toFloat a.isFinite_toFloat, b.value_toFloat,
    a.value_toFloat, Int.cast_le]

end Order

theorem Value.amounts_number (x : Float) : (number x).Amounts x := rfl

theorem FieldValue.exists_amounts_number_iff (y : Float) (p : Float → Prop) :
    (∃ z, (FieldValue.number y).Amounts z ∧ p z) ↔ p y := by
  simp [FieldValue.Amounts, Value.Amounts, FieldValue.raw, normalize]

theorem Rule.holds_categorical_number_iff (name : String) (x : Float)
    (table : Option MembershipTable) (o : Options) (r : Record)
    (hmember : o.isMembership name = false) (hcategory : o.isCategorical name = true) :
    (⟨name, .exactly, .number x⟩ : Rule).Holds table o r ↔ (r.field name).Is (.number x) := by
  have hwild : (⟨name, .exactly, .number x⟩ : Rule).isWildcard = false := rfl
  have hcompile : (⟨name, .exactly, .number x⟩ : Rule).compile (table.map Directory.ofTable) o =
      .equalsRaw name (.number x) := by
    simp [Rule.compile, Rule.kind, hwild, hmember, hcategory, Rule.compileCategorical]
  rw [Rule.Holds, hcompile]
  exact equalsRaw_iff r name (.number x)

section Rules

variable (name : String) (a b : Whole) (table : Option MembershipTable) (o : Options) (r : Record)
  (hmember : o.isMembership name = false) (hfield : r.field name = .number (Number.whole b).toFloat)

include hmember hfield

theorem holds_exactly_whole :
    (⟨name, .exactly, .number (Number.whole a).toFloat⟩ : Rule).Holds table o r ↔
      rounded b.val = rounded a.val := by
  rw [← Whole.beq_iff]
  cases hcategory : o.isCategorical name with
  | false =>
    have hamount := Value.amounts_number (Number.whole a).toFloat
    refine (holds_exactly_iff name _ _ table o r hmember hcategory hamount).trans ?_
    rw [hfield, FieldValue.exists_amounts_number_iff]
  | true =>
    refine (Rule.holds_categorical_number_iff name _ table o r hmember hcategory).trans ?_
    rw [hfield]
    exact and_iff_right rfl

theorem holds_moreThan_whole (hcategory : o.isCategorical name = false) :
    (⟨name, .moreThan, .number (Number.whole a).toFloat⟩ : Rule).Holds table o r ↔
      rounded b.val > rounded a.val := by
  have hamount := Value.amounts_number (Number.whole a).toFloat
  refine (holds_moreThan_iff name _ _ table o r hmember hcategory hamount).trans ?_
  rw [hfield, FieldValue.exists_amounts_number_iff, Whole.gt_iff]

theorem holds_atMost_whole (hcategory : o.isCategorical name = false) :
    (⟨name, .atMost, .number (Number.whole a).toFloat⟩ : Rule).Holds table o r ↔
      rounded b.val ≤ rounded a.val := by
  have hamount := Value.amounts_number (Number.whole a).toFloat
  refine (holds_atMost_iff name _ _ table o r hmember hcategory hamount).trans ?_
  rw [hfield, FieldValue.exists_amounts_number_iff, Whole.le_iff]

end Rules

/-- Whole numbers are compared as they are rounded, for equality under every kind of name and for
order under a scalar one. Rounding keeps the order, and with a number below the fifty-fourth bit
on either side the comparison is exact. -/
theorem holds_whole (name : String) (a b : Whole) (v : Value) (table : Option MembershipTable)
    (o : Options) (r : Record) (hmember : o.isMembership name = false)
    (ha : Value.ofJson? (.number (.whole a)) = some v)
    (hb : r.find? name = some (.number (.whole b))) :
    let Keeps (condition : Condition) : Prop := (⟨name, condition, v⟩ : Rule).Holds table o r
    ((Keeps .exactly ↔ rounded b.val = rounded a.val) ∧
      (o.isCategorical name = false →
        (Keeps .moreThan ↔ rounded b.val > rounded a.val) ∧
        (Keeps .atMost ↔ rounded b.val ≤ rounded a.val))) ∧
    (a.val.natAbs < 2 ^ 53 ∨ b.val.natAbs < 2 ^ 53 →
      (Keeps .exactly ↔ b.val = a.val) ∧
      (o.isCategorical name = false →
        (Keeps .moreThan ↔ b.val > a.val) ∧ (Keeps .atMost ↔ b.val ≤ a.val))) ∧
    (b.val ≤ a.val → rounded b.val ≤ rounded a.val) := by
  intro Keeps
  cases ha
  have hfield : r.field name = .number (Number.whole b).toFloat := by
    rw [Record.field, hb]
    rfl
  have hexactly : Keeps .exactly ↔ rounded b.val = rounded a.val :=
    holds_exactly_whole name a b table o r hmember hfield
  have hmoreThan := holds_moreThan_whole name a b table o r hmember hfield
  have hatMost := holds_atMost_whole name a b table o r hmember hfield
  refine ⟨⟨hexactly, fun hcategory => ⟨hmoreThan hcategory, hatMost hcategory⟩⟩, fun hsmall => ?_,
    rounded_mono b.val a.val⟩
  have hgt : rounded b.val > rounded a.val ↔ b.val > a.val := rounded_lt_iff _ _ hsmall
  have hlt : rounded b.val < rounded a.val ↔ b.val < a.val := rounded_lt_iff _ _ hsmall.symm
  have heq : rounded b.val = rounded a.val ↔ b.val = a.val := by omega
  have hle : rounded b.val ≤ rounded a.val ↔ b.val ≤ a.val := by omega
  exact ⟨hexactly.trans heq, fun hcategory =>
    ⟨(hmoreThan hcategory).trans hgt, (hatMost hcategory).trans hle⟩⟩

theorem holds_whole_premium :
    let a : Whole := ⟨9007199254740993, by decide, by decide⟩
    let b : Whole := ⟨9007199254740991, by decide, by decide⟩
    let v : Value := .number (Number.whole a).toFloat
    let r := Record.ofJson (.object [("premium", .number (.whole b))])
    let Keeps (condition : Condition) : Prop :=
      (⟨"Premium", condition, v⟩ : Rule).Holds none .standard r
    (Options.standard.isMembership "Premium" = false ∧
        Value.ofJson? (.number (.whole a)) = some v ∧
        r.find? "Premium" = some (.number (.whole b))) ∧
      ((Keeps .exactly ↔ rounded b.val = rounded a.val) ∧
        (Options.standard.isCategorical "Premium" = false →
          (Keeps .moreThan ↔ rounded b.val > rounded a.val) ∧
          (Keeps .atMost ↔ rounded b.val ≤ rounded a.val))) ∧
      (a.val.natAbs < 2 ^ 53 ∨ b.val.natAbs < 2 ^ 53 →
        (Keeps .exactly ↔ b.val = a.val) ∧
        (Options.standard.isCategorical "Premium" = false →
          (Keeps .moreThan ↔ b.val > a.val) ∧ (Keeps .atMost ↔ b.val ≤ a.val))) ∧
      (b.val ≤ a.val → rounded b.val ≤ rounded a.val) := by
  intro a b v r Keeps
  have hmember : Options.standard.isMembership "Premium" = false := by decide
  have ha : Value.ofJson? (.number (.whole a)) = some v := rfl
  have hb : r.find? "Premium" = some (.number (.whole b)) := by cbv
  exact ⟨⟨hmember, ha, hb⟩, holds_whole "Premium" a b v none .standard r hmember ha hb⟩

/-- Two neighbours beyond fifty-three bits are one double, so a record with the one is kept by a
rule that asks for the other. -/
theorem holds_exactly_neighbour :
    let a : Whole := ⟨9007199254740993, by decide, by decide⟩
    let b : Whole := ⟨9007199254740992, by decide, by decide⟩
    b.val ≠ a.val ∧
      (⟨"premium", .exactly, .number (Number.whole a).toFloat⟩ : Rule).Holds none .standard
        (.ofJson (.object [("premium", .number (.whole b))])) := by
  intro a b
  have hrounded : rounded b.val = rounded a.val := by decide +kernel
  have hfield : (Record.ofJson (.object [("premium", .number (.whole b))])).field "premium" =
      .number (Number.whole b).toFloat := rfl
  exact ⟨by decide, (holds_exactly_whole "premium" a b none .standard _ (by decide) hfield).mpr
    hrounded⟩

end Screening

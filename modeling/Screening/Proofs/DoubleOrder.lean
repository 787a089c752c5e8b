import Screening.Proofs.Double

/-!
# The order of doubles

Doubles that are numbers are in order as their ranks are. A rank holds the class of
a double (infinite, negative, zero, positive), then its exponent and its mantissa, both
negated below zero; the two zeros share one. So a double that is no number is below
or above nothing, and the others are in a total order.
-/

set_option autoImplicit false

namespace Screening.Double

open Float.Model Float.Model.UnpackedFloat

def rank : UnpackedFloat → ℤ ×ₗ ℤ ×ₗ ℤ
  | .infinity .negative => toLex (-2, toLex (0, 0))
  | .finite .negative m e _ => toLex (-1, toLex (-e, -m))
  | .zero _ | .notANumber => toLex (0, toLex (0, 0))
  | .finite .positive m e _ => toLex (1, toLex (e, m))
  | .infinity .positive => toLex (2, toLex (0, 0))

theorem compare_lex (a b c d e f : ℤ) :
    compare (toLex (a, toLex (b, c))) (toLex (d, toLex (e, f))) =
      (compare a d).then ((compare b e).then (compare c f)) := rfl

theorem compare_neg (a b : ℤ) : compare (-a) (-b) = (compare a b).swap := by
  rw [Int.compare_swap, ← cmp_eq_compare, ← cmp_eq_compare]
  exact StrictAnti.cmp_map_eq (f := fun a : ℤ => -a) (fun a b => neg_lt_neg) a b

theorem compare_natCast (m n : ℕ) : compare (m : ℤ) n = compare m n := by
  rw [← cmp_eq_compare, ← cmp_eq_compare]
  exact Nat.strictMono_cast.cmp_map_eq m n

/-- Two doubles that are numbers compare as their ranks do. -/
theorem compare_eq_compare_rank (u v : UnpackedFloat) (hu : u.isNaN = false)
    (hv : v.isNaN = false) : u.compare v = some (compare (rank u) (rank v)) := by
  cases u with
  | notANumber => simp [UnpackedFloat.isNaN] at hu
  | infinity s =>
    cases v with
    | notANumber => simp [UnpackedFloat.isNaN] at hv
    | infinity t => cases s <;> cases t <;> rfl
    | zero t => cases s <;> rfl
    | finite t n f hn => cases s <;> cases t <;> rfl
  | zero s =>
    cases v with
    | notANumber => simp [UnpackedFloat.isNaN] at hv
    | infinity t => cases t <;> rfl
    | zero t => rfl
    | finite t n f hn => cases t <;> rfl
  | finite s m e hm =>
    cases v with
    | notANumber => simp [UnpackedFloat.isNaN] at hv
    | infinity t => cases s <;> cases t <;> rfl
    | zero t => cases s <;> rfl
    | finite t n f hn =>
      cases s <;> cases t
      · simp only [rank, compare_lex, compare_neg, compare_natCast, UnpackedFloat.compare,
          Ordering.swap_then]
        rfl
      · rfl
      · rfl
      · rw [rank, rank, compare_lex, compare_natCast]
        rfl

theorem compare_of_isNaN (u v : UnpackedFloat) (h : u.isNaN = true ∨ v.isNaN = true) :
    u.compare v = none := by
  rw [isNaN_iff, isNaN_iff] at h
  rcases h with rfl | rfl
  · rfl
  · cases u <;> rfl

def place (x : Float) : ℤ ×ₗ ℤ ×ₗ ℤ := rank x.toModel.unpack

theorem compare_eq_some_iff (x y : Float) (o : Ordering) :
    x.toModel.unpack.compare y.toModel.unpack = some o ↔
      x.isNaN = false ∧ y.isNaN = false ∧ compare (place x) (place y) = o := by
  by_cases hn : x.isNaN = true ∨ y.isNaN = true
  · rw [compare_of_isNaN _ _ hn]
    constructor
    · intro h
      cases h
    · rintro ⟨hx, hy, -⟩
      rw [hx, hy] at hn
      simp at hn
  · rw [not_or, Bool.not_eq_true, Bool.not_eq_true] at hn
    obtain ⟨hx, hy⟩ := hn
    rw [compare_eq_compare_rank _ _ hx hy, Option.some.injEq]
    exact ⟨fun h => ⟨hx, hy, h⟩, fun h => h.2.2⟩

theorem lt_iff (x y : Float) :
    x < y ↔ x.isNaN = false ∧ y.isNaN = false ∧ place x < place y := by
  rw [← compare_lt_iff_lt, ← compare_eq_some_iff]
  show decide (x.toModel < y.toModel) = true ↔ _
  rw [decide_eq_true_iff]
  exact beq_iff_eq

theorem beq_iff (x y : Float) :
    (x == y) = true ↔ x.isNaN = false ∧ y.isNaN = false ∧ place x = place y := by
  rw [← compare_eq_iff_eq (a := place x), ← compare_eq_some_iff]
  show (x.toModel.unpack.compare y.toModel.unpack == some .eq) = true ↔ _
  exact beq_iff_eq

theorem le_iff (x y : Float) :
    x ≤ y ↔ x.isNaN = false ∧ y.isNaN = false ∧ place x ≤ place y := by
  have hle : x ≤ y ↔
      (x.toModel.unpack.compare y.toModel.unpack).any (·.isLE) = true := decide_eq_true_iff
  rw [hle, Option.any_eq_true]
  simp only [compare_eq_some_iff]
  constructor
  · rintro ⟨o, ⟨hx, hy, rfl⟩, ho⟩
    exact ⟨hx, hy, compare_le_iff_le.mp (Ordering.ne_gt_iff_isLE.mpr ho)⟩
  · rintro ⟨hx, hy, h⟩
    exact ⟨_, ⟨hx, hy, rfl⟩, Ordering.ne_gt_iff_isLE.mp (compare_le_iff_le.mpr h)⟩

/-- A number is above another one or at most that one, and not both. -/
theorem gt_xor_le (x y : Float) (hx : x.isNaN = false) (hy : y.isNaN = false) :
    Xor (x > y) (x ≤ y) := by
  rw [gt_iff_lt, lt_iff, le_iff]
  by_cases h : place x ≤ place y
  · exact .inr ⟨⟨hx, hy, h⟩, fun hlt => not_lt.mpr h hlt.2.2⟩
  · exact .inl ⟨⟨hy, hx, not_le.mp h⟩, fun hle => h hle.2.2⟩

theorem lt_iff_le_and_not_beq (x y : Float) : x < y ↔ x ≤ y ∧ ¬ (x == y) = true := by
  rw [lt_iff, le_iff, beq_iff]
  constructor
  · rintro ⟨hx, hy, h⟩
    exact ⟨⟨hx, hy, h.le⟩, fun heq => h.ne heq.2.2⟩
  · rintro ⟨⟨hx, hy, h⟩, hne⟩
    exact ⟨hx, hy, lt_of_le_of_ne h fun heq => hne ⟨hx, hy, heq⟩⟩

theorem not_lt_of_lt_of_le (x y z : Float) (hle : y ≤ x) (hx : x < z) : ¬ z < y := by
  rw [le_iff] at hle
  rw [lt_iff] at hx
  rw [lt_iff]
  exact fun hy => lt_asymm hx.2.2 (lt_of_lt_of_le hy.2.2 hle.2.2)

end Screening.Double

import Screening.Proofs.Acceptance
import Screening.Proofs.Accounting
import Screening.Proofs.DoubleOrder
import Screening.Proofs.Numbers

/-!
# Thresholds and bounds

A rule with a value that stands for a number compares amounts: what a field
stands for is above the number, at most that number, or equal to it. A range is
strict at both ends, while a threshold from above includes its number, so a
range is what two thresholds have in common without their upper number.
-/

set_option autoImplicit false

namespace Screening

/-- Normalization leads to no NaN. -/
theorem Value.isNaN_of_amounts (v : Value) (x : Float) (h : v.Amounts x) :
    x.isNaN = v.isNaN := by
  cases v with
  | number y =>
    cases h
    rfl
  | text s =>
    rcases normalizeText_cases s with ht | ⟨y, hy, ht⟩
    · cases ht.symm.trans h
    · cases ht.symm.trans h
      exact hy
  | _ => cases h

theorem Value.amounts_iff (v : Value) (x : Float) (h : v.Amounts x) (y : Float) :
    v.Amounts y ↔ y = x := by
  unfold Amounts at h ⊢
  rw [h, Value.number.injEq, eq_comm]

theorem Value.not_asksForAny_pair (v w : Value) (x y : Float) (hv : v.Amounts x)
    (hw : w.Amounts y) : ¬ (Value.list [v, w]).AsksForAny := by
  rw [Value.Amounts] at hv hw
  rw [← hasWildcard_iff, ← hasWildcard_normalize, normalize_list]
  simp [Value.hasWildcard, Value.isWildcard, hv, hw]

/-- What a field of a record that was read stands for is no NaN. -/
theorem Record.isNaN_of_amounts (r : Record) (hr : r.Decoded) (name : String) (x : Float)
    (h : (r.field name).Amounts x) : x.isNaN = false := by
  rw [(r.field name).raw.isNaN_of_amounts x h]
  cases hf : r.field name with
  | number y => exact r.isNaN_of_decoded hr name y hf
  | unsupported j => cases j <;> rfl
  | _ => rfl

section Amounts

variable (name : String) (v : Value) (x : Float) (table : Option MembershipTable) (o : Options)
  (r : Record) (hmember : o.isMembership name = false) (hcategory : o.isCategorical name = false)
  (hv : v.Amounts x)

include hmember hcategory hv

theorem holds_moreThan_iff :
    (⟨name, .moreThan, v⟩ : Rule).Holds table o r ↔ ∃ z, (r.field name).Amounts z ∧ z > x := by
  rw [Rule.Holds, Rule.compile_of_amounts name v x _ o hmember hcategory hv .moreThan (by decide)]
  exact moreThan_iff r name x

theorem holds_atMost_iff :
    (⟨name, .atMost, v⟩ : Rule).Holds table o r ↔ ∃ z, (r.field name).Amounts z ∧ z ≤ x := by
  rw [Rule.Holds, Rule.compile_of_amounts name v x _ o hmember hcategory hv .atMost (by decide)]
  exact atMost_iff r name x

theorem holds_exactly_iff :
    (⟨name, .exactly, v⟩ : Rule).Holds table o r ↔
      ∃ z, (r.field name).Amounts z ∧ (z == x) = true := by
  rw [Rule.Holds, Rule.compile_of_amounts name v x _ o hmember hcategory hv .exactly (by decide)]
  exact equals_number_iff r name x

theorem holds_between_iff (w : Value) (y : Float) (hw : w.Amounts y) :
    (⟨name, .between, .list [v, w]⟩ : Rule).Holds table o r ↔
      ∃ z, (r.field name).Amounts z ∧ z > x ∧ z < y := by
  have hwild : (⟨name, .between, .list [v, w]⟩ : Rule).isWildcard = false := by
    rw [← Bool.not_eq_true, Rule.isWildcard_iff]
    rintro (h | h)
    · cases h
    · exact Value.not_asksForAny_pair v w x y hv hw h
  have hrange := compileRange_iff ⟨name, .between, .list [v, w]⟩ r v w
  have hleast : v.isUnbounded ≠ true := fun h => v.not_amounts_of_isUnbounded x h hv
  have hgreatest : w.isUnbounded ≠ true := fun h => w.not_amounts_of_isUnbounded y h hw
  simp only [FieldValue.LiesBetween, hleast, hgreatest, v.amounts_iff x hv, w.amounts_iff y hw,
    exists_eq_left] at hrange
  rw [Rule.Holds, Rule.compile_eq_elim _ _ o hwild hmember hcategory]
  simpa [Predicate.Holds, Rule.bounds?] using hrange

end Amounts

/-- The numeric conditions fit together. Of the thresholds from below and from above at one
number exactly one keeps a record, if its field stands for a number, and otherwise neither
does. A range keeps what both thresholds keep and equality with the upper one does not. -/
theorem holds_numericConditions (name : String) (a b : Value) (x y : Float)
    (table : Option MembershipTable) (o : Options) (r : Record)
    (hmember : o.isMembership name = false) (hcategory : o.isCategorical name = false)
    (ha : a.Amounts x) (hb : b.Amounts y) (hnan : a.isNaN = false) (hr : r.Decoded) :
    let Keeps (condition : Condition) (v : Value) : Prop :=
      (⟨name, condition, v⟩ : Rule).Holds table o r
    ((∃ z, (r.field name).Amounts z) → Xor (Keeps .moreThan a) (Keeps .atMost a)) ∧
      ((¬ ∃ z, (r.field name).Amounts z) → ¬ Keeps .moreThan a ∧ ¬ Keeps .atMost a) ∧
      (Keeps .between (.list [a, b]) ↔
        Keeps .moreThan a ∧ Keeps .atMost b ∧ ¬ Keeps .exactly b) ∧
      (y ≤ x → ¬ Keeps .between (.list [a, b])) := by
  intro Keeps
  have hmore : Keeps .moreThan a ↔ _ :=
    holds_moreThan_iff name a x table o r hmember hcategory ha
  have hmost (v : Value) (z : Float) (hv : v.Amounts z) : Keeps .atMost v ↔ _ :=
    holds_atMost_iff name v z table o r hmember hcategory hv
  have hexactly : Keeps .exactly b ↔ _ :=
    holds_exactly_iff name b y table o r hmember hcategory hb
  have hbetween : Keeps .between (.list [a, b]) ↔ _ :=
    holds_between_iff name a x table o r hmember hcategory ha b y hb
  have hx : x.isNaN = false := (a.isNaN_of_amounts x ha).trans hnan
  rw [hmore, hmost a x ha, hmost b y hb, hexactly, hbetween]
  by_cases hfield : ∃ z, (r.field name).Amounts z
  · obtain ⟨z, hz⟩ := hfield
    have hamount (p : Float → Prop) : (∃ u, (r.field name).Amounts u ∧ p u) ↔ p z := by
      simp only [FieldValue.Amounts, (r.field name).raw.amounts_iff z hz, exists_eq_left]
    have hnumber := r.isNaN_of_amounts hr name z hz
    simp only [hamount]
    refine ⟨fun _ => Double.gt_xor_le z x hnumber hx, fun h => absurd ⟨z, hz⟩ h, ?_, ?_⟩
    · rw [Double.lt_iff_le_and_not_beq z y]
    · exact fun hle hboth => Double.not_lt_of_lt_of_le x y z hle hboth.1 hboth.2
  · simp only [not_exists] at hfield
    simp [hfield]

/-- A field at the upper bound: above the lower one, equal to the upper one, not between them. -/
theorem holds_numericConditions_premium :
    let a : Value := .text "1K"
    let b : Value := .number 2000
    let r := Record.ofJson (.object [("premium", .string "$2,000"), ("Premium", .string "2k")])
    let Keeps (condition : Condition) (v : Value) : Prop :=
      (⟨"Premium", condition, v⟩ : Rule).Holds none .standard r
    (Options.standard.isMembership "Premium" = false ∧
        Options.standard.isCategorical "Premium" = false ∧ a.Amounts 1000 ∧ b.Amounts 2000 ∧
        a.isNaN = false ∧ r.Decoded) ∧
      (r.field "Premium").Amounts 2000 ∧ Xor (Keeps .moreThan a) (Keeps .atMost a) ∧
      (Keeps .between (.list [a, b]) ↔
        Keeps .moreThan a ∧ Keeps .atMost b ∧ ¬ Keeps .exactly b) ∧
      Keeps .moreThan a ∧ Keeps .atMost b ∧ Keeps .exactly b ∧
      ¬ Keeps .between (.list [a, b]) := by
  intro a b r Keeps
  have hmember : Options.standard.isMembership "Premium" = false := by decide
  have hcategory : Options.standard.isCategorical "Premium" = false := by decide
  have ha : a.Amounts 1000 :=
    normalizeText_magnitude ['1', 'K'] 1000 (by decide) (by decide) (by decide) (by decide +kernel)
  have hb : b.Amounts 2000 := rfl
  have hnan : a.isNaN = false := Value.isNaN_of_reader "RawValue" 1 "\"1K\"".toList a [] rfl
  have hr : r.Decoded :=
    ⟨1, "\x7b\"premium\":\"$2,000\",\"Premium\":\"2k\"\x7d".toList, [], by cbv⟩
  have hfield : (r.field "Premium").Amounts 2000 :=
    normalizeText_magnitude ['2', 'k'] 2000 (by decide) (by decide) (by decide) (by decide +kernel)
  obtain ⟨hxor, -, hbetween, -⟩ := holds_numericConditions "Premium" a b 1000 2000
    none .standard r hmember hcategory ha hb hnan hr
  have hmore : Keeps .moreThan a :=
    (holds_moreThan_iff "Premium" a 1000 none .standard r hmember hcategory ha).mpr
      ⟨2000, hfield, by decide +kernel⟩
  have hmost : Keeps .atMost b :=
    (holds_atMost_iff "Premium" b 2000 none .standard r hmember hcategory hb).mpr
      ⟨2000, hfield, by decide +kernel⟩
  have hexactly : Keeps .exactly b :=
    (holds_exactly_iff "Premium" b 2000 none .standard r hmember hcategory hb).mpr
      ⟨2000, hfield, by decide +kernel⟩
  exact ⟨⟨hmember, hcategory, ha, hb, hnan, hr⟩, hfield, hxor ⟨2000, hfield⟩, hbetween, hmore,
    hmost, hexactly, fun h => (hbetween.mp h).2.2 hexactly⟩

end Screening

import Screening.Proofs.Acceptance
import Screening.Proofs.Accounting

/-!
# Faults

A predicate that compares a field when it is normal faults on one that is a truth
value, an array or an object, and one that measures it faults also on a text that
is no number. Nothing else is a fault. A run counts a fault for each record whose
first refusing rule faults, and counts it against that rule.
-/

set_option autoImplicit false

namespace Screening

def Json.isUncomparable : Json → Bool
  | .bool _ | .array _ | .object _ => true
  | _ => false

namespace Predicate

def comparedField? : Predicate → Option String
  | equals field _ | range field _ _ | moreThan field _ | atMost field _ => some field
  | _ => none

def measuredField? : Predicate → Option String
  | range field _ _ | moreThan field _ | atMost field _ => some field
  | _ => none

end Predicate

theorem Record.field_eq_unsupported_iff (r : Record) (name : String) (j : Json) :
    r.field name = .unsupported j ↔ r.find? name = some j ∧ j.isUncomparable = true := by
  unfold field
  cases r.find? name with
  | none => simp
  | some k =>
    constructor
    · intro h
      cases k <;> cases h <;> exact ⟨rfl, rfl⟩
    · rintro ⟨hk, hj⟩
      cases hk
      cases j <;> cases hj <;> rfl

theorem Record.field_eq_text_iff (r : Record) (name s : String) :
    r.field name = .text s ↔ r.find? name = some (.string s) := by
  unfold field
  cases r.find? name with
  | none => simp
  | some k => cases k <;> simp [FieldValue.ofJson]

section Field

variable (r : Record) (name : String)

theorem scalarField_eq_error_iff (cause : PredicateFault) :
    scalarField r name = .error cause ↔
      cause = .unsupportedField name ∧ ∃ j, r.field name = .unsupported j := by
  unfold scalarField
  cases r.field name with
  | unsupported j => simp [eq_comm]
  | _ => simp

/-- A text is measured if it stands for a number. -/
theorem numericField_text (s : String) (h : r.field name = .text s) :
    numericField r name = match normalizeText s with
      | .number x => .ok (some x)
      | v => .error (.notNumeric name v) := by
  have hscalar : scalarField r name = .ok (some (normalizeText s)) := by
    rw [scalarField, h]
    rfl
  rw [numericField, hscalar]
  cases normalizeText s <;> rfl

theorem numericField_eq_error_iff (cause : PredicateFault) :
    numericField r name = .error cause ↔
      scalarField r name = .error cause ∨
        ∃ s, cause = .notNumeric name (.text s) ∧ r.field name = .text s ∧
          ∀ x, normalizeText s ≠ .number x := by
  have hscalar := scalarField_eq_error_iff r name cause
  cases hf : r.field name with
  | text s =>
    rw [numericField_text r name s hf, hscalar, hf]
    rcases normalizeText_cases s with hs | ⟨x, -, hs⟩
    · simp [hs, eq_comm]
    · simp [hs]
  | unsupported j =>
    rw [numericField_unsupported r name j hf, scalarField_unsupported r name j hf]
    simp
  | _ =>
    rw [numericField, scalarField, hf]
    constructor
    · intro h
      cases h
    · rintro (h | ⟨s, -, h, -⟩) <;> cases h

end Field

theorem any_eq_error_iff {α : Type} (answer : Except PredicateFault (Option α)) (p : α → Bool)
    (cause : PredicateFault) :
    (do return (← answer).any p) = (.error cause : Except PredicateFault Bool) ↔
      answer = .error cause := by
  cases answer with
  | error other =>
    show Except.error other = Except.error cause ↔ _
    simp
  | ok found =>
    constructor <;> intro h <;> cases h

namespace Predicate

variable (p : Predicate) (r : Record)

theorem measured_eq_error_iff (field : String) (test : Float → Bool) (cause : PredicateFault) :
    (do return (← numericField r field).any test) = (.error cause : Except PredicateFault Bool) ↔
      (∃ name, some field = some name ∧ scalarField r name = .error cause) ∨
        ∃ name s, some field = some name ∧ cause = .notNumeric name (.text s) ∧
          r.field name = .text s ∧ ∀ x, normalizeText s ≠ .number x := by
  rw [any_eq_error_iff, numericField_eq_error_iff]
  simp

theorem evaluate_eq_error_iff (cause : PredicateFault) :
    p.evaluate r = .error cause ↔
      (∃ name, p.comparedField? = some name ∧ scalarField r name = .error cause) ∨
        ∃ name s, p.measuredField? = some name ∧ cause = .notNumeric name (.text s) ∧
          r.field name = .text s ∧ ∀ x, normalizeText s ≠ .number x := by
  cases p with
  | equals field expected =>
    rw [evaluate, any_eq_error_iff]
    simp [comparedField?, measuredField?]
  | range field least greatest => exact measured_eq_error_iff r field _ cause
  | moreThan field threshold => exact measured_eq_error_iff r field _ cause
  | atMost field threshold => exact measured_eq_error_iff r field _ cause
  | equalsRaw field expected =>
    simp only [evaluate, comparedField?, measuredField?]
    cases r.field field <;> simp
  | _ => simp [evaluate, comparedField?, measuredField?]

theorem evaluate_eq_unsupportedField_iff (name : String) :
    p.evaluate r = .error (.unsupportedField name) ↔
      p.comparedField? = some name ∧ ∃ j, r.find? name = some j ∧ j.isUncomparable = true := by
  rw [evaluate_eq_error_iff]
  simp only [scalarField_eq_error_iff, r.field_eq_unsupported_iff]
  constructor
  · rintro (⟨field, hfield, hname, hj⟩ | ⟨field, s, -, h, -⟩)
    · cases hname
      exact ⟨hfield, hj⟩
    · cases h
  · rintro ⟨hfield, hj⟩
    exact .inl ⟨name, hfield, rfl, hj⟩

theorem evaluate_eq_notNumeric_iff (name : String) (v : Value) :
    p.evaluate r = .error (.notNumeric name v) ↔
      p.measuredField? = some name ∧ ∃ s, v = .text s ∧ r.find? name = some (.string s) ∧
        ∀ x, normalizeText s ≠ .number x := by
  rw [evaluate_eq_error_iff]
  simp only [scalarField_eq_error_iff, r.field_eq_text_iff]
  constructor
  · rintro (⟨field, -, h, -⟩ | ⟨field, s, hfield, hname, hs⟩)
    · cases h
    · cases hname
      exact ⟨hfield, s, rfl, hs⟩
  · rintro ⟨hfield, s, rfl, hs⟩
    exact .inr ⟨name, s, hfield, rfl, hs⟩

/-- A predicate answers wherever it finds no field of a type that it cannot handle. -/
theorem evaluate_eq_ok_iff :
    (∃ answer, p.evaluate r = .ok answer) ↔
      (∀ name j, p.comparedField? = some name → r.find? name = some j →
        j.isUncomparable = false) ∧
      ∀ name s, p.measuredField? = some name → r.find? name = some (.string s) →
        ∃ x, normalizeText s = .number x := by
  constructor
  · rintro ⟨answer, hanswer⟩
    constructor
    · intro name j hfield hj
      by_contra huncomparable
      rw [(p.evaluate_eq_unsupportedField_iff r name).mpr
        ⟨hfield, j, hj, Bool.eq_true_of_not_eq_false huncomparable⟩] at hanswer
      cases hanswer
    · intro name s hfield hs
      by_contra hnumber
      rw [(p.evaluate_eq_notNumeric_iff r name (.text s)).mpr
        ⟨hfield, s, rfl, hs, not_exists.mp hnumber⟩] at hanswer
      cases hanswer
  · rintro ⟨hcompared, hmeasured⟩
    cases he : p.evaluate r with
    | ok answer => exact ⟨answer, rfl⟩
    | error cause =>
      cases cause with
      | unsupportedField name =>
        obtain ⟨hfield, j, hj, huncomparable⟩ := (p.evaluate_eq_unsupportedField_iff r name).mp he
        rw [hcompared name j hfield hj] at huncomparable
        cases huncomparable
      | notNumeric name v =>
        obtain ⟨hfield, s, -, hs, htext⟩ := (p.evaluate_eq_notNumeric_iff r name v).mp he
        obtain ⟨x, hx⟩ := hmeasured name s hfield hs
        exact absurd hx (htext x)

end Predicate

namespace Pass

def firstRefusing? (p : Pass) (r : Record) : Option CompiledRule :=
  p.find? fun c => ¬ c.predicate.Holds r

theorem sum_faults (p : Pass) (records : List Record) :
    ((rows p records).map RuleStats.faults).sum =
      records.countP fun r => (p.firstRefusing? r).any fun c => c.predicate.Faults r := by
  induction p generalizing records with
  | nil => simp [rows, firstRefusing?]
  | cons c p ih =>
    have hrow : (row c records).faults = records.countP fun r => c.predicate.Faults r := rfl
    -- A record that the first rule accepts is charged further on, and any other here.
    have hsplit := List.countP_eq_countP_filter_add records
      (fun r => (firstRefusing? (c :: p) r).any fun c => c.predicate.Faults r)
      (fun r => decide (c.predicate.Holds r))
    rw [rows, List.map_cons, List.sum_cons, ih, hrow, hsplit, add_comm]
    congr 1
    · apply List.countP_congr
      intro r hr
      have hholds : c.predicate.Holds r := by simpa using (List.mem_filter.mp hr).2
      simp [firstRefusing?, hholds]
    · rw [List.countP_filter]
      apply List.countP_congr
      intro r _
      by_cases hholds : c.predicate.Holds r
      · have hfaults : ¬ c.predicate.Faults r := fun h =>
          Predicate.not_holds_of_faults _ r h hholds
        simp [hholds, hfaults]
      · simp [firstRefusing?, hholds]

end Pass

section Run

variable (records : List Record) (rules : List Rule) (table : Option MembershipTable)
  (o : Options)

theorem firstRefusing_compile_any (r : Record) :
    ((Pass.compile rules table o).firstRefusing? r).any (fun c => c.predicate.Faults r) =
      (rules.find? fun rule => ¬ rule.Holds table o r).any fun rule => rule.Faults table o r := by
  rw [Pass.firstRefusing?, Pass.compile, List.find?_map, Option.any_map]
  rfl

/-- Each record is a fault at most once: if the first rule that does not accept it faults. -/
theorem runFilter_faultCount :
    (runFilter records rules table o).faultCount = records.countP fun r =>
      (rules.find? fun rule => ¬ rule.Holds table o r).any fun rule => rule.Faults table o r := by
  unfold runFilter
  split
  · next h =>
    rw [Bool.or_eq_true, List.isEmpty_iff, List.isEmpty_iff] at h
    rcases h with rfl | rfl
    · rfl
    · simp [FilterResult.faultCount, FilterResult.unfiltered]
  · rw [FilterResult.faultCount, Pass.apply_stats, ← List.sum_eq_foldr, Pass.sum_faults]
    simp only [firstRefusing_compile_any]

theorem rowOf_faults (i : ℕ) (hi : i < rules.length) :
    (Pass.rowOf rules table o records i rules[i]).faults = records.countP fun r =>
      rules.findIdx? (fun rule => ¬ rule.Holds table o r) = some i ∧
        rules[i].Faults table o r := by
  apply List.countP_congr
  intro r _
  simp only [decide_eq_true_eq, List.findIdx?_eq_some_iff_getElem]
  apply and_congr_left
  intro hfaults
  have hrefused : ¬ rules[i].Holds table o r := Predicate.not_holds_of_faults _ r hfaults
  constructor
  · intro hearlier
    refine ⟨hi, hrefused, fun j hj => ?_⟩
    have hholds := hearlier rules[j] (List.mem_take_iff_getElem.mpr ⟨j, by omega, rfl⟩)
    simpa using hholds
  · rintro ⟨_, _, hearlier⟩ rule hrule
    obtain ⟨j, hj, rfl⟩ := List.mem_take_iff_getElem.mp hrule
    simpa using hearlier j (by omega)

theorem runFilter_rowFaults :
    (runFilter records rules table o).stats.map RuleStats.faults =
      if records.isEmpty then [] else rules.mapIdx fun i rule => records.countP fun r =>
        rules.findIdx? (fun rule => ¬ rule.Holds table o r) = some i ∧ rule.Faults table o r := by
  rw [runFilter_stats]
  by_cases hnone : records.isEmpty = true
  · simp [hnone]
  · rw [if_neg hnone, eq_comm, List.mapIdx_eq_iff]
    intro i
    have hstats : (if records.isEmpty || rules.isEmpty then [] else
        rules.mapIdx (Pass.rowOf rules table o records)) =
          rules.mapIdx (Pass.rowOf rules table o records) := by
      cases rules <;> simp [hnone]
    rw [hstats, List.getElem?_map, List.getElem?_mapIdx, Option.map_map]
    by_cases hi : i < rules.length
    · rw [List.getElem?_eq_getElem hi]
      exact congrArg some (rowOf_faults records rules table o i hi)
    · rw [List.getElem?_eq_none (by omega)]
      rfl

end Run

/-- Faults are exactly the mismatches of types. A predicate that compares a field when it is
normal faults on a truth value, an array or an object; one that measures it, also on a text
that is no number; there are no other faults. A run counts one fault for each record whose
first refusing rule faults on it, against that rule. -/
theorem faults_iff_mismatch :
    (∀ (p : Predicate) (r : Record),
      (∀ name, p.evaluate r = .error (.unsupportedField name) ↔
        p.comparedField? = some name ∧ ∃ j, r.find? name = some j ∧ j.isUncomparable = true) ∧
      (∀ name v, p.evaluate r = .error (.notNumeric name v) ↔
        p.measuredField? = some name ∧ ∃ s, v = .text s ∧ r.find? name = some (.string s) ∧
          ∀ x, normalizeText s ≠ .number x) ∧
      ((∃ answer, p.evaluate r = .ok answer) ↔
        (∀ name j, p.comparedField? = some name → r.find? name = some j →
          j.isUncomparable = false) ∧
        ∀ name s, p.measuredField? = some name → r.find? name = some (.string s) →
          ∃ x, normalizeText s = .number x)) ∧
    ∀ (records : List Record) (rules : List Rule) (table : Option MembershipTable) (o : Options),
      let result := runFilter records rules table o
      (result.faultCount = records.countP fun r =>
        (rules.find? fun rule => ¬ rule.Holds table o r).any fun rule => rule.Faults table o r) ∧
      result.stats.map RuleStats.faults =
        if records.isEmpty then [] else rules.mapIdx fun i rule => records.countP fun r =>
          rules.findIdx? (fun rule => ¬ rule.Holds table o r) = some i ∧
            rule.Faults table o r := by
  constructor
  · intro p r
    exact ⟨p.evaluate_eq_unsupportedField_iff r, p.evaluate_eq_notNumeric_iff r,
      p.evaluate_eq_ok_iff r⟩
  · intro records rules table o result
    exact ⟨runFilter_faultCount records rules table o, runFilter_rowFaults records rules table o⟩

end Screening

import Screening.Proofs.NormalValue

/-!
# What a rule accepts

The meaning of a rule is stated on the field it looks at, without predicates:
a rule that asks for any value accepts every record, a categorical one compares
the field as it is written, and every other one compares it when it is normal.
The predicate of a rule answers yes on exactly the records the rule accepts.
-/

set_option autoImplicit false

namespace Screening

/-- The keyword for everything, in any case, alone or as an item of a list. -/
def Value.AsksForAny (v : Value) : Prop :=
  ∃ s, (v = .text s ∨ ∃ items, v = .list items ∧ .text s ∈ items) ∧
    Text.sameFolded (Text.trim s) "any" = true

def Value.Amounts (v : Value) (x : Float) : Prop := normalize v = .number x

namespace FieldValue

def Is (field : FieldValue) (v : Value) : Prop :=
  field.isAbsent = false ∧ field.raw.same v = true

def Means (field : FieldValue) (v : Value) : Prop :=
  field.isAbsent = false ∧ field.normal.same (normalize v) = true

def Amounts (field : FieldValue) (x : Float) : Prop := field.raw.Amounts x

/-- The field lies strictly between two bounds. An empty bound is no bound, and
between two of them there is room for every field, also one that is not there. -/
def LiesBetween (field : FieldValue) (least greatest : Value) : Prop :=
  (least.isUnbounded = true ∧ greatest.isUnbounded = true) ∨
    ∃ x, field.Amounts x ∧
      (least.isUnbounded = true ∨ ∃ y, least.Amounts y ∧ x > y) ∧
      (greatest.isUnbounded = true ∨ ∃ y, greatest.Amounts y ∧ x < y)

end FieldValue

namespace Rule

def AsksForAny (r : Rule) : Prop := r.condition = .any ∨ r.value.AsksForAny

def AcceptsAsWritten (r : Rule) (field : FieldValue) : Prop :=
  match r.value with
  | .null => r.condition = .unspecified
  | .list items => ∃ v ∈ items, field.Is v
  | v => field.Is v

def AcceptsScalar (r : Rule) (field : FieldValue) : Prop :=
  match r.value, r.condition with
  | .list items, _ => ∃ v ∈ items, field.Means v
  | .null, condition => condition = .unspecified
  | v, .moreThan => ∃ x y, field.Amounts x ∧ v.Amounts y ∧ x > y
  | v, .atMost => ∃ x y, field.Amounts x ∧ v.Amounts y ∧ x ≤ y
  | v, _ => field.Means v

def AcceptsNormal (r : Rule) (field : FieldValue) : Prop :=
  match r.condition, r.value with
  | .between, .list [least, greatest] => field.LiesBetween least greatest
  | _, _ => r.AcceptsScalar field

/-- The meaning of a rule that does not ask for the members of a group. -/
def Accepts (r : Rule) (o : Options) (field : FieldValue) : Prop :=
  r.AsksForAny ∨
    if o.isCategorical r.name then r.AcceptsAsWritten field else r.AcceptsNormal field

end Rule

theorem hasWildcard_iff (v : Value) : v.hasWildcard = true ↔ v.AsksForAny := by
  cases v with
  | text s => simp [Value.hasWildcard, Value.isWildcard, Value.AsksForAny]
  | list items =>
    simp only [Value.hasWildcard, Value.AsksForAny, List.any_eq_true]
    constructor
    · rintro ⟨v, hv, hw⟩
      cases v with
      | text s => exact ⟨s, .inr ⟨items, rfl, hv⟩, hw⟩
      | _ => simp [Value.isWildcard] at hw
    · rintro ⟨s, hs | ⟨others, ho, hs⟩, hw⟩
      · cases hs
      · cases ho
        exact ⟨.text s, hs, hw⟩
  | _ => simp [Value.hasWildcard, Value.isWildcard, Value.AsksForAny]

theorem hasWildcard_of_isAnyLiteral (v : Value) (h : v.isAnyLiteral = true) :
    v.hasWildcard = true := by
  cases v with
  | text s =>
    simp only [Value.isAnyLiteral, beq_iff_eq] at h
    subst h
    decide
  | _ => simp [Value.isAnyLiteral] at h

theorem Rule.isWildcard_iff (r : Rule) : r.isWildcard = true ↔ r.AsksForAny := by
  simp only [Rule.isWildcard, hasWildcard_normalize, Bool.or_eq_true, beq_iff_eq, Rule.AsksForAny,
    ← hasWildcard_iff, or_assoc]
  have hliteral := hasWildcard_of_isAnyLiteral r.value
  tauto

theorem any_eq_ok_true_iff {α : Type} (answer : Except PredicateFault (Option α)) (p : α → Bool) :
    (do return (← answer).any p) = (.ok true : Except PredicateFault Bool) ↔
      ∃ x, answer = .ok (some x) ∧ p x = true := by
  cases answer with
  | error cause =>
    constructor
    · intro h
      cases h
    · rintro ⟨x, h, -⟩
      cases h
  | ok found =>
    show Except.ok (found.any p) = Except.ok true ↔ _
    cases found <;> simp

theorem Value.same_comm (v w : Value) : v.same w = w.same v :=
  Bool.eq_iff_iff.mpr ⟨v.same_symm w, w.same_symm v⟩

theorem equalsRaw_iff (r : Record) (name : String) (v : Value) :
    (Predicate.equalsRaw name v).evaluate r = .ok true ↔ (r.field name).Is v := by
  simp only [Predicate.evaluate, FieldValue.Is]
  cases r.field name <;> simp [FieldValue.isAbsent]

theorem isOneOf_raw_iff (items : List Value) (field : FieldValue) :
    Predicate.isOneOf items [] field = true ↔ ∃ v ∈ items, field.Is v := by
  cases field <;>
    simp [Predicate.isOneOf, FieldValue.Is, FieldValue.isAbsent, Value.same_comm (FieldValue.raw _)]

/-- A field that is an item as it is written is that item when both are normal. -/
theorem isOneOf_normal_iff (items : List Value) (field : FieldValue) :
    Predicate.isOneOf items (items.map normalize) field = true ↔
      ∃ v ∈ items, field.Means v := by
  by_cases hpresent : field.isAbsent = false
  · have hsplit : Predicate.isOneOf items (items.map normalize) field =
        (items.any (fun v => v.same field.raw) ||
          (!(items.map normalize).isEmpty &&
            (items.map normalize).any (fun v => v.same field.normal))) := by
      cases field with
      | absent => cases hpresent
      | _ => rfl
    rw [hsplit]
    simp only [FieldValue.Means, Bool.or_eq_true, Bool.and_eq_true, List.any_eq_true, List.any_map,
      Function.comp_apply, Value.same_comm field.normal]
    constructor
    · rintro (⟨v, hv, hsame⟩ | ⟨-, v, hv, hsame⟩)
      · exact ⟨v, hv, hpresent, same_normalize v field.raw hsame⟩
      · exact ⟨v, hv, hpresent, hsame⟩
    · rintro ⟨v, hv, -, hsame⟩
      have hne : items ≠ [] := List.ne_nil_of_mem hv
      exact .inr ⟨by simpa using hne, v, hv, hsame⟩
  · cases field with
    | absent => simp [Predicate.isOneOf, FieldValue.Means, FieldValue.isAbsent]
    | _ => exact absurd rfl hpresent

theorem oneOf_raw_iff (r : Record) (name : String) (items : List Value) :
    (Predicate.oneOf name items []).evaluate r = .ok true ↔ ∃ v ∈ items, (r.field name).Is v := by
  rw [← isOneOf_raw_iff]
  simp [Predicate.evaluate]

section Amounts

variable (r : Record) (name : String)

theorem scalarField_unsupported (j : Json) (h : r.field name = .unsupported j) :
    scalarField r name = .error (.unsupportedField name) := by
  rw [scalarField, h]

theorem numericField_unsupported (j : Json) (h : r.field name = .unsupported j) :
    numericField r name = .error (.unsupportedField name) := by
  rw [numericField, scalarField_unsupported r name j h]
  rfl

theorem scalarField_eq_number_iff (x : Float) :
    scalarField r name = .ok (some (.number x)) ↔ (r.field name).Amounts x := by
  unfold scalarField FieldValue.Amounts Value.Amounts
  cases r.field name with
  | number y => simp [FieldValue.normal]
  | text s => simp [FieldValue.normal]
  | absent => simp [FieldValue.raw, normalize]
  | unsupported j => cases j <;> simp [FieldValue.raw, normalize]

theorem numericField_eq_some_iff (x : Float) :
    numericField r name = .ok (some x) ↔ (r.field name).Amounts x := by
  rw [← scalarField_eq_number_iff, numericField]
  cases scalarField r name with
  | error cause => constructor <;> intro h <;> cases h
  | ok found =>
    cases found with
    | none => constructor <;> intro h <;> cases h
    | some v =>
      cases v with
      | number y =>
        show Except.ok (some y) = Except.ok (some x) ↔ _
        simp
      | _ => constructor <;> intro h <;> cases h

theorem equals_number_iff (y : Float) :
    (Predicate.equals name (.number y)).evaluate r = .ok true ↔
      ∃ x, (r.field name).Amounts x ∧ (x == y) = true := by
  rw [Predicate.evaluate, any_eq_ok_true_iff]
  simp only [Value.same_number_iff, ← scalarField_eq_number_iff]
  constructor
  · rintro ⟨v, hv, x, rfl, hx⟩
    exact ⟨x, hv, hx⟩
  · rintro ⟨x, hv, hx⟩
    exact ⟨_, hv, x, rfl, hx⟩

theorem moreThan_iff (y : Float) :
    (Predicate.moreThan name y).evaluate r = .ok true ↔
      ∃ x, (r.field name).Amounts x ∧ x > y := by
  rw [Predicate.evaluate, any_eq_ok_true_iff]
  simp only [numericField_eq_some_iff r name, decide_eq_true_eq]

theorem atMost_iff (y : Float) :
    (Predicate.atMost name y).evaluate r = .ok true ↔
      ∃ x, (r.field name).Amounts x ∧ x ≤ y := by
  rw [Predicate.evaluate, any_eq_ok_true_iff]
  simp only [numericField_eq_some_iff r name, decide_eq_true_eq]

theorem range_iff (least greatest : Option Float) :
    (Predicate.range name least greatest).evaluate r = .ok true ↔
      ∃ x, (r.field name).Amounts x ∧
        least.all (x > ·) = true ∧ greatest.all (x < ·) = true := by
  rw [Predicate.evaluate, any_eq_ok_true_iff]
  simp only [numericField_eq_some_iff r name, Predicate.within, Bool.and_eq_true]

end Amounts

section Scalar

variable (r : Record) (name : String) (hfield : ∀ j, r.field name ≠ .unsupported j)

include hfield

theorem scalarField_eq_some_iff (v : Value) :
    scalarField r name = .ok (some v) ↔
      (r.field name).isAbsent = false ∧ (r.field name).normal = v := by
  unfold scalarField
  cases hf : r.field name with
  | unsupported j => exact absurd hf (hfield j)
  | _ => simp [FieldValue.isAbsent]

theorem equals_iff (v : Value) :
    (Predicate.equals name (normalize v)).evaluate r = .ok true ↔ (r.field name).Means v := by
  rw [Predicate.evaluate, any_eq_ok_true_iff]
  simp only [scalarField_eq_some_iff r name hfield, FieldValue.Means]
  constructor
  · rintro ⟨w, ⟨hpresent, rfl⟩, hsame⟩
    exact ⟨hpresent, hsame⟩
  · rintro ⟨hpresent, hsame⟩
    exact ⟨_, ⟨hpresent, rfl⟩, hsame⟩

end Scalar

theorem Value.not_amounts_of_isUnbounded (v : Value) (x : Float) (h : v.isUnbounded = true) :
    ¬ v.Amounts x := by
  intro hx
  rw [← isUnbounded_normalize, hx] at h
  cases h

theorem bound_normalize_open_iff (v : Value) :
    bound? (normalize v) = some none ↔ v.isUnbounded = true := by
  unfold bound?
  rw [isUnbounded_normalize]
  cases v.isUnbounded <;> simp

theorem bound_normalize_number_iff (v : Value) (y : Float) :
    bound? (normalize v) = some (some y) ↔ v.Amounts y := by
  unfold bound?
  rw [isUnbounded_normalize]
  cases hv : v.isUnbounded with
  | true => simp [Value.not_amounts_of_isUnbounded v y hv]
  | false =>
    simp only [Value.Amounts]
    cases normalize v <;> simp [Value.number?]

/-- A bound that can be used lets through what an empty or a numeric one does. -/
theorem bound_all_iff (v : Value) (b : Option Float) (h : bound? (normalize v) = some b)
    (p : Float → Bool) :
    b.all p = true ↔ v.isUnbounded = true ∨ ∃ y, v.Amounts y ∧ p y = true := by
  cases b with
  | none =>
    have hopen := (bound_normalize_open_iff v).mp h
    simp [hopen]
  | some y =>
    have hy := (bound_normalize_number_iff v y).mp h
    constructor
    · intro hp
      exact .inr ⟨y, hy, hp⟩
    · rintro (hopen | ⟨z, hz, hp⟩)
      · exact absurd hy (v.not_amounts_of_isUnbounded y hopen)
      · rw [Value.Amounts, hz] at hy
        cases hy
        exact hp

theorem not_usable_of_bound_eq_none (v : Value) (h : bound? (normalize v) = none)
    (P : Float → Prop) : ¬ (v.isUnbounded = true ∨ ∃ y, v.Amounts y ∧ P y) := by
  rintro (hopen | ⟨y, hy, -⟩)
  · rw [(bound_normalize_open_iff v).mpr hopen] at h
    cases h
  · rw [(bound_normalize_number_iff v y).mpr hy] at h
    cases h

theorem missingValue_iff (rule : Rule) (r : Record) :
    (missingValue rule).evaluate r = .ok true ↔ rule.condition = .unspecified := by
  unfold missingValue
  split <;> simp_all [Predicate.evaluate]

theorem compileCategorical_iff (rule : Rule) (r : Record) :
    rule.compileCategorical.evaluate r = .ok true ↔
      rule.AcceptsAsWritten (r.field rule.name) := by
  unfold Rule.compileCategorical Rule.AcceptsAsWritten
  cases rule.value with
  | null => exact missingValue_iff rule r
  | list items => exact oneOf_raw_iff r rule.name items
  | _ => exact equalsRaw_iff r rule.name _

theorem threshold_iff (rule : Rule) (r : Record) (build : String → Float → Predicate)
    (P : Float → Float → Prop)
    (hbuild : ∀ y, (build rule.name y).evaluate r = .ok true ↔
      ∃ x, (r.field rule.name).Amounts x ∧ P x y) :
    (rule.threshold build).evaluate r = .ok true ↔
      ∃ x y, (r.field rule.name).Amounts x ∧ rule.value.Amounts y ∧ P x y := by
  unfold Rule.threshold Value.Amounts
  cases normalize rule.value with
  | number y =>
    show (build rule.name y).evaluate r = .ok true ↔ _
    rw [hbuild y]
    simp
  | _ => simp [Value.number?, Predicate.evaluate]

theorem compileScalar_single (rule : Rule) (hnull : rule.value ≠ .null)
    (hlist : ∀ items, rule.value ≠ .list items) :
    rule.compileScalar = match rule.condition with
      | .moreThan => rule.threshold .moreThan
      | .atMost => rule.threshold .atMost
      | _ => .equals rule.name (normalize rule.value) := by
  unfold Rule.compileScalar
  split
  · next items _ hv _ => exact absurd hv (hlist items)
  · next hn => exact absurd ((normalize_eq_null_iff _).mp hn) hnull
  · rfl

theorem Rule.bounds_of_not_list (rule : Rule) (hlist : ∀ items, rule.value ≠ .list items) :
    rule.bounds? = none := by
  unfold Rule.bounds?
  split
  · next hv => exact absurd hv (hlist _)
  · rfl

/-- A rule that is about no group and no category goes by its bounds, if it has any. -/
theorem Rule.compile_eq_elim (rule : Rule) (d : Option Directory) (o : Options)
    (hwild : rule.isWildcard = false) (hmember : o.isMembership rule.name = false)
    (hcategory : o.isCategorical rule.name = false) :
    rule.compile d o =
      rule.bounds?.elim rule.compileScalar fun bounds => rule.compileRange bounds.1 bounds.2 := by
  unfold Rule.compile
  cases hb : rule.bounds? with
  | none => simp [Rule.kind, hwild, hmember, hcategory, hb]
  | some bounds => simp [Rule.kind, hwild, hmember, hcategory, hb]

theorem Value.not_asksForAny_of_amounts (v : Value) (x : Float) (h : v.Amounts x) :
    ¬ v.AsksForAny := by
  rw [← hasWildcard_iff, ← hasWildcard_normalize, h]
  simp [Value.hasWildcard, Value.isWildcard]

/-- What a rule comes to whose value stands for a number. -/
theorem Rule.compile_of_amounts (name : String) (v : Value) (x : Float) (d : Option Directory)
    (o : Options) (hmember : o.isMembership name = false) (hcategory : o.isCategorical name = false)
    (hv : v.Amounts x) (condition : Condition) : condition ≠ .any →
    (⟨name, condition, v⟩ : Rule).compile d o =
      match condition with
      | .moreThan => .moreThan name x
      | .atMost => .atMost name x
      | _ => .equals name (.number x) := by
  intro hany
  have hlist (items : List Value) : v ≠ .list items := by
    rintro rfl
    rw [Value.Amounts, normalize_list] at hv
    cases hv
  have hnull : v ≠ .null := by
    rintro rfl
    cases hv
  have hwild : (⟨name, condition, v⟩ : Rule).isWildcard = false := by
    rw [← Bool.not_eq_true, Rule.isWildcard_iff]
    rintro (h | h)
    · exact hany h
    · exact v.not_asksForAny_of_amounts x hv h
  have hbounds := Rule.bounds_of_not_list ⟨name, condition, v⟩ hlist
  rw [Value.Amounts] at hv
  rw [Rule.compile_eq_elim _ d o hwild hmember hcategory, hbounds, Option.elim]
  rw [compileScalar_single _ hnull hlist]
  cases condition <;> simp only [Rule.threshold, hv, Value.number?]

theorem acceptsScalar_single_iff (rule : Rule) (field : FieldValue) (hnull : rule.value ≠ .null)
    (hlist : ∀ items, rule.value ≠ .list items) :
    rule.AcceptsScalar field ↔ match rule.condition with
      | .moreThan => ∃ x y, field.Amounts x ∧ rule.value.Amounts y ∧ x > y
      | .atMost => ∃ x y, field.Amounts x ∧ rule.value.Amounts y ∧ x ≤ y
      | _ => field.Means rule.value := by
  unfold Rule.AcceptsScalar
  split
  · next items hv => exact absurd hv (hlist items)
  · next hv => exact absurd hv hnull
  · next hc _ _ => rw [hc]
  · next hc _ _ => rw [hc]
  · next hmore hmost =>
    cases hc : rule.condition with
    | moreThan => exact absurd hc hmore
    | atMost => exact absurd hc hmost
    | _ => rfl

theorem acceptsNormal_unbounded_iff (rule : Rule) (field : FieldValue) (hb : rule.bounds? = none) :
    rule.AcceptsNormal field ↔ rule.AcceptsScalar field := by
  unfold Rule.AcceptsNormal
  split
  · next least greatest hc hl => simp [Rule.bounds?, hc, hl] at hb
  · rfl

theorem acceptsNormal_bounded_iff (rule : Rule) (field : FieldValue) (least greatest : Value)
    (hb : rule.bounds? = some (least, greatest)) :
    rule.AcceptsNormal field ↔ field.LiesBetween least greatest := by
  unfold Rule.bounds? at hb
  split at hb
  · next hc hv =>
    cases hb
    simp [Rule.AcceptsNormal, hc, hv]
  · cases hb

theorem compileRange_iff (rule : Rule) (r : Record) (least greatest : Value) :
    (rule.compileRange least greatest).evaluate r = .ok true ↔
      (r.field rule.name).LiesBetween least greatest := by
  unfold Rule.compileRange FieldValue.LiesBetween
  cases hl : bound? (normalize least) with
  | none =>
    have hleast := not_usable_of_bound_eq_none least hl
    constructor
    · intro h
      cases h
    · rintro (⟨hopen, -⟩ | ⟨x, -, hx, -⟩)
      · exact absurd (.inl hopen) (hleast fun _ => True)
      · exact absurd hx (hleast _)
  | some low =>
    cases hg : bound? (normalize greatest) with
    | none =>
      have hgreatest := not_usable_of_bound_eq_none greatest hg
      constructor
      · intro h
        cases low <;> cases h
      · rintro (⟨-, hopen⟩ | ⟨x, -, -, hx⟩)
        · exact absurd (.inl hopen) (hgreatest fun _ => True)
        · exact absurd hx (hgreatest _)
    | some high =>
      have hrange := range_iff r rule.name low high
      simp only [bound_all_iff least low hl, bound_all_iff greatest high hg,
        decide_eq_true_eq] at hrange
      rw [← bound_normalize_open_iff, ← bound_normalize_open_iff, hl, hg] at hrange ⊢
      rw [← hrange]
      cases low <;> cases high <;> simp [Predicate.evaluate]

theorem compileScalar_list_iff (rule : Rule) (r : Record) (items : List Value)
    (hv : rule.value = .list items) :
    rule.compileScalar.evaluate r = .ok true ↔ rule.AcceptsScalar (r.field rule.name) := by
  have hitems := isOneOf_normal_iff items (r.field rule.name)
  unfold Rule.compileScalar Rule.AcceptsScalar
  rw [hv, normalize_list]
  simpa [Predicate.evaluate] using hitems

section Scalar

variable (rule : Rule) (r : Record) (hfield : ∀ j, r.field rule.name ≠ .unsupported j)

include hfield

/-- A value that is not a list is compared by the condition of its rule. -/
theorem compileScalar_single_iff (hnull : rule.value ≠ .null)
    (hlist : ∀ items, rule.value ≠ .list items) :
    rule.compileScalar.evaluate r = .ok true ↔ rule.AcceptsScalar (r.field rule.name) := by
  rw [compileScalar_single rule hnull hlist, acceptsScalar_single_iff rule _ hnull hlist]
  cases rule.condition with
  | moreThan => exact threshold_iff rule r .moreThan _ (moreThan_iff r rule.name)
  | atMost => exact threshold_iff rule r .atMost _ (atMost_iff r rule.name)
  | _ => exact equals_iff r rule.name hfield rule.value

theorem compileScalar_iff :
    rule.compileScalar.evaluate r = .ok true ↔ rule.AcceptsScalar (r.field rule.name) := by
  cases hv : rule.value with
  | list items => exact compileScalar_list_iff rule r items hv
  | null =>
    unfold Rule.compileScalar Rule.AcceptsScalar
    rw [hv]
    exact missingValue_iff rule r
  | _ =>
    apply compileScalar_single_iff rule r hfield
    · simp [hv]
    · simp [hv]

end Scalar

/-- The predicate of a rule that asks for no group answers yes on a record exactly
if the rule accepts it, for every field that can be compared. -/
theorem evaluate_compile_iff_accepts (rule : Rule) (table : Option MembershipTable) (o : Options)
    (r : Record) (hmember : o.isMembership rule.name = false)
    (hfield : ∀ j, r.field rule.name ≠ .unsupported j) :
    (rule.compile (table.map Directory.ofTable) o).evaluate r = .ok true ↔
      rule.Accepts o (r.field rule.name) := by
  unfold Rule.Accepts
  rw [← Rule.isWildcard_iff]
  by_cases hw : rule.isWildcard = true
  · simp [Rule.compile, Rule.kind, hw, Predicate.evaluate]
  · by_cases hc : o.isCategorical rule.name = true
    · have hcat := compileCategorical_iff rule r
      simpa [Rule.compile, Rule.kind, hw, hc, hmember] using hcat
    · cases hb : rule.bounds? with
      | none =>
        have hscalar := compileScalar_iff rule r hfield
        rw [← acceptsNormal_unbounded_iff rule _ hb] at hscalar
        simpa [Rule.compile, Rule.kind, hw, hc, hmember, hb] using hscalar
      | some bounds =>
        obtain ⟨least, greatest⟩ := bounds
        have hrange := compileRange_iff rule r least greatest
        rw [← acceptsNormal_bounded_iff rule _ least greatest hb] at hrange
        simpa [Rule.compile, Rule.kind, hw, hc, hmember, hb] using hrange

theorem evaluate_compile_volume :
    let rule : Rule := ⟨"Volume", .between, .list [.text "1K", .text " "]⟩
    let r := Record.ofJson (.object [("volume", .string "2.5K")])
    Options.standard.isMembership rule.name = false ∧
      (∀ j, r.field rule.name ≠ .unsupported j) ∧
      ((rule.compile ((some .empty).map Directory.ofTable) .standard).evaluate r = .ok true ↔
        rule.Accepts .standard (r.field rule.name)) := by
  intro rule r
  have hmember : Options.standard.isMembership rule.name = false := by decide
  have hfield : ∀ j, r.field rule.name ≠ .unsupported j := by
    have htext : r.field rule.name = .text "2.5K" := by cbv
    intro j h
    rw [htext] at h
    cases h
  exact ⟨hmember, hfield,
    evaluate_compile_iff_accepts rule (some .empty) .standard r hmember hfield⟩

end Screening

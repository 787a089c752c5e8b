import Screening.Proofs.Groups

/-!
# Lists of values in rules

A list is compared item by item, also with a field of a type that no single value
is compared with. There an array or an object counts as nothing, so it is found in
a list that has nothing among its items. A list of one value is the same rule as
that value alone, except where the value is a truth value and so is the field.
-/

set_option autoImplicit false

namespace Screening

def FieldValue.isNested : FieldValue → Bool
  | unsupported (.array _) | unsupported (.object _) => true
  | _ => false

theorem FieldValue.raw_nested (field : FieldValue) (h : field.isNested = true) :
    field.raw = .null ∧ ∃ j, field = .unsupported j := by
  unfold isNested at h
  split at h
  · exact ⟨rfl, _, rfl⟩
  · exact ⟨rfl, _, rfl⟩
  · cases h

theorem normalize_eq_bool_iff (v : Value) (b : Bool) : normalize v = .bool b ↔ v = .bool b := by
  cases v with
  | text t =>
    rcases normalizeText_cases t with ht | ⟨x, -, ht⟩ <;> simp [normalize, ht]
  | _ => simp [normalize]

/-- A threshold lets nothing through if no threshold does. -/
theorem threshold_ne_true (rule : Rule) (r : Record) (build : String → Float → Predicate)
    (hbuild : ∀ y, (build rule.name y).evaluate r ≠ .ok true) :
    (rule.threshold build).evaluate r ≠ .ok true := by
  unfold Rule.threshold
  split
  · exact hbuild _
  · simp [Predicate.evaluate]

section Unsupported

variable (j : Json)

theorem raw_unsupported :
    (FieldValue.unsupported j).raw = .null ∨ ∃ b, (FieldValue.unsupported j).raw = .bool b := by
  cases j <;> simp [FieldValue.raw]

theorem same_raw_unsupported_iff (v : Value) :
    v.same (FieldValue.unsupported j).raw = true ↔ v = (FieldValue.unsupported j).raw := by
  rcases raw_unsupported j with h | ⟨b, h⟩ <;> rw [h] <;> cases v <;> simp [Value.same]

/-- Such a field is an item of a list as it is written or not at all. -/
theorem same_normal_unsupported_iff (v : Value) :
    (normalize v).same (FieldValue.unsupported j).normal = true ↔
      v = (FieldValue.unsupported j).raw := by
  have hraw := same_raw_unsupported_iff j (normalize v)
  rcases raw_unsupported j with h | ⟨b, h⟩
  · rw [h, normalize_eq_null_iff] at hraw
    rw [FieldValue.normal, h]
    exact hraw
  · rw [h, normalize_eq_bool_iff] at hraw
    rw [FieldValue.normal, h]
    exact hraw

theorem is_unsupported_iff (v : Value) :
    (FieldValue.unsupported j).Is v ↔ v = (FieldValue.unsupported j).raw := by
  rw [FieldValue.Is, Value.same_comm, same_raw_unsupported_iff]
  simp [FieldValue.isAbsent]

theorem isOneOf_unsupported_iff (items : List Value) :
    Predicate.isOneOf items (items.map normalize) (.unsupported j) = true ↔
      (FieldValue.unsupported j).raw ∈ items := by
  rw [isOneOf_normal_iff]
  simp only [FieldValue.Means, Value.same_comm (FieldValue.normal _),
    same_normal_unsupported_iff]
  simp [FieldValue.isAbsent]

variable (rule : Rule) (r : Record) (hfield : r.field rule.name = .unsupported j)

include hfield

theorem compileCategorical_unsupported_iff (hnull : rule.value ≠ .null) :
    rule.compileCategorical.evaluate r = .ok true ↔
      rule.value = (FieldValue.unsupported j).raw ∨
        ∃ items, rule.value = .list items ∧ (FieldValue.unsupported j).raw ∈ items := by
  rw [compileCategorical_iff, hfield, Rule.AcceptsAsWritten]
  cases hv : rule.value with
  | null => exact absurd hv hnull
  | list items =>
    have hraw : Value.list items ≠ (FieldValue.unsupported j).raw := by
      rcases raw_unsupported j with h | ⟨b, h⟩ <;> simp [h]
    simp [is_unsupported_iff, hraw]
  | _ => simp [is_unsupported_iff]

theorem compileRange_unsupported (least greatest : Value)
    (halways : rule.compileRange least greatest ≠ .always) :
    (rule.compileRange least greatest).evaluate r ≠ .ok true := by
  unfold Rule.compileRange at halways ⊢
  split
  · next hleast hgreatest => simp [hleast, hgreatest] at halways
  · intro h
    obtain ⟨x, hx, -⟩ := (any_eq_ok_true_iff _ _).mp h
    rw [numericField_unsupported r rule.name j hfield] at hx
    cases hx
  · simp [Predicate.evaluate]

theorem compileScalar_unsupported_iff (hnull : rule.value ≠ .null) :
    rule.compileScalar.evaluate r = .ok true ↔
      ∃ items, rule.value = .list items ∧ (FieldValue.unsupported j).raw ∈ items := by
  by_cases hlist : ∃ items, rule.value = .list items
  · obtain ⟨items, hv⟩ := hlist
    have hitems := isOneOf_unsupported_iff j items
    rw [Rule.compileScalar, hv, normalize_list]
    simpa [Predicate.evaluate, hfield] using hitems
  · have hnumeric := numericField_unsupported r rule.name j hfield
    have hnever (answer : Except PredicateFault Bool) :
        answer = .error (.unsupportedField rule.name) → answer ≠ .ok true := by
      rintro rfl h
      cases h
    rw [compileScalar_single rule hnull fun items hv => hlist ⟨items, hv⟩]
    simp only [not_exists] at hlist
    simp only [hlist, false_and, exists_false, iff_false]
    split
    · exact threshold_ne_true rule r .moreThan
        fun y => hnever _ (by rw [Predicate.evaluate, hnumeric]; rfl)
    · exact threshold_ne_true rule r .atMost
        fun y => hnever _ (by rw [Predicate.evaluate, hnumeric]; rfl)
    · exact hnever _ (by rw [Predicate.evaluate, scalarField_unsupported r _ j hfield]; rfl)

end Unsupported

theorem missingValue_ne_true (rule : Rule) (r : Record) (halways : missingValue rule ≠ .always) :
    (missingValue rule).evaluate r ≠ .ok true := by
  unfold missingValue at halways ⊢
  split
  · next hc => exact absurd (if_pos hc) halways
  · simp [Predicate.evaluate]

theorem Rule.compileCategorical_null (rule : Rule) (h : rule.value = .null) :
    rule.compileCategorical = missingValue rule := by
  rw [compileCategorical, h]

theorem Rule.compileScalar_null (rule : Rule) (h : rule.value = .null) :
    rule.compileScalar = missingValue rule := by
  rw [compileScalar, h]
  rfl

theorem Rule.bounds_of_kind (rule : Rule) (o : Options) (h : rule.kind o = .range) :
    ∃ least greatest, rule.bounds? = some (least, greatest) := by
  unfold Rule.kind at h
  split_ifs at h with hwildcard hmember hcategorical hbounds
  obtain ⟨⟨least, greatest⟩, hb⟩ := Option.isSome_iff_exists.mp hbounds
  exact ⟨least, greatest, hb⟩

theorem Rule.compile_list (rule : Rule) (d : Option Directory) (o : Options) (items : List Value)
    (hkind : rule.kind o = .scalar) (hv : rule.value = .list items) :
    rule.compile d o = .oneOf rule.name items (items.map normalize) := by
  rw [compile, hkind]
  show rule.compileScalar = _
  rw [compileScalar, hv, normalize_list]

/-- A field that holds an array or an object passes a rule that looks at it only if the rule
has a list, not of two bounds, with nothing among its items. -/
theorem evaluate_compile_nested (rule : Rule) (table : Option MembershipTable) (o : Options)
    (r : Record) (hkind : rule.kind o ≠ .membership)
    (halways : rule.compile (table.map Directory.ofTable) o ≠ .always)
    (hfield : (r.field rule.name).isNested = true) :
    (rule.compile (table.map Directory.ofTable) o).evaluate r = .ok true ↔
      rule.kind o ≠ .range ∧ ∃ items, rule.value = .list items ∧ .null ∈ items := by
  obtain ⟨hraw, j, hj⟩ := FieldValue.raw_nested _ hfield
  rw [hj] at hraw
  unfold Rule.compile at halways ⊢
  cases hk : rule.kind o with
  | wildcard => simp [hk] at halways
  | membership => exact absurd hk hkind
  | range =>
    obtain ⟨least, greatest, hb⟩ := rule.bounds_of_kind o hk
    simp only [hk, hb] at halways ⊢
    simpa using compileRange_unsupported j rule r hj least greatest halways
  | categorical =>
    simp only [hk] at halways ⊢
    by_cases hnull : rule.value = .null
    · rw [rule.compileCategorical_null hnull] at halways ⊢
      simpa [hnull] using missingValue_ne_true rule r halways
    · rw [compileCategorical_unsupported_iff j rule r hj hnull, hraw]
      simp [hnull]
  | scalar =>
    simp only [hk] at halways ⊢
    by_cases hnull : rule.value = .null
    · rw [rule.compileScalar_null hnull] at halways ⊢
      simpa [hnull] using missingValue_ne_true rule r halways
    · rw [compileScalar_unsupported_iff j rule r hj hnull, hraw]
      simp

theorem evaluate_compile_nested_more :
    let rule : Rule := ⟨"premium", .moreThan, .list [.bool true, .null]⟩
    let r := Record.ofJson (.object [("premium", .array [.null])])
    rule.kind .standard ≠ .membership ∧
      rule.compile ((none : Option MembershipTable).map Directory.ofTable) .standard ≠ .always ∧
      (r.field rule.name).isNested = true ∧
      ((rule.compile ((none : Option MembershipTable).map Directory.ofTable) .standard).evaluate r =
          .ok true ↔
        rule.kind .standard ≠ .range ∧ ∃ items, rule.value = .list items ∧ .null ∈ items) := by
  intro rule r
  have hkind : rule.kind .standard = .scalar := by decide
  have hmember : rule.kind .standard ≠ .membership := by simp [hkind]
  have halways :
      rule.compile ((none : Option MembershipTable).map Directory.ofTable) .standard ≠ .always := by
    rw [rule.compile_list _ _ _ hkind rfl]
    exact nofun
  have hfield : (r.field rule.name).isNested = true := rfl
  exact ⟨hmember, halways, hfield,
    evaluate_compile_nested rule none .standard r hmember halways hfield⟩

/-- With nothing as its item, a list accepts an array. -/
theorem evaluate_compile_nested_null :
    let rule : Rule := ⟨"premium", .exactly, .list [.null]⟩
    let r := Record.ofJson (.object [("premium", .array [.string "calls", .string "puts"])])
    rule.kind .standard ≠ .membership ∧
      rule.compile ((none : Option MembershipTable).map Directory.ofTable) .standard ≠ .always ∧
      (r.field rule.name).isNested = true ∧
      (rule.compile ((none : Option MembershipTable).map Directory.ofTable) .standard).evaluate r =
        .ok true := by
  intro rule r
  have hkind : rule.kind .standard = .scalar := by decide
  have hfield : r.field rule.name = .unsupported (.array [.string "calls", .string "puts"]) := rfl
  rw [rule.compile_list _ _ _ hkind rfl]
  refine ⟨by simp [hkind], nofun, rfl, ?_⟩
  rw [Predicate.evaluate, hfield]
  rfl

def Value.IsSingle (v : Value) : Prop := v ≠ .null ∧ ∀ items, v ≠ .list items

namespace Rule

def listed (rule : Rule) : Rule := { rule with value := .list [rule.value] }

variable (rule : Rule) (o : Options)

@[simp] theorem listed_name : rule.listed.name = rule.name := rfl

@[simp] theorem listed_condition : rule.listed.condition = rule.condition := rfl

@[simp] theorem listed_value : rule.listed.value = .list [rule.value] := rfl

theorem bounds_listed : rule.listed.bounds? = none := by
  unfold bounds? listed
  cases rule.condition <;> rfl

theorem compileMembership_listed (d : Option Directory) :
    rule.listed.compileMembership d o = rule.compileMembership d o := by
  simp [compileMembership, Value.groups, groupsOfItems]

section Single

variable (hsingle : rule.value.IsSingle)

include hsingle

theorem bounds_single : rule.bounds? = none := rule.bounds_of_not_list hsingle.2

theorem asksForAny_listed_iff : rule.listed.AsksForAny ↔ rule.AsksForAny := by
  have hlist := hsingle.2
  simp only [AsksForAny, Value.AsksForAny, listed_condition, listed_value, hlist]
  simp [eq_comm (b := rule.value)]

theorem kind_listed : rule.listed.kind o = rule.kind o := by
  have hwildcard : rule.listed.isWildcard = rule.isWildcard :=
    Bool.eq_iff_iff.mpr (by rw [isWildcard_iff, isWildcard_iff, asksForAny_listed_iff rule hsingle])
  rw [kind, kind, hwildcard, bounds_listed, bounds_single rule hsingle, listed_name]

theorem acceptsAsWritten_listed_iff (field : FieldValue) :
    rule.listed.AcceptsAsWritten field ↔ rule.AcceptsAsWritten field := by
  obtain ⟨hnull, hlist⟩ := hsingle
  unfold AcceptsAsWritten
  rw [listed_value]
  cases hv : rule.value with
  | null => exact absurd hv hnull
  | list items => exact absurd hv (hlist items)
  | _ => simp

theorem acceptsScalar_listed_iff
    (hc : rule.condition = .exactly ∨ rule.condition = .unspecified) (field : FieldValue) :
    rule.listed.AcceptsScalar field ↔ rule.AcceptsScalar field := by
  rw [acceptsScalar_single_iff rule field hsingle.1 hsingle.2]
  rcases hc with hc | hc <;> simp [AcceptsScalar, hc]

theorem raw_unsupported_single_iff (j : Json) :
    (FieldValue.unsupported j).raw = rule.value ↔ ∃ b, rule.value = .bool b ∧ j = .bool b := by
  have hnull := hsingle.1.symm
  cases j <;> simp [FieldValue.raw, hnull, eq_comm]

theorem compileScalar_listed_iff
    (hc : rule.condition = .exactly ∨ rule.condition = .unspecified) (r : Record) :
    rule.listed.compileScalar.evaluate r = .ok true ↔
      rule.compileScalar.evaluate r = .ok true ∨
        ∃ b, rule.value = .bool b ∧ r.field rule.name = .unsupported (.bool b) := by
  by_cases hfield : ∃ j, r.field rule.name = .unsupported j
  · obtain ⟨j, hj⟩ := hfield
    rw [compileScalar_unsupported_iff j rule r hj hsingle.1,
      compileScalar_unsupported_iff j rule.listed r hj nofun, hj]
    have hraw := raw_unsupported_single_iff rule hsingle j
    simpa [hsingle.2] using hraw
  · rw [not_exists] at hfield
    rw [compileScalar_iff rule r hfield, compileScalar_iff rule.listed r hfield, listed_name,
      acceptsScalar_listed_iff rule hsingle hc]
    simp [hfield]

end Single

end Rule

/-- A list of one value accepts what the value alone accepts and, if the field is compared
when it is normal, also a field that is the same truth value. -/
theorem evaluate_compile_listed (rule : Rule) (table : Option MembershipTable) (o : Options)
    (r : Record) (hsingle : rule.value.IsSingle)
    (hc : rule.condition = .exactly ∨ rule.condition = .unspecified) :
    (rule.listed.compile (table.map Directory.ofTable) o).evaluate r = .ok true ↔
      (rule.compile (table.map Directory.ofTable) o).evaluate r = .ok true ∨
        (rule.kind o = .scalar ∧
          ∃ b, rule.value = .bool b ∧ r.field rule.name = .unsupported (.bool b)) := by
  unfold Rule.compile
  rw [Rule.kind_listed rule o hsingle]
  cases hk : rule.kind o with
  | wildcard => simp
  | membership => simp [Rule.compileMembership_listed]
  | categorical =>
    simp [compileCategorical_iff, Rule.acceptsAsWritten_listed_iff rule hsingle]
  | range =>
    obtain ⟨least, greatest, hb⟩ := rule.bounds_of_kind o hk
    simp [Rule.bounds_single rule hsingle] at hb
  | scalar => simpa using Rule.compileScalar_listed_iff rule hsingle hc r

theorem evaluate_compile_listed_premium :
    let rule : Rule := ⟨"premium", .exactly, .text "1K"⟩
    let r := Record.ofJson (.object [("premium", .string " 1000 ")])
    rule.value.IsSingle ∧ (rule.condition = .exactly ∨ rule.condition = .unspecified) ∧
      ((rule.listed.compile ((none : Option MembershipTable).map Directory.ofTable)
          .standard).evaluate r = .ok true ↔
        (rule.compile ((none : Option MembershipTable).map Directory.ofTable)
            .standard).evaluate r = .ok true ∨
          (rule.kind .standard = .scalar ∧
            ∃ b, rule.value = .bool b ∧ r.field rule.name = .unsupported (.bool b))) := by
  intro rule r
  have hsingle : rule.value.IsSingle := ⟨nofun, fun _ => nofun⟩
  have hc : rule.condition = .exactly ∨ rule.condition = .unspecified := .inl rfl
  exact ⟨hsingle, hc, evaluate_compile_listed rule none .standard r hsingle hc⟩

/-- A truth value alone is not found in a record that has it; as an item it is. -/
theorem evaluate_compile_listed_flag :
    let rule : Rule := ⟨"flag", .exactly, .bool true⟩
    let r := Record.ofJson (.object [("flag", .bool true)])
    (rule.listed.compile ((none : Option MembershipTable).map Directory.ofTable)
        .standard).evaluate r = .ok true ∧
      (rule.compile ((none : Option MembershipTable).map Directory.ofTable)
        .standard).evaluate r ≠ .ok true := by
  intro rule r
  have hvalue : rule.value ≠ .null := by simp [rule]
  have hkind : rule.kind .standard = .scalar := by decide
  have hlisted : rule.listed.kind .standard = .scalar := by decide
  have hfield : r.field rule.name = .unsupported (.bool true) := rfl
  constructor
  · rw [rule.listed.compile_list _ _ _ hlisted rfl, Predicate.evaluate]
    show Except.ok (Predicate.isOneOf _ _ (r.field rule.name)) = _
    rw [hfield]
    rfl
  · rw [Rule.compile, hkind]
    show rule.compileScalar.evaluate r ≠ _
    rw [Ne, compileScalar_unsupported_iff _ rule r hfield hvalue]
    rintro ⟨items, hlist, -⟩
    cases hlist

end Screening

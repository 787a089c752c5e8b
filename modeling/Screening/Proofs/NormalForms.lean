import Screening.Proofs.Keyed
import Screening.Proofs.SameValue
import Screening.Proofs.Sorted

/-!
# Rules see normal forms

A rule that is neither about groups nor about a category sees its value and the field
only in their normal forms. Values with equal normal forms become alike predicates,
and alike predicates have one outcome on fields with equal normal forms, faults
included; so it does not matter in which notation a value or a field is written.
-/

set_option autoImplicit false

namespace Screening

namespace FieldValue

def isScalar : FieldValue → Bool
  | number _ | text _ => true
  | _ => false

/-- One field, or two numbers or texts with equal normal forms. -/
inductive Alike : FieldValue → FieldValue → Prop
  | refl (field : FieldValue) : Alike field field
  | normal (field field' : FieldValue) (h : field.isScalar = true) (h' : field'.isScalar = true)
    (hnormal : field.normal.Equal field'.normal) : Alike field field'

variable {field field' : FieldValue}

theorem Alike.isAbsent_eq (h : Alike field field') : field.isAbsent = field'.isAbsent := by
  cases h with
  | refl => rfl
  | normal _ h h' _ => cases field <;> cases field' <;> simp_all [isScalar, isAbsent]

theorem Alike.normal_equal (h : Alike field field') : field.normal.Equal field'.normal := by
  cases h with
  | refl => exact .refl _
  | normal _ _ _ hnormal => exact hnormal

theorem normal_ne_list (h : field.isScalar = true) (items : List Value) :
    field.normal ≠ .list items := by
  cases field with
  | number x => exact nofun
  | text s =>
    rcases normalizeText_cases s with hs | ⟨x, -, hs⟩ <;> simp [normal, raw, normalize, hs]
  | _ => cases h

/-- Fields with equal normal forms are the same values, whatever the notation. -/
theorem Alike.means_iff (h : Alike field field') (v w : Value)
    (hv : (normalize v).Equal (normalize w)) : field.Means v ↔ field'.Means w := by
  rw [Means, Means, h.isAbsent_eq, h.normal_equal.same_congr hv]

end FieldValue

inductive Predicate.Alike (name : String) : Predicate → Predicate → Prop
  | always : Alike name .always .always
  | never : Alike name .never .never
  | equals (v w : Value) (h : v.Equal w) : Alike name (.equals name v) (.equals name w)
  | oneOf (vs ws : List Value)
    (h : List.Forall₂ Value.Equal (vs.map normalize) (ws.map normalize)) :
    Alike name (.oneOf name vs (vs.map normalize)) (.oneOf name ws (ws.map normalize))
  | range (least least' greatest greatest' : Option Float)
    (hleast : Option.Rel Double.Equal least least')
    (hgreatest : Option.Rel Double.Equal greatest greatest') :
    Alike name (.range name least greatest) (.range name least' greatest')
  | moreThan (x y : Float) (h : Double.Equal x y) : Alike name (.moreThan name x) (.moreThan name y)
  | atMost (x y : Float) (h : Double.Equal x y) : Alike name (.atMost name x) (.atMost name y)

section Outcome

variable {r r' : Record} {name : String}

theorem scalarField_of_isScalar (h : (r.field name).isScalar = true) :
    scalarField r name = .ok (some (r.field name).normal) := by
  unfold scalarField
  cases hf : r.field name with
  | number x => rfl
  | text s => rfl
  | _ => simp [hf, FieldValue.isScalar] at h

/-- Fields that are alike are compared as one value, or as equal numbers. -/
theorem scalarField_alike (h : (r.field name).Alike (r'.field name)) :
    scalarField r name = scalarField r' name ∨
      ∃ x y, scalarField r name = .ok (some (.number x)) ∧
        scalarField r' name = .ok (some (.number y)) ∧ Double.Equal x y := by
  generalize hf : r.field name = field at h
  generalize hf' : r'.field name = field' at h
  cases h with
  | refl => exact .inl (by rw [scalarField, scalarField, hf, hf'])
  | normal _ h h' hnormal =>
    rw [scalarField_of_isScalar (hf ▸ h), scalarField_of_isScalar (hf' ▸ h'), hf, hf']
    rcases hnormal.cases_form with heq | ⟨x, y, hx, hy, hxy⟩ | ⟨vs, ws, hvs, -, -⟩
    · exact .inl (by rw [heq])
    · exact .inr ⟨x, y, by rw [hx], by rw [hy], hxy⟩
    · exact absurd hvs (FieldValue.normal_ne_list h vs)

theorem scalarField_any_eq (h : (r.field name).Alike (r'.field name)) (test test' : Value → Bool)
    (htest : ∀ v w, v.Equal w → test v = test' w) :
    (do return (← scalarField r name).any test) =
      (do return (← scalarField r' name).any test' : Except PredicateFault Bool) := by
  rcases scalarField_alike h with heq | ⟨x, y, hx, hy, hxy⟩
  · have htests : test = test' := funext fun v => htest v v (.refl v)
    rw [heq, htests]
  · rw [hx, hy]
    exact congrArg Except.ok (htest _ _ ((Value.Equal.number_iff x y).mpr hxy))

/-- Fields that are alike are measured alike, or fault alike. -/
theorem numericField_any_eq (h : (r.field name).Alike (r'.field name)) (test test' : Float → Bool)
    (htest : ∀ x y, Double.Equal x y → test x = test' y) :
    (do return (← numericField r name).any test) =
      (do return (← numericField r' name).any test' : Except PredicateFault Bool) := by
  rcases scalarField_alike h with heq | ⟨x, y, hx, hy, hxy⟩
  · have htests : test = test' := funext fun x => htest x x (.inl rfl)
    rw [numericField, numericField, heq, htests]
  · rw [numericField, numericField, hx, hy]
    exact congrArg Except.ok (htest x y hxy)

theorem within_eq (least least' greatest greatest' : Option Float)
    (hleast : Option.Rel Double.Equal least least')
    (hgreatest : Option.Rel Double.Equal greatest greatest') (x y : Float)
    (h : Double.Equal x y) :
    Predicate.within least greatest x = Predicate.within least' greatest' y := by
  have hlow : least.all (x > ·) = least'.all (y > ·) := by
    cases hleast with
    | none => rfl
    | some hbound => exact decide_eq_decide.mpr (hbound.lt_iff h)
  have hhigh : greatest.all (x < ·) = greatest'.all (y < ·) := by
    cases hgreatest with
    | none => rfl
    | some hbound => exact decide_eq_decide.mpr (h.lt_iff hbound)
  rw [Predicate.within, Predicate.within, hlow, hhigh]

/-- Lists with equal normal forms hold alike fields or do not. -/
theorem isOneOf_eq (vs ws : List Value)
    (hitems : List.Forall₂ Value.Equal (vs.map normalize) (ws.map normalize))
    {field field' : FieldValue} (h : field.Alike field') :
    Predicate.isOneOf vs (vs.map normalize) field =
      Predicate.isOneOf ws (ws.map normalize) field' := by
  rw [Bool.eq_iff_iff, isOneOf_normal_iff, isOneOf_normal_iff]
  rw [List.forall₂_map_left_iff, List.forall₂_map_right_iff] at hitems
  induction hitems with
  | nil => simp
  | cons hv _ ih => rw [List.exists_mem_cons_iff, List.exists_mem_cons_iff, h.means_iff _ _ hv, ih]

/-- Alike predicates have one outcome on fields that are alike. -/
theorem Predicate.Alike.evaluate_eq {p q : Predicate} (hp : Predicate.Alike name p q)
    (h : (r.field name).Alike (r'.field name)) : p.evaluate r = q.evaluate r' := by
  cases hp with
  | always => rfl
  | never => rfl
  | equals v w hvw =>
    exact scalarField_any_eq h _ _ fun u u' hu => hu.same_congr hvw
  | oneOf vs ws hitems => exact congrArg Except.ok (isOneOf_eq vs ws hitems h)
  | range least least' greatest greatest' hleast hgreatest =>
    exact numericField_any_eq h _ _ fun x y hxy =>
      within_eq least least' greatest greatest' hleast hgreatest x y hxy
  | moreThan x y hxy =>
    exact numericField_any_eq h _ _ fun u u' hu => decide_eq_decide.mpr (hxy.lt_iff hu)
  | atMost x y hxy =>
    exact numericField_any_eq h _ _ fun u u' hu => decide_eq_decide.mpr (hu.le_iff hxy)

end Outcome

section Compile

variable (name : String) (condition : Condition) (v w : Value)

theorem isWildcard_eq_hasWildcard :
    (⟨name, condition, v⟩ : Rule).isWildcard =
      (condition == .any || (normalize v).hasWildcard) := by
  have hliteral := hasWildcard_of_isAnyLiteral v
  simp only [Rule.isWildcard, hasWildcard_normalize, Bool.or_assoc]
  cases hv : v.isAnyLiteral with
  | false => simp
  | true => simp [hliteral hv]

theorem compileRange_alike (least greatest least' greatest' : Value)
    (hleast : (normalize least).Equal (normalize least'))
    (hgreatest : (normalize greatest).Equal (normalize greatest')) :
    Predicate.Alike name ((⟨name, condition, v⟩ : Rule).compileRange least greatest)
      ((⟨name, condition, w⟩ : Rule).compileRange least' greatest') := by
  have hlow := hleast.bound_rel
  have hhigh := hgreatest.bound_rel
  unfold Rule.compileRange
  generalize bound? (normalize least) = low at hlow
  generalize bound? (normalize greatest) = high at hhigh
  generalize bound? (normalize least') = low' at hlow
  generalize bound? (normalize greatest') = high' at hhigh
  cases hlow with
  | none => exact .never
  | some hlow =>
    cases hhigh with
    | none => cases hlow <;> exact .never
    | some hhigh =>
      cases hlow with
      | none =>
        cases hhigh with
        | none => exact .always
        | some hhigh => exact .range _ _ _ _ .none (.some hhigh)
      | some hlow => exact .range _ _ _ _ (.some hlow) hhigh

/-- A list has a list as its normal form, and nothing else has. -/
theorem normalize_eq_list_iff (items : List Value) :
    normalize v = .list items ↔ ∃ vs, v = .list vs ∧ vs.map normalize = items := by
  cases v with
  | text s => rcases normalizeText_cases s with h | ⟨x, -, h⟩ <;> simp [normalize, h]
  | list vs => simp [normalize_list]
  | _ => simp [normalize]

theorem threshold_alike (build : String → Float → Predicate)
    (hbuild : ∀ x y, Double.Equal x y → Predicate.Alike name (build name x) (build name y))
    (h : (normalize v).Equal (normalize w)) :
    Predicate.Alike name ((⟨name, condition, v⟩ : Rule).threshold build)
      ((⟨name, condition, w⟩ : Rule).threshold build) := by
  have hnumber := h.number_rel
  unfold Rule.threshold
  generalize (normalize v).number? = x at hnumber
  generalize (normalize w).number? = y at hnumber
  cases hnumber with
  | none => exact .never
  | some hxy => exact hbuild _ _ hxy

/-- Values that are no lists are compared alike if their normal forms are equal. -/
theorem compileScalar_alike (hv : ∀ items, v ≠ .list items) (hw : ∀ items, w ≠ .list items)
    (h : (normalize v).Equal (normalize w)) :
    Predicate.Alike name (⟨name, condition, v⟩ : Rule).compileScalar
      (⟨name, condition, w⟩ : Rule).compileScalar := by
  have hnull : v = .null ↔ w = .null := by
    rw [← normalize_eq_null_iff v, ← normalize_eq_null_iff w, h.isNull_iff]
  by_cases hvnull : v = .null
  · rw [hvnull, hnull.mp hvnull]
    show Predicate.Alike name (missingValue _) (missingValue _)
    unfold missingValue
    split
    · exact .always
    · exact .never
  · rw [compileScalar_single ⟨name, condition, v⟩ hvnull hv,
      compileScalar_single ⟨name, condition, w⟩ (fun hwnull => hvnull (hnull.mpr hwnull)) hw]
    cases condition with
    | moreThan => exact threshold_alike name _ v w .moreThan .moreThan h
    | atMost => exact threshold_alike name _ v w .atMost .atMost h
    | _ => exact .equals _ _ h

theorem compileScalar_list (vs : List Value) :
    (⟨name, condition, .list vs⟩ : Rule).compileScalar = .oneOf name vs (vs.map normalize) := by
  rw [Rule.compileScalar, normalize_list]

/-- Lists with equal normal forms are bounds together or not at all. -/
theorem bounds_alike (vs ws : List Value)
    (h : List.Forall₂ (fun v w => (normalize v).Equal (normalize w)) vs ws) :
    ((⟨name, condition, .list vs⟩ : Rule).bounds? = none ∧
        (⟨name, condition, .list ws⟩ : Rule).bounds? = none) ∨
      ∃ least greatest least' greatest',
        (⟨name, condition, .list vs⟩ : Rule).bounds? = some (least, greatest) ∧
        (⟨name, condition, .list ws⟩ : Rule).bounds? = some (least', greatest') ∧
        (normalize least).Equal (normalize least') ∧
        (normalize greatest).Equal (normalize greatest') := by
  by_cases hbetween : condition = .between
  · subst hbetween
    match vs, ws, h with
    | [], [], _ => exact .inl ⟨rfl, rfl⟩
    | [_], [_], _ => exact .inl ⟨rfl, rfl⟩
    | [_, _], [_, _], .cons hleast (.cons hgreatest .nil) =>
      exact .inr ⟨_, _, _, _, rfl, rfl, hleast, hgreatest⟩
    | _ :: _ :: _ :: _, _ :: _ :: _ :: _, _ => exact .inl ⟨rfl, rfl⟩
  · left
    cases condition with
    | between => exact absurd rfl hbetween
    | _ => exact ⟨rfl, rfl⟩

variable (o : Options) (d : Option Directory) (hmember : o.isMembership name = false)
  (hcategory : o.isCategorical name = false)

include hmember hcategory

/-- Values with equal normal forms become alike predicates. -/
theorem compile_alike (h : (normalize v).Equal (normalize w)) :
    Predicate.Alike name ((⟨name, condition, v⟩ : Rule).compile d o)
      ((⟨name, condition, w⟩ : Rule).compile d o) := by
  have hwild : (⟨name, condition, w⟩ : Rule).isWildcard =
      (⟨name, condition, v⟩ : Rule).isWildcard := by
    rw [isWildcard_eq_hasWildcard, isWildcard_eq_hasWildcard, h.hasWildcard_eq]
  cases hv : (⟨name, condition, v⟩ : Rule).isWildcard with
  | true =>
    rw [hv] at hwild
    simp only [Rule.compile, Rule.kind, hv, hwild]
    exact .always
  | false =>
    rw [hv] at hwild
    rw [Rule.compile_eq_elim ⟨name, condition, v⟩ d o hv hmember hcategory,
      Rule.compile_eq_elim ⟨name, condition, w⟩ d o hwild hmember hcategory]
    by_cases hlist : ∃ vs, v = .list vs
    · obtain ⟨vs, rfl⟩ := hlist
      rw [normalize_list] at h
      obtain ⟨items, hw, hitems⟩ := h.exists_items
      obtain ⟨ws, rfl, rfl⟩ := (normalize_eq_list_iff w items).mp hw
      have hnormal := hitems
      rw [List.forall₂_map_left_iff, List.forall₂_map_right_iff] at hnormal
      rcases bounds_alike name condition vs ws hnormal with
        ⟨hvs, hws⟩ | ⟨least, greatest, least', greatest', hvs, hws, hleast, hgreatest⟩
      · rw [hvs, hws, Option.elim, Option.elim, compileScalar_list, compileScalar_list]
        exact .oneOf vs ws hitems
      · rw [hvs, hws, Option.elim, Option.elim]
        exact compileRange_alike name condition _ _ least greatest least' greatest' hleast hgreatest
    · have hlist' : ∀ ws, w ≠ .list ws := by
        rintro ws rfl
        rw [normalize_list] at h
        obtain ⟨items, hv, -⟩ := h.symm.exists_items
        obtain ⟨vs, hvs, -⟩ := (normalize_eq_list_iff v items).mp hv
        exact hlist ⟨vs, hvs⟩
      rw [not_exists] at hlist
      rw [Rule.bounds_of_not_list _ hlist, Rule.bounds_of_not_list _ hlist']
      exact compileScalar_alike name condition v w hlist hlist' h

end Compile

namespace Record

variable (r : Record)

theorem members_sorted :
    Keyed.ascending r.members = true ∧ ∀ m ∈ r.members, m.2.isSorted = true := by
  have hsorted := r.sorted
  unfold members members?
  cases hvalue : r.value with
  | object members =>
    rw [hvalue, Json.isSorted, Bool.and_eq_true, Json.valuesSorted_iff] at hsorted
    exact hsorted
  | _ => simp [Keyed.ascending]

theorem members_insert (key : String) (j : Json) (hj : j.isSorted = true) :
    (r.insert key j).members = Keyed.insert key j r.members := by
  obtain ⟨hascending, hvalues⟩ := r.members_sorted
  have hsorted : (Json.object (Keyed.insert key j r.members)).isSorted = true := by
    rw [Json.isSorted, Bool.and_eq_true, Json.valuesSorted_iff]
    refine ⟨Keyed.ascending_insert key j r.members hascending, fun m hm => ?_⟩
    rcases Keyed.mem_insert key j r.members m hm with rfl | hm
    · exact hj
    · exact hvalues m hm
  rw [insert, members, members?, ofJson]
  simp only [Json.sort_eq_self _ hsorted, Option.getD_some]

/-- Where a member is replaced, a name finds what it found before, or the new value in
place of the old one. -/
theorem find_insert (key : String) (j j' : Json) (hj' : j'.isSorted = true)
    (hj : r.members.lookup key = some j) (name : String) :
    (r.insert key j').find? name = r.find? name ∨
      (r.find? name = some j ∧ (r.insert key j').find? name = some j') := by
  obtain ⟨hascending, -⟩ := r.members_sorted
  simp only [find?, r.members_insert key j' hj', Keyed.lookup_insert]
  by_cases hname : name = key
  · subst hname
    simp [hj]
  · rw [if_neg hname]
    cases r.members.lookup name with
    | some k => exact .inl rfl
    | none =>
      -- Without an exact match the first key that differs in case only is taken, and the
      -- keys are what they were.
      have hkeys : (fun m : String × Json => Text.sameFolded m.1 name) ∘
          (fun m => if m.1 = key then (key, j') else m) = fun m => Text.sameFolded m.1 name := by
        funext m
        by_cases hm : m.1 = key <;> simp [hm]
      rw [Keyed.insert_of_lookup key j' j r.members hascending hj, List.find?_map, hkeys]
      cases hfound : r.members.find? fun m => Text.sameFolded m.1 name with
      | none => exact .inl rfl
      | some m =>
        by_cases hm : m.1 = key
        · have hmem := List.mem_of_find?_eq_some hfound
          have hvalue := Keyed.lookup_of_mem r.members hascending m hmem
          rw [hm, hj, Option.some.injEq] at hvalue
          simp [hm, hvalue]
        · simp [hm]

theorem field_alike (key : String) (j j' : Json) (hj : r.members.lookup key = some j)
    (hscalar : (FieldValue.ofJson j).isScalar = true)
    (hscalar' : (FieldValue.ofJson j').isScalar = true)
    (hnormal : (FieldValue.ofJson j).normal.Equal (FieldValue.ofJson j').normal) (name : String) :
    (r.field name).Alike ((r.insert key j').field name) := by
  have hsorted : j'.isSorted = true := by
    cases j' with
    | array items => cases hscalar'
    | object members => cases hscalar'
    | _ => rfl
  rcases r.find_insert key j j' hsorted hj name with hsame | ⟨hbefore, hafter⟩
  · rw [field, field, hsame]
    exact .refl _
  · rw [field, field, hbefore, hafter]
    exact .normal _ _ hscalar hscalar' hnormal

end Record

/-- The notation of values and fields does not matter to a rule that is about no group and no
category. Values with equal normal forms have one outcome on every record, and so has one
value when a number or text of a record gives way to another with an equal normal form. -/
theorem evaluate_compile_normalForms (name : String) (condition : Condition)
    (table : Option MembershipTable) (o : Options) (hmember : o.isMembership name = false)
    (hcategory : o.isCategorical name = false) :
    let evaluate (v : Value) (r : Record) :=
      ((⟨name, condition, v⟩ : Rule).compile (table.map Directory.ofTable) o).evaluate r
    (∀ (v w : Value) (r : Record), (normalize v).Equal (normalize w) →
      evaluate v r = evaluate w r) ∧
    ∀ (v : Value) (r : Record) (key : String) (j j' : Json), r.members.lookup key = some j →
      (FieldValue.ofJson j).isScalar = true → (FieldValue.ofJson j').isScalar = true →
      (FieldValue.ofJson j).normal.Equal (FieldValue.ofJson j').normal →
      evaluate v r = evaluate v (r.insert key j') := by
  intro evaluate
  constructor
  · intro v w r h
    exact (compile_alike name condition v w o _ hmember hcategory h).evaluate_eq (.refl _)
  · intro v r key j j' hj hscalar hscalar' hnormal
    exact (compile_alike name condition v v o _ hmember hcategory (.refl _)).evaluate_eq
      (r.field_alike key j j' hj hscalar hscalar' hnormal name)

theorem evaluate_compile_normalForms_premium :
    let v : Value := .list [.text "1K", .number 2500]
    let w : Value := .list [.number 1000, .text "2.5K"]
    let r := Record.ofJson (.object [("PREMIUM", .string "1.5K")])
    let evaluate (v : Value) (r : Record) :=
      ((⟨"premium", .between, v⟩ : Rule).compile ((none : Option MembershipTable).map
        Directory.ofTable) .standard).evaluate r
    (Options.standard.isMembership "premium" = false ∧
        Options.standard.isCategorical "premium" = false) ∧
      ((normalize v).Equal (normalize w) ∧ evaluate v r = evaluate w r) ∧
      (r.members.lookup "PREMIUM" = some (.string "1.5K") ∧
        (FieldValue.ofJson (.string "1.5K")).isScalar = true ∧
        (FieldValue.ofJson (.float 1500)).isScalar = true ∧
        (FieldValue.ofJson (.string "1.5K")).normal.Equal (FieldValue.ofJson (.float 1500)).normal ∧
        evaluate v r = evaluate v (r.insert "PREMIUM" (.float 1500))) := by
  intro v w r evaluate
  have hmember : Options.standard.isMembership "premium" = false := by decide
  have hcategory : Options.standard.isCategorical "premium" = false := by decide
  have hone : normalizeText "1K" = .number 1000 :=
    normalizeText_magnitude ['1', 'K'] 1000 (by decide) (by decide) (by decide) (by decide +kernel)
  have htwo : normalizeText "2.5K" = .number 2500 :=
    normalizeText_magnitude ['2', '.', '5', 'K'] 2500 (by decide) (by decide) (by decide)
      (by decide +kernel)
  have hfield : normalizeText "1.5K" = .number 1500 :=
    normalizeText_magnitude ['1', '.', '5', 'K'] 1500 (by decide) (by decide) (by decide)
      (by decide +kernel)
  have hvalues : (normalize v).Equal (normalize w) :=
    .inl (by simp [v, w, normalize, normalizeItems, hone, htwo])
  have hlookup : r.members.lookup "PREMIUM" = some (.string "1.5K") := rfl
  have hnormal : (FieldValue.ofJson (.string "1.5K")).normal.Equal
      (FieldValue.ofJson (.float 1500)).normal := .inl hfield
  obtain ⟨hrule, hreplace⟩ :=
    evaluate_compile_normalForms "premium" .between none .standard hmember hcategory
  exact ⟨⟨hmember, hcategory⟩, ⟨hvalues, hrule v w r hvalues⟩, hlookup, rfl, rfl, hnormal,
    hreplace v r "PREMIUM" _ _ hlookup rfl rfl hnormal⟩

end Screening

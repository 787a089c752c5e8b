import Screening.Proofs.Lists

/-!
# Lists as alternatives

A rule with a list is satisfied where one of its items is: by the keyword for
everything, by a group it names, by the field as it is written, or by the field when
it is normal, as the name of the rule demands. It always has an answer. Only the
list of a range is no list of alternatives.
-/

set_option autoImplicit false

namespace Screening

def Value.IsKeyword (v : Value) : Prop :=
  ∃ s, v = .text s ∧ Text.sameFolded (Text.trim s) "any" = true

/-- What one item of a list accepts in the field of a name. -/
def Value.Admits (name : String) (table : Option MembershipTable) (o : Options) (r : Record)
    (v : Value) : Prop :=
  v.IsKeyword ∨
    if o.isMembership name then
      ∃ s, r.field o.symbolField = .text s ∧ Record.isBlankText s = false ∧
        v.Reaches table (Record.canonicalSymbol s)
    else if o.isCategorical name then (r.field name).Is v
    else (r.field name).Means v

theorem Value.asksForAny_list_iff (items : List Value) :
    (Value.list items).AsksForAny ↔ ∃ v ∈ items, v.IsKeyword := by
  constructor
  · rintro ⟨s, hs | ⟨others, ho, hs⟩, hw⟩
    · cases hs
    · cases ho
      exact ⟨_, hs, s, rfl, hw⟩
  · rintro ⟨v, hv, s, rfl, hw⟩
    exact ⟨s, .inr ⟨items, rfl, hv⟩, hw⟩

theorem Value.names_list_iff (items : List Value) (g : String) :
    (Value.list items).Names g ↔ ∃ v ∈ items, v.Names g := by
  constructor
  · intro h
    cases h with
    | item items v g hv hg => exact ⟨v, hv, hg⟩
  · rintro ⟨v, hv, hg⟩
    exact .item items v g hv hg

theorem Value.reaches_list_iff (table : Option MembershipTable) (items : List Value)
    (symbol : String) :
    (Value.list items).Reaches table symbol ↔ ∃ v ∈ items, v.Reaches table symbol := by
  constructor
  · rintro ⟨g, m, hg, hm⟩
    obtain ⟨v, hv, hg⟩ := (Value.names_list_iff items g).mp hg
    exact ⟨v, hv, g, m, hg, hm⟩
  · rintro ⟨v, hv, g, m, hg, hm⟩
    exact ⟨g, m, (Value.names_list_iff items g).mpr ⟨v, hv, hg⟩, hm⟩

/-- The kind of a rule whose list is one of alternatives goes by its name, unless one of
the alternatives is the keyword. -/
theorem Rule.kind_list (name : String) (condition : Condition) (items : List Value) (o : Options)
    (hbetween : condition ≠ .between)
    (hany : ¬ (⟨name, condition, .list items⟩ : Rule).AsksForAny) :
    (⟨name, condition, .list items⟩ : Rule).kind o =
      if o.isMembership name then .membership
      else if o.isCategorical name then .categorical else .scalar := by
  have hbounds : (⟨name, condition, .list items⟩ : Rule).bounds? = none := by
    unfold Rule.bounds?
    split
    · next hc _ => exact absurd hc hbetween
    · rfl
  rw [← Rule.isWildcard_iff] at hany
  simp [Rule.kind, hany, hbounds]

/-- A list of groups reaches a record where one of its items does. -/
theorem evaluate_compileMembership_list (name : String) (condition : Condition)
    (items : List Value) (table : Option MembershipTable) (o : Options) (r : Record) :
    ∃ answer, ((⟨name, condition, .list items⟩ : Rule).compileMembership
        (table.map Directory.ofTable) o).evaluate r = .ok answer ∧
      (answer = true ↔ ∃ v ∈ items, ∃ s, r.field o.symbolField = .text s ∧
        Record.isBlankText s = false ∧ v.Reaches table (Record.canonicalSymbol s)) := by
  obtain ⟨answer, hanswer, htrue⟩ :=
    evaluate_compileMembership ⟨name, condition, .list items⟩ table o r
  refine ⟨answer, hanswer, htrue.trans ?_⟩
  simp only [Value.reaches_list_iff]
  constructor
  · rintro ⟨s, hs, hb, v, hv, hreach⟩
    exact ⟨v, hv, s, hs, hb, hreach⟩
  · rintro ⟨v, hv, s, hs, hb, hreach⟩
    exact ⟨s, hs, hb, v, hv, hreach⟩

/-- A rule with a list always answers. It says yes where one of the items does. -/
theorem evaluate_compile_list (name : String) (condition : Condition) (items : List Value)
    (table : Option MembershipTable) (o : Options) (r : Record) (hbetween : condition ≠ .between) :
    ∃ answer, ((⟨name, condition, .list items⟩ : Rule).compile
        (table.map Directory.ofTable) o).evaluate r = .ok answer ∧
      (answer = true ↔ condition = .any ∨ ∃ v ∈ items, v.Admits name table o r) := by
  by_cases hany : (⟨name, condition, .list items⟩ : Rule).AsksForAny
  · have halways : (⟨name, condition, .list items⟩ : Rule).compile
        (table.map Directory.ofTable) o = .always := by
      rw [← Rule.isWildcard_iff] at hany
      simp [Rule.compile, Rule.kind, hany]
    rw [halways]
    refine ⟨true, rfl, iff_of_true rfl (hany.imp_right fun hlist => ?_)⟩
    obtain ⟨v, hv, hword⟩ := (Value.asksForAny_list_iff items).mp hlist
    exact ⟨v, hv, .inl hword⟩
  · have hkind := Rule.kind_list name condition items o hbetween hany
    simp only [Rule.AsksForAny, Value.asksForAny_list_iff, not_or, not_exists, not_and] at hany
    obtain ⟨hcondition, hword⟩ := hany
    have hitems : (∃ v ∈ items, v.Admits name table o r) ↔ ∃ v ∈ items, _ :=
      exists_congr fun v => and_congr_right fun hv => or_iff_right (hword v hv)
    rw [hitems, or_iff_right hcondition, Rule.compile, hkind]
    by_cases hmember : o.isMembership name = true
    · simp only [if_pos hmember]
      exact evaluate_compileMembership_list name condition items table o r
    · by_cases hcategory : o.isCategorical name = true
      · simp only [if_neg hmember, if_pos hcategory]
        exact ⟨_, rfl, isOneOf_raw_iff items (r.field name)⟩
      · simp only [if_neg hmember, if_neg hcategory, Rule.compileScalar, normalize_list]
        exact ⟨_, rfl, isOneOf_normal_iff items (r.field name)⟩

/-- Rules with lists are disjunctive: what two lists put together accept is what one of
them accepts. None of them faults. -/
theorem evaluate_compile_append (name : String) (condition : Condition) (xs ys : List Value)
    (table : Option MembershipTable) (o : Options) (r : Record) (hbetween : condition ≠ .between) :
    let evaluate (items : List Value) :=
      ((⟨name, condition, .list items⟩ : Rule).compile (table.map Directory.ofTable) o).evaluate r
    (evaluate (xs ++ ys) = .ok true ↔ evaluate xs = .ok true ∨ evaluate ys = .ok true) ∧
      ∀ items, ∃ answer, evaluate items = .ok answer := by
  intro evaluate
  have hlist (items : List Value) : ∃ answer, evaluate items = .ok answer ∧
      (answer = true ↔ condition = .any ∨ ∃ v ∈ items, v.Admits name table o r) :=
    evaluate_compile_list name condition items table o r hbetween
  have hyes (items : List Value) :
      evaluate items = .ok true ↔ condition = .any ∨ ∃ v ∈ items, v.Admits name table o r := by
    obtain ⟨answer, hanswer, htrue⟩ := hlist items
    rw [← htrue, hanswer, Except.ok.injEq]
  constructor
  · rw [hyes, hyes, hyes, ← or_or_distrib_left]
    simp only [List.mem_append, or_and_right, exists_or]
  · intro items
    obtain ⟨answer, hanswer, -⟩ := hlist items
    exact ⟨answer, hanswer⟩

theorem evaluate_compile_append_groups :
    let xs : List Value := [.null, .list [.text "s & p 500"]]
    let ys : List Value := [.bool true, .number 100]
    let table := some (MembershipTable.empty.insert "S and P 500" ["aapl "])
    let r := Record.ofJson (.object [("symbol", .string "AAPL")])
    let evaluate (items : List Value) :=
      ((⟨"indexmembership", .moreThan, .list items⟩ : Rule).compile (table.map Directory.ofTable)
        .standard).evaluate r
    Condition.moreThan ≠ .between ∧
      (evaluate (xs ++ ys) = .ok true ↔ evaluate xs = .ok true ∨ evaluate ys = .ok true) ∧
        ∀ items, ∃ answer, evaluate items = .ok answer := by
  intro xs ys table r evaluate
  have hbetween : Condition.moreThan ≠ .between := by decide
  exact ⟨hbetween,
    evaluate_compile_append "indexmembership" .moreThan xs ys table .standard r hbetween⟩

end Screening

import Screening.Proofs.Acceptance
import Screening.Proofs.Keyed

/-!
# Membership in groups

A group is named in many spellings, and its members are those listed under any
of them. The directory keeps exactly these, whatever the order of the table, so
a rule that asks for groups is answered by the table alone.
-/

set_option autoImplicit false

namespace Screening

/-- The groups a value names: a text, a number as it is shown, or any that an item names. -/
inductive Value.Names : Value → String → Prop
  | text (s : String) : Names (.text s) s
  | number (x : Float) : Names (.number x) (Decimal.display x)
  | item (items : List Value) (v : Value) (g : String) (hv : v ∈ items) (hg : Names v g) :
    Names (.list items) g

/-- A table has a member under some spelling with a key. -/
def MembershipTable.Lists (table : Option MembershipTable) (key member : String) : Prop :=
  ∃ t, table = some t ∧ ∃ group ∈ t.groups, indexKey group.1 = key ∧ member ∈ group.2

theorem mem_groupsOfItems_iff (items : List Value) (g : String) :
    g ∈ groupsOfItems items ↔ ∃ v ∈ items, g ∈ v.groups := by
  induction items with
  | nil => simp [groupsOfItems]
  | cons v items ih => simp [groupsOfItems, ih]

mutual

theorem names_of_mem_groups : ∀ (v : Value) (g : String), g ∈ v.groups → v.Names g
  | .null, g, h | .bool _, g, h => by simp [Value.groups] at h
  | .number x, g, h => by
    rw [Value.groups, List.mem_singleton] at h
    exact h ▸ .number x
  | .text s, g, h => by
    rw [Value.groups, List.mem_singleton] at h
    exact h ▸ .text s
  | .list items, g, h => by
    rw [Value.groups] at h
    obtain ⟨v, hv, hg⟩ := names_of_mem_groupsOfItems items g h
    exact .item items v g hv hg

theorem names_of_mem_groupsOfItems : ∀ (items : List Value) (g : String),
    g ∈ groupsOfItems items → ∃ v ∈ items, v.Names g
  | [], g, h => by simp [groupsOfItems] at h
  | v :: items, g, h => by
    rw [groupsOfItems, List.mem_append] at h
    rcases h with h | h
    · exact ⟨v, List.mem_cons_self, names_of_mem_groups v g h⟩
    · obtain ⟨w, hw, hg⟩ := names_of_mem_groupsOfItems items g h
      exact ⟨w, List.mem_cons_of_mem v hw, hg⟩

end

theorem mem_groups_of_names (v : Value) (g : String) (h : v.Names g) : g ∈ v.groups := by
  induction h with
  | text s => simp [Value.groups]
  | number x => simp [Value.groups]
  | item items v g hv hg ih =>
    rw [Value.groups, mem_groupsOfItems_iff]
    exact ⟨v, hv, ih⟩

theorem mem_groups_iff (v : Value) (g : String) : g ∈ v.groups ↔ v.Names g :=
  ⟨names_of_mem_groups v g, mem_groups_of_names v g⟩

theorem mem_symbolSet (symbols : List String) (s : String) :
    s ∈ symbolSet symbols ↔ s ∈ symbols := by
  rw [symbolSet, Keyed.mem_keys_ofList, List.map_map]
  simp

namespace Directory

def under (d : Directory) (key : String) : List String := (d.groups.lookup key).getD []

theorem mem_canonicalMembers_iff (members : List String) (s : String) :
    s ∈ canonicalMembers members ↔
      ∃ m ∈ members, Record.isBlankText m = false ∧ Record.canonicalSymbol m = s := by
  simp [canonicalMembers, and_assoc]

theorem mem_under_add_iff (d : Directory) (group : String) (members : List String)
    (key s : String) :
    s ∈ (d.add group members).under key ↔
      s ∈ d.under key ∨ (indexKey group = key ∧ s ∈ canonicalMembers members) := by
  simp only [under, add, Keyed.lookup_insert]
  by_cases h : key = indexKey group
  · simp [h]
  · simp [h, Ne.symm h]

theorem mem_under_foldl_iff (groups : List (String × List String)) (d : Directory)
    (key s : String) :
    s ∈ (groups.foldl (fun d g => d.add g.1 g.2) d).under key ↔
      s ∈ d.under key ∨
        ∃ group ∈ groups, indexKey group.1 = key ∧ s ∈ canonicalMembers group.2 := by
  induction groups generalizing d with
  | nil => simp
  | cons group groups ih =>
    rw [List.foldl_cons, ih, mem_under_add_iff]
    simp only [List.exists_mem_cons_iff, or_assoc]

theorem mem_under_ofTable_iff (t : MembershipTable) (key s : String) :
    s ∈ (ofTable t).under key ↔ ∃ m, MembershipTable.Lists (some t) key m ∧
      Record.isBlankText m = false ∧ Record.canonicalSymbol m = s := by
  rw [ofTable, mem_under_foldl_iff]
  simp only [mem_canonicalMembers_iff, MembershipTable.Lists]
  constructor
  · rintro (h | ⟨group, hgroup, hkey, m, hm, hs⟩)
    · simp [under] at h
    · exact ⟨m, ⟨t, rfl, group, hgroup, hkey, hm⟩, hs⟩
  · rintro ⟨m, ⟨t, ht, group, hgroup, hkey, hm⟩, hs⟩
    cases ht
    exact .inr ⟨group, hgroup, hkey, m, hm, hs⟩

theorem mem_union_iff (d : Directory) (groups : List String) (s : String) :
    s ∈ d.union groups ↔ ∃ g ∈ groups, s ∈ d.under (indexKey g) := by
  rw [union, mem_symbolSet, List.mem_flatMap]
  have hmembers (g : String) : s ∈ (d.members? g).getD [] ↔ s ∈ d.under (indexKey g) := by
    unfold members? under
    cases d.groups.lookup (indexKey g) with
    | none => rfl
    | some symbols => exact mem_symbolSet symbols s
  simp only [hmembers]

theorem under_of_isEmpty (d : Directory) (h : d.isEmpty = true) (key : String) :
    d.under key = [] := by
  rw [isEmpty, List.isEmpty_iff] at h
  rw [under, h]
  rfl

end Directory

theorem Record.isBlankText_eq_false_iff (s : String) :
    isBlankText s = false ↔ Text.trim s ≠ "" := by
  rw [← Bool.not_eq_true, isBlankText, ← Text.trim_eq_empty_iff]

theorem symbol_eq_some_iff (r : Record) (name c : String) :
    r.symbol? name = some c ↔ ∃ s, r.field name = .text s ∧ Record.isBlankText s = false ∧
      Record.canonicalSymbol s = c := by
  unfold Record.symbol?
  cases r.field name with
  | text s => simp
  | _ => simp

def Value.Reaches (table : Option MembershipTable) (v : Value) (symbol : String) : Prop :=
  ∃ g m, v.Names g ∧ MembershipTable.Lists table (indexKey g) m ∧
    Record.isBlankText m = false ∧ Record.canonicalSymbol m = symbol

theorem mem_union_ofTable_iff (t : MembershipTable) (v : Value) (symbol : String) :
    symbol ∈ (Directory.ofTable t).union v.groups ↔ v.Reaches (some t) symbol := by
  rw [Directory.mem_union_iff]
  simp only [Directory.mem_under_ofTable_iff, mem_groups_iff]
  constructor
  · rintro ⟨g, hg, m, hm⟩
    exact ⟨g, m, hg, hm⟩
  · rintro ⟨g, m, hg, hm⟩
    exact ⟨g, hg, m, hm⟩

theorem evaluate_compileMembership (rule : Rule) (table : Option MembershipTable) (o : Options)
    (r : Record) :
    ∃ answer, (rule.compileMembership (table.map Directory.ofTable) o).evaluate r = .ok answer ∧
      (answer = true ↔ ∃ s, r.field o.symbolField = .text s ∧ Record.isBlankText s = false ∧
        rule.value.Reaches table (Record.canonicalSymbol s)) := by
  cases table with
  | none =>
    refine ⟨false, rfl, ?_⟩
    simp [Value.Reaches, MembershipTable.Lists]
  | some t =>
    simp only [← mem_union_ofTable_iff, Option.map_some, Rule.compileMembership]
    by_cases he : (Directory.ofTable t).isEmpty = true
    · rw [if_pos he]
      refine ⟨false, rfl, ?_⟩
      simp [Directory.mem_union_iff, Directory.under_of_isEmpty _ he]
    · rw [if_neg he]
      refine ⟨_, rfl, ?_⟩
      rw [Option.any_eq_true]
      simp only [symbol_eq_some_iff, List.contains_iff_mem]
      constructor
      · rintro ⟨c, ⟨s, hs, hb, rfl⟩, hc⟩
        exact ⟨s, hs, hb, hc⟩
      · rintro ⟨s, hs, hb, hc⟩
        exact ⟨_, ⟨s, hs, hb, rfl⟩, hc⟩

theorem compile_eq_compileMembership (rule : Rule) (d : Option Directory) (o : Options)
    (hany : ¬ rule.AsksForAny) (hmember : o.isMembership rule.name = true) :
    rule.compile d o = rule.compileMembership d o := by
  rw [← Rule.isWildcard_iff] at hany
  simp [Rule.compile, Rule.kind, hany, hmember]

/-- Tables that list the same members under each key, in whatever spellings and
order, answer a rule alike. -/
theorem evaluate_compileMembership_congr (rule : Rule) (table other : Option MembershipTable)
    (o : Options) (r : Record)
    (hsame : ∀ key m, MembershipTable.Lists other key m ↔ MembershipTable.Lists table key m) :
    (rule.compileMembership (other.map Directory.ofTable) o).evaluate r =
      (rule.compileMembership (table.map Directory.ofTable) o).evaluate r := by
  obtain ⟨a, ha, hatrue⟩ := evaluate_compileMembership rule table o r
  obtain ⟨b, hb, hbtrue⟩ := evaluate_compileMembership rule other o r
  simp only [Value.Reaches, hsame] at hatrue hbtrue
  have hba : b = a := Bool.eq_iff_iff.mpr (hbtrue.trans hatrue.symm)
  rw [ha, hb, hba]

theorem evaluate_compileMembership_unmatched (rule : Rule) (table : Option MembershipTable)
    (o : Options) (r : Record)
    (hnone : ∀ t, table = some t → ∀ group ∈ t.groups, ∀ g, rule.value.Names g →
      indexKey group.1 ≠ indexKey g) :
    (rule.compileMembership (table.map Directory.ofTable) o).evaluate r = .ok false := by
  obtain ⟨answer, hanswer, htrue⟩ := evaluate_compileMembership rule table o r
  have hfalse : ¬ answer = true := by
    rw [htrue]
    rintro ⟨s, -, -, g, m, hg, ⟨t, ht, group, hgroup, hkey, -⟩, -⟩
    exact hnone t ht group hgroup g hg hkey
  rw [hanswer, Bool.eq_false_of_not_eq_true hfalse]

/-- A rule that asks for groups never faults. It accepts a record whose symbol is that
of a member listed for a group it names, in any spelling; a table that has no such group
accepts nothing, and one table is as good as another that lists the same members. -/
theorem evaluate_compile_groups (rule : Rule) (table : Option MembershipTable) (o : Options)
    (r : Record) (hany : ¬ rule.AsksForAny) (hmember : o.isMembership rule.name = true) :
    let evaluate (table : Option MembershipTable) :=
      (rule.compile (table.map Directory.ofTable) o).evaluate r
    (∃ answer, evaluate table = .ok answer ∧
      (answer = true ↔ ∃ s, r.field o.symbolField = .text s ∧ Text.trim s ≠ "" ∧
        ∃ g m, rule.value.Names g ∧ MembershipTable.Lists table (indexKey g) m ∧
          Text.trim m ≠ "" ∧ Text.upper (Text.trim m) = Text.upper (Text.trim s))) ∧
    ((∀ t, table = some t → ∀ group ∈ t.groups, ∀ g, rule.value.Names g →
      indexKey group.1 ≠ indexKey g) → evaluate table = .ok false) ∧
    ∀ other, (∀ key m, MembershipTable.Lists other key m ↔ MembershipTable.Lists table key m) →
      evaluate other = evaluate table := by
  intro evaluate
  simp only [evaluate, compile_eq_compileMembership rule _ o hany hmember]
  refine ⟨?_, evaluate_compileMembership_unmatched rule table o r,
    evaluate_compileMembership_congr rule table (o := o) (r := r)⟩
  obtain ⟨answer, hanswer, htrue⟩ := evaluate_compileMembership rule table o r
  refine ⟨answer, hanswer, htrue.trans ?_⟩
  simp only [Value.Reaches, Record.isBlankText_eq_false_iff, Record.canonicalSymbol]

/-- Another spelling of the group, a blank behind the member and another case of the symbol. -/
theorem evaluate_compile_spelling :
    let rule : Rule := ⟨"indexmembership", .membership, .list [.text "s & p 500"]⟩
    let table := some (MembershipTable.empty.insert "S and P 500" ["aapl "])
    let r := Record.ofJson (.object [("symbol", .string "AAPL")])
    ¬ rule.AsksForAny ∧ Options.standard.isMembership rule.name = true ∧
      ∃ answer, (rule.compile (table.map Directory.ofTable) .standard).evaluate r = .ok answer ∧
        answer = true ∧
        (answer = true ↔ ∃ s, r.field "symbol" = .text s ∧ Text.trim s ≠ "" ∧
          ∃ g m, rule.value.Names g ∧ MembershipTable.Lists table (indexKey g) m ∧
            Text.trim m ≠ "" ∧ Text.upper (Text.trim m) = Text.upper (Text.trim s)) := by
  intro rule table r
  have hany : ¬ rule.AsksForAny := by
    rw [Rule.AsksForAny, ← hasWildcard_iff]
    decide
  have hmember : Options.standard.isMembership rule.name = true := by decide
  obtain ⟨answer, hanswer, htrue⟩ :=
    (evaluate_compile_groups rule table .standard r hany hmember).1
  have hnames : rule.value.Names "s & p 500" := .item _ _ _ List.mem_cons_self (.text _)
  have hlists : MembershipTable.Lists table (indexKey "s & p 500") "aapl " :=
    ⟨_, rfl, ("S and P 500", ["aapl "]), List.mem_cons_self, by decide +kernel,
      List.mem_cons_self⟩
  have hsymbol : Text.trim "aapl " ≠ "" ∧ Text.trim "AAPL" ≠ "" ∧
      Text.upper (Text.trim "aapl ") = Text.upper (Text.trim "AAPL") := by decide +kernel
  obtain ⟨hm, hs, hupper⟩ := hsymbol
  exact ⟨hany, hmember, answer, hanswer,
    htrue.mpr ⟨"AAPL", rfl, hs, "s & p 500", "aapl ", hnames, hlists, hm, hupper⟩, htrue⟩

end Screening

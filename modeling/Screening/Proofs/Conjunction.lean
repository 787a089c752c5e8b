import Screening.Proofs.Acceptance
import Screening.Proofs.Accounting

/-!
# Rules taken together

A run keeps the records on which every rule answers yes. So its rules may be applied
one list after another, in any order, and more than once. Only the rows know the
order, since a record is charged to the first rule that refuses it. A rule that asks
for everything refuses no record, whatever its name, and its row stays blank.
-/

set_option autoImplicit false

namespace Screening

namespace Pass

/-- The rules at the end see the records that hold for all the rules before them. -/
theorem rows_append (p q : Pass) (records : List Record) :
    rows (p ++ q) records =
      rows p records ++ rows q (records.filter fun r => ∀ c ∈ p, c.predicate.Holds r) := by
  induction p generalizing records with
  | nil => simp [rows]
  | cons c p ih => rw [List.cons_append, rows, ih, rows, filter_holds_cons, List.cons_append]

theorem row_of_holds (c : CompiledRule) (records : List Record)
    (h : ∀ r, c.predicate.Holds r) : row c records = RuleStats.start c := by
  have hfaults (r : Record) : ¬ c.predicate.Faults r := fun hf =>
    Predicate.not_holds_of_faults _ r hf (h r)
  simp [row, RuleStats.start, h, hfaults]

/-- A rule that holds for every record leaves the rows of the others alone. -/
theorem rows_insertIdx (p : Pass) (i : ℕ) (c : CompiledRule) (records : List Record)
    (h : ∀ r, c.predicate.Holds r) :
    rows (p.insertIdx i c) records = (rows p records).insertIdx i (RuleStats.start c) := by
  induction i generalizing p records with
  | zero =>
    have hall : records.filter (fun r => c.predicate.Holds r) = records := by simp [h]
    rw [List.insertIdx_zero, List.insertIdx_zero, rows, row_of_holds c records h, hall]
  | succ i ih =>
    cases p with
    | nil => rfl
    | cons d p =>
      rw [List.insertIdx_succ_cons, rows, ih, rows, List.insertIdx_succ_cons]

end Pass

section Chained

variable (records : List Record) (rules more : List Rule) (table : Option MembershipTable)
  (o : Options)

theorem runFilter_records_append :
    (runFilter records (rules ++ more) table o).records =
      (runFilter (runFilter records rules table o).records more table o).records := by
  simp only [runFilter_records, List.filter_filter]
  apply List.filter_congr
  intro r _
  rw [← Bool.decide_and, decide_eq_decide, List.forall_mem_append, and_comm]

theorem countedRows_append :
    countedRows records (rules ++ more) table o =
      countedRows records rules table o ++
        countedRows (runFilter records rules table o).records more table o := by
  have hcompile : Pass.compile (rules ++ more) table o =
      Pass.compile rules table o ++ Pass.compile more table o := List.map_append
  rw [countedRows_eq_rows, countedRows_eq_rows, countedRows_eq_rows, hcompile, Pass.rows_append,
    runFilter_records]
  simp only [Pass.forall_compile_iff]

theorem runFilter_stats_append :
    (runFilter records (rules ++ more) table o).stats =
      if records.isEmpty then [] else (runFilter records rules table o).stats ++
        countedRows (runFilter records rules table o).records more table o := by
  rw [runFilter_stats_eq_countedRows, countedRows_append]
  by_cases hnone : records.isEmpty = true
  · rw [if_pos hnone, if_pos hnone]
  · rw [if_neg hnone, if_neg hnone, countedRows_eq_stats records rules table o hnone]

/-- A record that the earlier rules refused stays refused. -/
theorem runFilter_records_sublist :
    (runFilter records (rules ++ more) table o).records.Sublist
      (runFilter records rules table o).records := by
  rw [runFilter_records_append, runFilter_records]
  exact List.filter_sublist

theorem runFilter_kept :
    (runFilter (runFilter records rules table o).records rules table o).records =
      (runFilter records rules table o).records := by
  simp only [runFilter_records, List.filter_filter, Bool.and_self]

theorem runFilter_kept_stats (s : RuleStats)
    (hs : s ∈ (runFilter (runFilter records rules table o).records rules table o).stats) :
    s.rejected = 0 ∧ s.faults = 0 := by
  have hcharged := runFilter_charged (runFilter records rules table o).records rules table o
  rw [(runFilter_counts _ rules table o).2, runFilter_kept] at hcharged
  have hsum := Nat.add_eq_left.mp hcharged
  have hrejected := List.sum_eq_zero_iff.mp hsum s.rejected (List.mem_map_of_mem hs)
  have hfaults := runFilter_faults _ rules table o s hs
  omega

end Chained

/-- Rules may be applied in two runs, the second over what the first has kept. A record is
charged in the run it does not survive, and the same rules refuse nothing twice. -/
theorem runFilter_append_rules (records : List Record) (rules more : List Rule)
    (table : Option MembershipTable) (o : Options) :
    let whole := runFilter records (rules ++ more) table o
    let part := runFilter records rules table o
    let rest := runFilter part.records more table o
    let again := runFilter part.records rules table o
    whole.records = rest.records ∧
    countedRows records (rules ++ more) table o =
      countedRows records rules table o ++ countedRows part.records more table o ∧
    (whole.stats = if records.isEmpty then [] else
      part.stats ++ countedRows part.records more table o) ∧
    again.records = part.records ∧
    again.filteredCount = part.filteredCount ∧
    (∀ s ∈ again.stats, s.rejected = 0 ∧ s.faults = 0) ∧
    whole.records.Sublist part.records := by
  intro whole part rest again
  have hkept := runFilter_kept records rules table o
  have hcount : again.filteredCount = part.filteredCount :=
    runFilter_filteredCount_congr part.records rules table o records rules hkept
  exact ⟨runFilter_records_append records rules more table o,
    countedRows_append records rules more table o,
    runFilter_stats_append records rules more table o, hkept, hcount,
    runFilter_kept_stats records rules table o,
    runFilter_records_sublist records rules more table o⟩

/-- Of two rules the first is charged with a record it refuses, and the other with nothing. -/
theorem runFilter_pair_stats (table : Option MembershipTable) (o : Options) (r : Record)
    (a b : Rule) (h : ¬ a.Holds table o r) :
    (runFilter [r] [a, b] table o).stats =
      [⟨a.name, a.condition, 1, if a.Faults table o r then 1 else 0⟩, .blank b] := by
  rw [runFilter_stats]
  simp [Pass.rowOf, RuleStats.blank, h, List.countP_cons]

/-- Neither the order of the rules nor their repetition decides which records are kept, and
how many are refused. It does decide which rule is charged, and whether with a fault. -/
theorem runFilter_rules_congr (records : List Record) (rules others : List Rule)
    (table : Option MembershipTable) (o : Options)
    (hsame : ∀ rule, rule ∈ rules ↔ rule ∈ others) :
    let result := runFilter records rules table o
    let other := runFilter records others table o
    result.records = other.records ∧
    result.originalCount = other.originalCount ∧
    result.filteredCount = other.filteredCount ∧
    (result.stats.map RuleStats.rejected).sum = (other.stats.map RuleStats.rejected).sum ∧
    ∀ (r : Record) (a b : Rule),
      a.Faults table o r → ¬ b.Holds table o r → ¬ b.Faults table o r →
        (runFilter [r] [a, b] table o).stats = [⟨a.name, a.condition, 1, 1⟩, .blank b] ∧
        (runFilter [r] [b, a] table o).stats = [⟨b.name, b.condition, 1, 0⟩, .blank a] := by
  intro result other
  have hrecords : result.records = other.records := by
    simp only [result, other, runFilter_records, hsame]
  have hcount : result.filteredCount = other.filteredCount :=
    runFilter_filteredCount_congr records rules table o records others hrecords
  have horiginal : result.originalCount = records.length :=
    (runFilter_counts records rules table o).1
  have horiginal' : other.originalCount = records.length :=
    (runFilter_counts records others table o).1
  have hcharged : result.filteredCount + (result.stats.map RuleStats.rejected).sum = _ :=
    runFilter_charged records rules table o
  have hcharged' : other.filteredCount + (other.stats.map RuleStats.rejected).sum = _ :=
    runFilter_charged records others table o
  have hsum : (result.stats.map RuleStats.rejected).sum =
      (other.stats.map RuleStats.rejected).sum := by
    omega
  refine ⟨hrecords, horiginal.trans horiginal'.symm, hcount, hsum, ?_⟩
  intro r a b ha hb hb'
  have ha' : ¬ a.Holds table o r := Predicate.not_holds_of_faults _ r ha
  constructor
  · simpa [ha] using runFilter_pair_stats table o r a b ha'
  · simpa [hb'] using runFilter_pair_stats table o r b a hb

/-- A premium that is no number is a fault if its rule comes first, and else none. -/
theorem runFilter_rules_congr_premium :
    let r := Record.ofJson (.object [("premium", .string "n/a")])
    let premium : Rule := ⟨"premium", .moreThan, .number 100⟩
    let stock : Rule := ⟨"assetType", .exactly, .text "stock"⟩
    let result := runFilter [r, r] [premium, stock] none .standard
    let other := runFilter [r, r] [stock, premium, stock] none .standard
    (∀ rule, rule ∈ [premium, stock] ↔ rule ∈ [stock, premium, stock]) ∧
    result.records = other.records ∧
    (result.stats.map RuleStats.rejected).sum = (other.stats.map RuleStats.rejected).sum ∧
    premium.Faults none .standard r ∧ ¬ stock.Holds none .standard r ∧
    ¬ stock.Faults none .standard r ∧
    (runFilter [r] [premium, stock] none .standard).stats =
      [⟨"premium", .moreThan, 1, 1⟩, .blank stock] ∧
    (runFilter [r] [stock, premium] none .standard).stats =
      [⟨"assetType", .exactly, 1, 0⟩, .blank premium] := by
  intro r premium stock result other
  have hsame : ∀ rule, rule ∈ [premium, stock] ↔ rule ∈ [stock, premium, stock] := by
    intro rule
    simp only [List.mem_cons, List.not_mem_nil, or_false]
    tauto
  have hfault : premium.Faults none .standard r := by decide +kernel
  have hrefused : ¬ stock.Holds none .standard r := by decide +kernel
  have hplain : ¬ stock.Faults none .standard r := by decide +kernel
  obtain ⟨hrecords, -, -, hsum, hpair⟩ :=
    runFilter_rules_congr [r, r] [premium, stock] [stock, premium, stock] none .standard hsame
  obtain ⟨hfirst, hlast⟩ := hpair r premium stock hfault hrefused hplain
  exact ⟨hsame, hrecords, hsum, hfault, hrefused, hplain, hfirst, hlast⟩

theorem Rule.holds_of_asksForAny (rule : Rule) (table : Option MembershipTable) (o : Options)
    (r : Record) (h : rule.AsksForAny) : rule.Holds table o r := by
  rw [Rule.Holds, Rule.compile, Rule.kind, if_pos (rule.isWildcard_iff.mpr h)]
  rfl

theorem forall_mem_insertIdx_iff {α : Type} (P : α → Prop) (items : List α) (i : ℕ) (a : α)
    (h : P a) : (∀ b ∈ items.insertIdx i a, P b) ↔ ∀ b ∈ items, P b := by
  by_cases hi : i ≤ items.length
  · simp [List.mem_insertIdx hi, h]
  · rw [List.insertIdx_of_length_lt (Nat.lt_of_not_le hi)]

theorem countedRows_insertIdx (records : List Record) (rules : List Rule) (i : ℕ) (rule : Rule)
    (table : Option MembershipTable) (o : Options) (h : rule.AsksForAny) :
    countedRows records (rules.insertIdx i rule) table o =
      (countedRows records rules table o).insertIdx i (.blank rule) := by
  rw [countedRows_eq_rows, countedRows_eq_rows, Pass.compile, List.map_insertIdx,
    Pass.rows_insertIdx]
  · rfl
  · exact fun r => rule.holds_of_asksForAny table o r h

/-- A rule that asks for everything, put anywhere among the others, changes neither the
records that are kept nor what the others are charged with, and is charged with nothing. -/
theorem runFilter_insertIdx_rules (records : List Record) (rules : List Rule) (i : ℕ)
    (rule : Rule) (table : Option MembershipTable) (o : Options) (hany : rule.AsksForAny) :
    let result := runFilter records rules table o
    let wider := runFilter records (rules.insertIdx i rule) table o
    wider.records = result.records ∧
    wider.originalCount = result.originalCount ∧
    wider.filteredCount = result.filteredCount ∧
    (wider.stats = if records.isEmpty then [] else
      result.stats.insertIdx i ⟨rule.name, rule.condition, 0, 0⟩) := by
  intro result wider
  have hrecords : wider.records = result.records := by
    simp only [wider, result, runFilter_records]
    apply List.filter_congr
    intro r _
    rw [decide_eq_decide]
    exact forall_mem_insertIdx_iff _ rules i rule (rule.holds_of_asksForAny table o r hany)
  have hcount : wider.filteredCount = result.filteredCount :=
    runFilter_filteredCount_congr records _ table o records rules hrecords
  have horiginal : wider.originalCount = records.length :=
    (runFilter_counts records (rules.insertIdx i rule) table o).1
  have horiginal' : result.originalCount = records.length :=
    (runFilter_counts records rules table o).1
  refine ⟨hrecords, horiginal.trans horiginal'.symm, hcount, ?_⟩
  rw [runFilter_stats_eq_countedRows, countedRows_insertIdx records rules i rule table o hany]
  by_cases hnone : records.isEmpty = true
  · rw [if_pos hnone, if_pos hnone]
  · rw [if_neg hnone, if_neg hnone, countedRows_eq_stats records rules table o hnone]
    rfl

/-- A rule on groups, without a table, that lists the keyword in other letters. -/
theorem runFilter_insertIdx_rules_groups :
    let records := [5, 500].map fun n => Record.ofJson (.object [("premium", .natural n)])
    let premium : Rule := ⟨"premium", .moreThan, .number 100⟩
    let groups : Rule := ⟨"INDEXMEMBERSHIP", .between, .list [.number 3, .text " AnY\t"]⟩
    let result := runFilter records [premium] none .standard
    let wider := runFilter records [premium, groups] none .standard
    groups.AsksForAny ∧
    wider.records = result.records ∧
    wider.filteredCount = result.filteredCount ∧
    wider.stats = [⟨"premium", .moreThan, 1, 0⟩, ⟨"INDEXMEMBERSHIP", .between, 0, 0⟩] := by
  intro records premium groups result wider
  have hany : groups.AsksForAny :=
    .inr ⟨" AnY\t", .inr ⟨_, rfl, by simp⟩, by decide⟩
  have hstats : result.stats = [⟨"premium", .moreThan, 1, 0⟩] := by decide +kernel
  obtain ⟨hrecords, -, hcount, hwider⟩ :=
    runFilter_insertIdx_rules records [premium] 1 groups none .standard hany
  rw [hstats] at hwider
  exact ⟨hany, hrecords, hcount, hwider⟩

end Screening

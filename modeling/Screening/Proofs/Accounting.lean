import Screening.Pass
import Mathlib

/-!
# What a pass accounts for

Every record is either kept or charged to one rule: the first of them, in their
order, that does not answer yes on it. The rows of a pass are determined by
that alone, and one more record changes them as it is tallied.
-/

set_option autoImplicit false

namespace Screening

namespace Predicate

def Holds (p : Predicate) (r : Record) : Prop := p.evaluate r = .ok true

def Faults (p : Predicate) (r : Record) : Prop := ∃ cause, p.evaluate r = .error cause

instance (p : Predicate) (r : Record) : Decidable (p.Holds r) :=
  match h : p.evaluate r with
  | .ok true => .isTrue h
  | .ok false => .isFalse fun hyes => nomatch h.symm.trans hyes
  | .error _ => .isFalse fun hyes => nomatch h.symm.trans hyes

instance (p : Predicate) (r : Record) : Decidable (p.Faults r) :=
  match h : p.evaluate r with
  | .ok _ => .isFalse fun ⟨_, hcause⟩ => nomatch h.symm.trans hcause
  | .error cause => .isTrue ⟨cause, h⟩

theorem not_holds_of_faults (p : Predicate) (r : Record) (h : p.Faults r) : ¬ p.Holds r := by
  obtain ⟨cause, hcause⟩ := h
  intro hyes
  rw [Holds, hcause] at hyes
  cases hyes

end Predicate

namespace Rule

def Holds (table : Option MembershipTable) (o : Options) (r : Record) (rule : Rule) : Prop :=
  (rule.compile (table.map Directory.ofTable) o).Holds r

def Faults (table : Option MembershipTable) (o : Options) (r : Record) (rule : Rule) : Prop :=
  (rule.compile (table.map Directory.ofTable) o).Faults r

instance (table : Option MembershipTable) (o : Options) (r : Record) (rule : Rule) :
    Decidable (rule.Holds table o r) :=
  inferInstanceAs (Decidable (Predicate.Holds _ r))

instance (table : Option MembershipTable) (o : Options) (r : Record) (rule : Rule) :
    Decidable (rule.Faults table o r) :=
  inferInstanceAs (Decidable (Predicate.Faults _ r))

end Rule

namespace Pass

theorem refusal_eq_none_iff (c : CompiledRule) (r : Record) :
    refusal? c r = none ↔ c.predicate.Holds r := by
  unfold refusal? Predicate.Holds
  cases c.predicate.evaluate r with
  | error cause => simp
  | ok answer => cases answer <;> simp

theorem accepts_iff (p : Pass) (r : Record) :
    p.accepts r = true ↔ ∀ c ∈ p, c.predicate.Holds r := by
  simp [accepts, refusal_eq_none_iff]

def row (c : CompiledRule) (records : List Record) : RuleStats :=
  ⟨c.rule.name, c.rule.condition, records.countP fun r => ¬ c.predicate.Holds r,
    records.countP fun r => c.predicate.Faults r⟩

theorem row_append_held (c : CompiledRule) (records : List Record) (r : Record)
    (h : c.predicate.Holds r) : row c (records ++ [r]) = row c records := by
  have hf : ¬ c.predicate.Faults r := fun hf => Predicate.not_holds_of_faults _ r hf h
  simp [row, h, hf]

theorem row_append_refused (c : CompiledRule) (records : List Record) (r : Record)
    (refusal : Refusal) (h : refusal? c r = some refusal) :
    row c (records ++ [r]) = (row c records).count refusal := by
  have hrefused : ¬ c.predicate.Holds r := by
    rw [← refusal_eq_none_iff, h]
    exact fun h => nomatch h
  unfold refusal? at h
  cases he : c.predicate.evaluate r with
  | error cause =>
    have hfault : c.predicate.Faults r := ⟨cause, he⟩
    rw [he] at h
    cases h
    simp [row, RuleStats.count, hrefused, hfault]
  | ok answer =>
    have hfault : ¬ c.predicate.Faults r := by
      rintro ⟨cause, hcause⟩
      rw [he] at hcause
      cases hcause
    rw [he] at h
    cases answer <;> cases h
    simp [row, RuleStats.count, hrefused, hfault]

theorem row_faults_le (c : CompiledRule) (records : List Record) :
    (row c records).faults ≤ (row c records).rejected := by
  apply List.countP_mono_left
  intro r _ hf
  simp only [decide_eq_true_eq] at hf ⊢
  exact Predicate.not_holds_of_faults _ r hf

def rows : Pass → List Record → List RuleStats
  | [], _ => []
  | c :: p, records => row c records :: rows p (records.filter fun r => c.predicate.Holds r)

theorem rows_nil (p : Pass) : rows p [] = p.map RuleStats.start := by
  induction p with
  | nil => rfl
  | cons c p ih =>
    rw [rows, List.filter_nil, ih]
    rfl

theorem tally_rows (p : Pass) (records : List Record) (r : Record) :
    p.tally r (rows p records) = rows p (records ++ [r]) := by
  induction p generalizing records with
  | nil => rfl
  | cons c p ih =>
    rw [rows, rows, tally, List.filter_append]
    cases hc : refusal? c r with
    | none =>
      have hholds := (refusal_eq_none_iff c r).mp hc
      rw [row_append_held c records r hholds, ih]
      simp [hholds]
    | some refusal =>
      have hrefused : ¬ c.predicate.Holds r := by
        rw [← refusal_eq_none_iff, hc]
        exact fun h => nomatch h
      rw [row_append_refused c records r refusal hc]
      simp [hrefused]

theorem foldl_tally_rows (p : Pass) (seen records : List Record) :
    records.foldl (fun stats r => p.tally r stats) (rows p seen) = rows p (seen ++ records) := by
  induction records generalizing seen with
  | nil => simp
  | cons r records ih =>
    rw [List.foldl_cons, tally_rows, ih, List.append_assoc]
    rfl

theorem apply_stats (p : Pass) (records : List Record) :
    (p.apply records).stats = rows p records := by
  have h := foldl_tally_rows p [] records
  rw [rows_nil] at h
  exact h

theorem filter_holds_cons (c : CompiledRule) (p : Pass) (records : List Record) :
    records.filter (fun r => ∀ held ∈ c :: p, held.predicate.Holds r) =
      (records.filter fun r => c.predicate.Holds r).filter fun r =>
        ∀ held ∈ p, held.predicate.Holds r := by
  rw [List.filter_filter]
  apply List.filter_congr
  intro r _
  rw [← Bool.decide_and, decide_eq_decide, List.forall_mem_cons, and_comm]

/-- Every record that is not kept is charged to exactly one row. -/
theorem length_filter_add_sum (p : Pass) (records : List Record) :
    (records.filter fun r => ∀ c ∈ p, c.predicate.Holds r).length +
      ((rows p records).map RuleStats.rejected).sum = records.length := by
  induction p generalizing records with
  | nil => simp [rows]
  | cons c p ih =>
    have hrest := ih (records.filter fun r => c.predicate.Holds r)
    have hsplit := List.length_eq_length_filter_add (fun r => decide (c.predicate.Holds r))
      (l := records)
    rw [filter_holds_cons, rows, List.map_cons, List.sum_cons, row, List.countP_eq_length_filter]
    simp only [decide_not] at hsplit ⊢
    omega

theorem rows_eq_mapIdx (p : Pass) (records : List Record) :
    rows p records = p.mapIdx fun i c =>
      row c (records.filter fun r => ∀ earlier ∈ p.take i, earlier.predicate.Holds r) := by
  induction p generalizing records with
  | nil => rfl
  | cons c p ih =>
    have hnone : records.filter (fun r => ∀ earlier ∈ (c :: p).take 0,
        earlier.predicate.Holds r) = records := by simp
    rw [rows, List.mapIdx_cons, ih, hnone]
    congr 2
    funext i later
    exact congrArg (row later) (filter_holds_cons c (p.take i) records).symm

theorem faults_le_rejected (p : Pass) (records : List Record) (s : RuleStats)
    (hs : s ∈ rows p records) : s.faults ≤ s.rejected := by
  induction p generalizing records with
  | nil => cases hs
  | cons c p ih =>
    rcases List.mem_cons.mp hs with rfl | hrest
    · exact row_faults_le c records
    · exact ih _ hrest

section Rules

variable (rules : List Rule) (table : Option MembershipTable) (o : Options)

theorem forall_compile_iff (r : Record) :
    (∀ c ∈ compile rules table o, c.predicate.Holds r) ↔ ∀ rule ∈ rules, rule.Holds table o r :=
  List.forall_mem_map

theorem compile_take (i : ℕ) :
    (compile rules table o).take i = compile (rules.take i) table o :=
  List.map_take.symm

/-- The row of a rule over the records for which every earlier rule holds. -/
def rowOf (records : List Record) (i : ℕ) (rule : Rule) : RuleStats :=
  ⟨rule.name, rule.condition,
    records.countP fun r =>
      (∀ earlier ∈ rules.take i, earlier.Holds table o r) ∧ ¬ rule.Holds table o r,
    records.countP fun r =>
      (∀ earlier ∈ rules.take i, earlier.Holds table o r) ∧ rule.Faults table o r⟩

theorem row_filter_earlier (records : List Record) (i : ℕ) (rule : Rule) :
    row ⟨rule, rule.compile (table.map Directory.ofTable) o⟩ (records.filter fun r =>
        ∀ earlier ∈ (compile rules table o).take i, earlier.predicate.Holds r) =
      rowOf rules table o records i rule := by
  have hearlier (r : Record) :
      (∀ earlier ∈ (compile rules table o).take i, earlier.predicate.Holds r) ↔
        ∀ earlier ∈ rules.take i, earlier.Holds table o r := by
    rw [compile_take]
    exact forall_compile_iff (rules.take i) table o r
  simp only [row, rowOf, List.countP_filter, hearlier, ← Bool.decide_and]
  simp only [and_comm]
  rfl

theorem rows_compile (records : List Record) :
    rows (compile rules table o) records = rules.mapIdx (rowOf rules table o records) := by
  rw [rows_eq_mapIdx, List.mapIdx_eq_iff]
  intro i
  rw [List.getElem?_mapIdx, compile, List.getElem?_map, Option.map_map]
  cases rules[i]? with
  | none => rfl
  | some rule => exact congrArg some (row_filter_earlier rules table o records i rule).symm

end Rules

end Pass

section Run

variable (records : List Record) (rules : List Rule) (table : Option MembershipTable)
  (o : Options)

theorem filter_accepts_compile :
    records.filter (Pass.compile rules table o).accepts =
      records.filter fun r => ∀ rule ∈ rules, rule.Holds table o r := by
  apply List.filter_congr
  intro r _
  rw [Bool.eq_iff_iff, Pass.accepts_iff, Pass.forall_compile_iff, decide_eq_true_iff]

theorem runFilter_records :
    (runFilter records rules table o).records =
      records.filter fun r => ∀ rule ∈ rules, rule.Holds table o r := by
  unfold runFilter
  split
  · next h =>
    rw [Bool.or_eq_true, List.isEmpty_iff, List.isEmpty_iff] at h
    rcases h with rfl | rfl
    · rfl
    · simp [FilterResult.unfiltered]
  · exact filter_accepts_compile records rules table o

theorem runFilter_stats :
    (runFilter records rules table o).stats =
      if records.isEmpty || rules.isEmpty then []
      else rules.mapIdx (Pass.rowOf rules table o records) := by
  unfold runFilter
  split
  · rfl
  · rw [Pass.apply_stats, Pass.rows_compile]

theorem runFilter_counts :
    (runFilter records rules table o).originalCount = records.length ∧
      (runFilter records rules table o).filteredCount =
        (runFilter records rules table o).records.length := by
  unfold runFilter
  split <;> exact ⟨rfl, rfl⟩

theorem runFilter_filteredCount_congr (others : List Record) (rules' : List Rule)
    (h : (runFilter records rules table o).records = (runFilter others rules' table o).records) :
    (runFilter records rules table o).filteredCount =
      (runFilter others rules' table o).filteredCount := by
  rw [(runFilter_counts records rules table o).2, (runFilter_counts others rules' table o).2, h]

theorem runFilter_charged :
    (runFilter records rules table o).filteredCount +
      ((runFilter records rules table o).stats.map RuleStats.rejected).sum = records.length := by
  rw [(runFilter_counts records rules table o).2]
  unfold runFilter
  split
  · rfl
  · have h := Pass.length_filter_add_sum (Pass.compile rules table o) records
    simp only [Pass.apply_stats, ← Pass.accepts_iff] at h ⊢
    simpa [Pass.apply] using h

theorem runFilter_faults (s : RuleStats) (hs : s ∈ (runFilter records rules table o).stats) :
    s.faults ≤ s.rejected := by
  unfold runFilter at hs
  split at hs
  · cases hs
  · rw [Pass.apply_stats] at hs
    exact Pass.faults_le_rejected _ records s hs

def RuleStats.blank (rule : Rule) : RuleStats := ⟨rule.name, rule.condition, 0, 0⟩

/-- The rows of a run; one that returned none because it had no records counts with a
blank row for each rule. -/
def countedRows : List RuleStats :=
  if records.isEmpty then rules.map RuleStats.blank else (runFilter records rules table o).stats

theorem countedRows_eq_rows :
    countedRows records rules table o = Pass.rows (Pass.compile rules table o) records := by
  unfold countedRows
  by_cases hnone : records = []
  · subst hnone
    rw [Pass.rows_nil, Pass.compile, List.map_map]
    rfl
  · rw [List.isEmpty_eq_false_iff.mpr hnone, Pass.rows_compile, runFilter_stats]
    cases rules <;> simp [hnone]

theorem countedRows_eq_stats (h : ¬ records.isEmpty = true) :
    countedRows records rules table o = (runFilter records rules table o).stats :=
  if_neg h

theorem runFilter_stats_eq_countedRows :
    (runFilter records rules table o).stats =
      if records.isEmpty then [] else countedRows records rules table o := by
  by_cases hnone : records.isEmpty = true
  · rw [runFilter_stats, hnone]
    rfl
  · rw [if_neg hnone, countedRows_eq_stats records rules table o hnone]

end Run

/-- A pass keeps the records on which every rule answers yes, and charges each other
record to the first rule, in their order, that does not. -/
theorem runFilter_accounts (records : List Record) (rules : List Rule)
    (table : Option MembershipTable) (o : Options) :
    let result := runFilter records rules table o
    (result.records = records.filter fun r => ∀ rule ∈ rules, rule.Holds table o r) ∧
    result.records = records.filter (Pass.compile rules table o).accepts ∧
    result.originalCount = records.length ∧
    result.filteredCount = result.records.length ∧
    result.filteredCount ≤ result.originalCount ∧
    (result.stats = if records.isEmpty || rules.isEmpty then [] else
      rules.mapIdx fun i rule => ⟨rule.name, rule.condition,
        records.countP fun r =>
          (∀ earlier ∈ rules.take i, earlier.Holds table o r) ∧ ¬ rule.Holds table o r,
        records.countP fun r =>
          (∀ earlier ∈ rules.take i, earlier.Holds table o r) ∧ rule.Faults table o r⟩) ∧
    result.filteredCount + (result.stats.map RuleStats.rejected).sum = result.originalCount ∧
    ∀ s ∈ result.stats, s.faults ≤ s.rejected := by
  intro result
  have hrecords := runFilter_records records rules table o
  obtain ⟨horiginal, hfiltered⟩ := runFilter_counts records rules table o
  have hcharged := runFilter_charged records rules table o
  rw [← horiginal] at hcharged
  have hle := Nat.le_of_add_right_le (Nat.le_of_eq hcharged)
  refine ⟨hrecords, ?_, horiginal, hfiltered, hle, runFilter_stats records rules table o,
    hcharged, runFilter_faults records rules table o⟩
  rw [filter_accepts_compile]
  exact hrecords

end Screening

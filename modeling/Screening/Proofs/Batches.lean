import Screening.Proofs.Accounting

/-!
# Batches of records

A record is judged by itself. So a batch may be run in parts: what the parts keep comes
one after another, and their rows are added up. Down to single records, nothing that is
in a batch changes what becomes of another record in it.
-/

set_option autoImplicit false

namespace Screening

def RuleStats.add (s t : RuleStats) : RuleStats :=
  ⟨s.rule, s.condition, s.rejected + t.rejected, s.faults + t.faults⟩

namespace Pass

theorem row_append (c : CompiledRule) (batch rest : List Record) :
    row c (batch ++ rest) = (row c batch).add (row c rest) := by
  simp [row, RuleStats.add]

/-- A rule sees the records of both batches that hold for the rules before it. -/
theorem rows_append_records (p : Pass) (batch rest : List Record) :
    rows p (batch ++ rest) = List.zipWith RuleStats.add (rows p batch) (rows p rest) := by
  induction p generalizing batch rest with
  | nil => rfl
  | cons c p ih =>
    rw [rows, rows, rows, List.filter_append, ih, row_append, List.zipWith_cons_cons]

end Pass

section Batches

variable (records batch rest : List Record) (rules : List Rule) (table : Option MembershipTable)
  (o : Options)

theorem runFilter_records_append_records :
    (runFilter (batch ++ rest) rules table o).records =
      (runFilter batch rules table o).records ++ (runFilter rest rules table o).records := by
  rw [runFilter_records, runFilter_records, runFilter_records, List.filter_append]

theorem countedRows_append_records :
    countedRows (batch ++ rest) rules table o =
      List.zipWith RuleStats.add (countedRows batch rules table o)
        (countedRows rest rules table o) := by
  rw [countedRows_eq_rows, countedRows_eq_rows, countedRows_eq_rows, Pass.rows_append_records]

theorem runFilter_records_eq_flatMap :
    (runFilter records rules table o).records =
      records.flatMap fun r => (runFilter [r] rules table o).records := by
  induction records with
  | nil => exact runFilter_records [] rules table o
  | cons r records ih =>
    rw [List.flatMap_cons, ← ih, ← runFilter_records_append_records]
    rfl

theorem countedRows_eq_foldr :
    countedRows records rules table o =
      records.foldr (fun r => List.zipWith RuleStats.add (countedRows [r] rules table o))
        (rules.map RuleStats.blank) := by
  induction records with
  | nil => rfl
  | cons r records ih =>
    rw [List.foldr_cons, ← ih, ← countedRows_append_records]
    rfl

end Batches

/-- A batch that is run in two parts, or record by record, keeps the same records and
charges the same rules. -/
theorem runFilter_append_records (batch rest : List Record) (rules : List Rule)
    (table : Option MembershipTable) (o : Options) :
    let whole := runFilter (batch ++ rest) rules table o
    let first := runFilter batch rules table o
    let last := runFilter rest rules table o
    whole.records = first.records ++ last.records ∧
    whole.originalCount = first.originalCount + last.originalCount ∧
    whole.filteredCount = first.filteredCount + last.filteredCount ∧
    countedRows (batch ++ rest) rules table o =
      List.zipWith RuleStats.add (countedRows batch rules table o)
        (countedRows rest rules table o) ∧
    (whole.stats = if (batch ++ rest).isEmpty then [] else
      List.zipWith RuleStats.add (countedRows batch rules table o)
        (countedRows rest rules table o)) ∧
    whole.records = ((batch ++ rest).flatMap fun r => (runFilter [r] rules table o).records) ∧
    countedRows (batch ++ rest) rules table o =
      (batch ++ rest).foldr
        (fun r => List.zipWith RuleStats.add (countedRows [r] rules table o))
        (rules.map RuleStats.blank) := by
  intro whole first last
  have hrecords : whole.records = first.records ++ last.records :=
    runFilter_records_append_records batch rest rules table o
  have hrows := countedRows_append_records batch rest rules table o
  obtain ⟨horiginal, hfiltered⟩ := runFilter_counts (batch ++ rest) rules table o
  obtain ⟨hfirst, hfirst'⟩ := runFilter_counts batch rules table o
  obtain ⟨hlast, hlast'⟩ := runFilter_counts rest rules table o
  refine ⟨hrecords, ?_, ?_, hrows, ?_, runFilter_records_eq_flatMap _ rules table o,
    countedRows_eq_foldr _ rules table o⟩
  · rw [horiginal, hfirst, hlast, List.length_append]
  · rw [hfiltered, hfirst', hlast', ← List.length_append]
    exact congrArg List.length hrecords
  · rw [← hrows]
    exact runFilter_stats_eq_countedRows (batch ++ rest) rules table o

end Screening

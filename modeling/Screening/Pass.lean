import Screening.Predicate.Compile

/-!
# The filter pass

A pass holds the compiled rules. It keeps the records that every rule accepts,
in order, and counts for each rule the records it was the first to reject. A
fault rejects the record and is counted as well.
-/

set_option autoImplicit false

namespace Screening

structure CompiledRule where
  rule : Rule
  predicate : Predicate
  deriving Repr

structure RuleStats where
  rule : String
  condition : Condition
  rejected : Nat
  faults : Nat
  deriving DecidableEq, Repr

structure FilterResult where
  records : List Record
  originalCount : Nat
  filteredCount : Nat
  stats : List RuleStats

namespace FilterResult

def unfiltered (records : List Record) : FilterResult :=
  ⟨records, records.length, records.length, []⟩

def rejectedCount (r : FilterResult) : Nat := r.originalCount - r.filteredCount

def faultCount (r : FilterResult) : Nat := (r.stats.map RuleStats.faults).foldr (· + ·) 0

end FilterResult

inductive Refusal where
  | rejected
  | fault (cause : PredicateFault)
  deriving Repr

namespace RuleStats

def start (c : CompiledRule) : RuleStats := ⟨c.rule.name, c.rule.condition, 0, 0⟩

def count (s : RuleStats) : Refusal → RuleStats
  | .rejected => { s with rejected := s.rejected + 1 }
  | .fault _ => { s with rejected := s.rejected + 1, faults := s.faults + 1 }

end RuleStats

abbrev Pass := List CompiledRule

namespace Pass

def compile (rules : List Rule) (table : Option MembershipTable) (o : Options) : Pass :=
  let directory := table.map Directory.ofTable
  rules.map fun r => ⟨r, r.compile directory o⟩

def refusal? (c : CompiledRule) (r : Record) : Option Refusal :=
  match c.predicate.evaluate r with
  | .ok true => none
  | .ok false => some .rejected
  | .error cause => some (.fault cause)

def accepts (p : Pass) (r : Record) : Bool := p.all fun c => (refusal? c r).isNone

def tally (r : Record) : Pass → List RuleStats → List RuleStats
  | c :: p, s :: stats => match refusal? c r with
    | none => s :: tally r p stats
    | some refusal => s.count refusal :: stats
  | _, stats => stats

def apply (p : Pass) (records : List Record) : FilterResult :=
  let kept := records.filter p.accepts
  ⟨kept, records.length, kept.length,
    records.foldl (fun stats r => p.tally r stats) (p.map RuleStats.start)⟩

end Pass

/-- The pass of some rules over some records. If either are missing there is
nothing to do, and no rule is accounted for. -/
def runFilter (records : List Record) (rules : List Rule) (table : Option MembershipTable)
    (o : Options) : FilterResult :=
  if records.isEmpty || rules.isEmpty then .unfiltered records
  else (Pass.compile rules table o).apply records

end Screening

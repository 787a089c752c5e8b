import Screening.Options
import Screening.Predicate
import Screening.Rule

/-!
# From rules to predicates

A rule is first classified: by a wildcard, by its name, and only then by its
condition and value. Each class has one way to become a predicate. A rule that
cannot be used, such as one with a bound that is no number, becomes the
predicate that no record passes.
-/

set_option autoImplicit false

namespace Screening

inductive RuleKind where
  /-- No record is rejected. -/
  | wildcard
  /-- The symbol of the record is a member of a group. -/
  | membership
  /-- The field is compared as it is written. -/
  | categorical
  /-- The field lies between two bounds. -/
  | range
  | scalar
  deriving DecidableEq, Repr

def RuleKind.word : RuleKind → String
  | wildcard => "Wildcard"
  | membership => "Membership"
  | categorical => "Categorical"
  | range => "Range"
  | scalar => "Scalar"

def Value.hasWildcard : Value → Bool
  | .list items => items.any Value.isWildcard
  | v => v.isWildcard

namespace Rule

def isWildcard (r : Rule) : Bool :=
  r.condition == .any || r.value.isAnyLiteral || (normalize r.value).hasWildcard

def kind (o : Options) (r : Rule) : RuleKind :=
  if r.isWildcard then .wildcard
  else if o.isMembership r.name then .membership
  else if o.isCategorical r.name then .categorical
  else if r.bounds?.isSome then .range
  else .scalar

end Rule

mutual

def Value.groups : Value → List String
  | .text s => [s]
  | .number x => [Decimal.display x]
  | .list items => groupsOfItems items
  | _ => []

def groupsOfItems : List Value → List String
  | [] => []
  | v :: rest => v.groups ++ groupsOfItems rest

end

/-- A rule without a value passes every record if its condition is unspecified,
and none otherwise. -/
def missingValue (r : Rule) : Predicate :=
  if r.condition = .unspecified then .always else .never

def bound? (v : Value) : Option (Option Float) :=
  if v.isUnbounded then some none else v.number?.map some

namespace Rule

def compileMembership (d : Option Directory) (o : Options) (r : Rule) : Predicate :=
  match d with
  | some d => if d.isEmpty then .never else .membership o.symbolField (d.union r.value.groups)
  | none => .never

def compileCategorical (r : Rule) : Predicate :=
  match r.value with
  | .null => missingValue r
  | .list items => .oneOf r.name items []
  | v => .equalsRaw r.name v

def compileRange (r : Rule) (least greatest : Value) : Predicate :=
  match bound? (normalize least), bound? (normalize greatest) with
  | some none, some none => .always
  | some least, some greatest => .range r.name least greatest
  | _, _ => .never

def threshold (r : Rule) (build : String → Float → Predicate) : Predicate :=
  match (normalize r.value).number? with
  | some x => build r.name x
  | none => .never

def compileScalar (r : Rule) : Predicate :=
  match r.value, normalize r.value with
  | .list raw, .list normal => .oneOf r.name raw normal
  | _, .null => missingValue r
  | _, v => match r.condition with
    | .moreThan => r.threshold .moreThan
    | .atMost => r.threshold .atMost
    | _ => .equals r.name v

def compile (d : Option Directory) (o : Options) (r : Rule) : Predicate :=
  match r.kind o with
  | .wildcard => .always
  | .membership => r.compileMembership d o
  | .categorical => r.compileCategorical
  | .range => match r.bounds? with
    | some (least, greatest) => r.compileRange least greatest
    | none => r.compileScalar
  | .scalar => r.compileScalar

end Rule

end Screening

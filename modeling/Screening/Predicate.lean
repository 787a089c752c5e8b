import Screening.Membership

/-!
# Predicates

A predicate is what a rule comes to: a test of one record that needs neither
the rule, the options nor the table any more. A record without the field does
not pass, except where every record does. A field of a type that a predicate
cannot compare is a fault and not an answer.
-/

set_option autoImplicit false

namespace Screening

inductive Predicate where
  | always
  | never
  | membership (symbolField : String) (members : List String)
  /-- The field equals a value as it is written. -/
  | equalsRaw (field : String) (expected : Value)
  /-- The field equals a value when both are normal. -/
  | equals (field : String) (expected : Value)
  /-- The field is one of some values, as it is written or, if there are any, normal. -/
  | oneOf (field : String) (raw normal : List Value)
  /-- The field is a number strictly between two bounds, either of which may be open. -/
  | range (field : String) (least greatest : Option Float)
  | moreThan (field : String) (threshold : Float)
  /-- The field is at most the threshold. -/
  | atMost (field : String) (threshold : Float)
  deriving Repr

inductive PredicateFault where
  | notNumeric (field : String) (value : Value)
  | unsupportedField (field : String)
  deriving Repr

def PredicateFault.message : PredicateFault → String
  | .notNumeric field value => "field `" ++ field ++ "` is not numeric: " ++ value.quoted
  | .unsupportedField field => "field `" ++ field ++ "` holds an unsupported value type"

def scalarField (r : Record) (field : String) : Except PredicateFault (Option Value) :=
  match r.field field with
  | .absent => .ok none
  | .unsupported _ => .error (.unsupportedField field)
  | value => .ok (some value.normal)

def numericField (r : Record) (field : String) : Except PredicateFault (Option Float) := do
  match ← scalarField r field with
  | none => return none
  | some (.number x) => return some x
  | some value => throw (.notNumeric field value)

namespace Predicate

inductive Kind where
  | always
  | never
  | membership
  | equalsRaw
  | equals
  | oneOf
  | range
  | moreThan
  | atMost
  deriving DecidableEq, Repr

def Kind.word : Kind → String
  | always => "always"
  | never => "never"
  | membership => "membership"
  | equalsRaw => "matches"
  | equals => "equals"
  | oneOf => "oneOf"
  | range => "range"
  | moreThan => "over"
  | atMost => "under"

def kind : Predicate → Kind
  | always => .always
  | never => .never
  | membership .. => .membership
  | equalsRaw .. => .equalsRaw
  | equals .. => .equals
  | oneOf .. => .oneOf
  | range .. => .range
  | moreThan .. => .moreThan
  | atMost .. => .atMost

def within (least greatest : Option Float) (x : Float) : Bool :=
  least.all (x > ·) && greatest.all (x < ·)

def isOneOf (raw normal : List Value) : FieldValue → Bool
  | .absent => false
  | value =>
    raw.any (fun v => v.same value.raw) ||
      (!normal.isEmpty && normal.any (fun v => v.same value.normal))

def evaluate (r : Record) : Predicate → Except PredicateFault Bool
  | always => .ok true
  | never => .ok false
  | membership symbolField members => .ok ((r.symbol? symbolField).any members.contains)
  | equalsRaw field expected => match r.field field with
    | .absent => .ok false
    | value => .ok (value.raw.same expected)
  | equals field expected => do
    return (← scalarField r field).any (fun v => v.same expected)
  | oneOf field raw normal => .ok (isOneOf raw normal (r.field field))
  | range field least greatest => do
    return (← numericField r field).any (within least greatest)
  | moreThan field threshold => do
    return (← numericField r field).any (· > threshold)
  | atMost field threshold => do
    return (← numericField r field).any (· ≤ threshold)

end Predicate

end Screening

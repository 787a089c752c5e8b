import Screening.Log.Directive

/-!
# Filters

A filter is a list of directives separated by commas. A directive that names
neither a span nor a value judges what is reported by the parts its target
fits; of several the most specific one counts. A directive that names a span or
a field opens the spans it fits: what happens inside of them is let through up
to its threshold. Nothing is let through beyond the most talkative directive.
-/

set_option autoImplicit false

namespace Screening.Log

namespace Directive

def fits (d : Directive) (source : Source) : Bool :=
  match d.target with
  | none => true
  | some target => target.toList.isPrefixOf source.path.toList

def isPlain (d : Directive) : Bool := d.span.isNone && (d.field.bind FieldTest.wanted).isNone

def isForSpans (d : Directive) : Bool := d.span.isSome || d.field.isSome

def asksFieldOf (d : Directive) (e : Event) : Bool :=
  match d.field with
  | none => true
  | some field => field.name = "message" || e.fields.any (·.1 = field.name)

def reach (d : Directive) : Nat :=
  match d.target with
  | none => 0
  | some target => target.utf8ByteSize + 1

def fieldName (d : Directive) : String :=
  match d.field with
  | none => ""
  | some field => field.name

/-- Among targets of one length a field is more specific than none, and of two
fields the later name; of two directives alike the second one counts. -/
def yieldsTo (d other : Directive) : Bool :=
  d.reach < other.reach || d.reach = other.reach && !decide (other.fieldName < d.fieldName)

def replaces (other d : Directive) : Bool :=
  d.target = other.target && d.span = other.span && d.field = other.field

def names (d : Directive) (span : Span) : Bool :=
  d.fits span.source && d.span.all (· = span.name) &&
    d.field.all fun field => span.fields.any (·.1 = field.name)

def meets (d : Directive) (span : Span) : Bool :=
  match d.field with
  | none => true
  | some field => match field.wanted with
    | none => true
    | some (.count n) => span.fields.any fun f => f.1 = field.name && f.2 = toString n
    | some .other => false

end Directive

abbrev Filter := List Directive

structure Surroundings where
  shown : List Span := []
  thresholds : List Threshold := []

def Surroundings.allow (s : Surroundings) (level : Level) : Bool :=
  s.thresholds.any fun t => Threshold.allows t level

namespace Filter

def ofText? (s : String) : Option Filter :=
  match (s.splitOn ",").filter (· ≠ "") with
  | [] => some [⟨none, none, none, some .error⟩]
  | texts => texts.mapM Directive.parse?

def decisive? (f : Filter) : Option Directive :=
  f.foldl (fun best d => match best with
    | some b => if b.yieldsTo d then some d else best
    | none => some d) none

def judge (f : Filter) (fitting : Directive → Bool) (level : Level) : Bool :=
  match decisive? (f.filter fun d => d.isPlain && fitting d) with
  | some d => Threshold.allows d.threshold level
  | none => false

def withoutReplaced : Filter → Filter
  | [] => []
  | d :: rest =>
    if rest.any (·.replaces d) then withoutReplaced rest else d :: withoutReplaced rest

def opening (f : Filter) (span : Span) : Filter :=
  withoutReplaced (f.filter fun d => d.isForSpans && d.names span)

def limit (f : Filter) : Threshold :=
  -- A directive that asks for a value lets all through.
  if f.any fun d => (d.field.bind FieldTest.wanted).isSome then some .trace
  else Threshold.most (f.map Directive.threshold)

def opened? (f : Filter) (span : Span) : Option Threshold :=
  -- A span is opened by directives that name it, if only as far as its values are met.
  let opening := f.opening span
  if opening.isEmpty then none
  else some (Threshold.most ((opening.filter (·.meets span)).map Directive.threshold))

def allowsSpan (f : Filter) (s : Surroundings) (span : Span) : Bool :=
  Threshold.allows f.limit Span.level &&
    ((f.opened? span).isSome || f.judge (·.fits span.source) Span.level || s.allow Span.level)

def enter (f : Filter) (s : Surroundings) (span : Span) : Surroundings :=
  if f.allowsSpan s span then ⟨s.shown ++ [span], s.thresholds ++ (f.opened? span).toList⟩ else s

def surroundings (f : Filter) (e : Event) : Surroundings := e.spans.foldl f.enter {}

def allows (f : Filter) (e : Event) : Bool :=
  Threshold.allows f.limit e.level &&
    (f.judge (fun d => d.fits e.source && d.asksFieldOf e) e.level ||
      (f.surroundings e).allow e.level)

end Filter

end Screening.Log

import Screening.Log.Event
import Screening.Service

/-!
# What a run reports

The events of a run, in the order in which they happen. They are told beside
the run and not by it: each is read off the value, rule, record or request that
brings it about.
-/

set_option autoImplicit false

namespace Screening

open Log (Level Event Fields Span)

namespace Log

def fromNormalization (level : Level) (message : String) (fields : Fields) : Event :=
  ⟨level, .normalization, message, fields, []⟩

def fromCompile (level : Level) (message : String) (fields : Fields) : Event :=
  ⟨level, .compile, message, fields, []⟩

def fromEngine (level : Level) (message : String) (fields : Fields) : Event :=
  ⟨level, .engine, message, fields, []⟩

def fromBoundary (level : Level) (message : String) (fields : Fields) : Event :=
  ⟨level, .boundary, message, fields, []⟩

def fromCommands (level : Level) (message : String) (fields : Fields) : Event :=
  ⟨level, .commands, message, fields, []⟩

end Log

open Log (fromNormalization fromCompile fromEngine fromBoundary)

def Reading.events (s : String) : Reading → List Event
  | .badPercentage => [fromNormalization .warn "unparseable percentage, keeping raw value"
      [("value", Text.quote s)]]
  | .badNumber => [fromNormalization .warn "unparseable numeric value, keeping raw value"
      [("value", Text.quote s)]]
  | .words => [fromNormalization .trace "non-numeric value passed through"
      [("value", Text.quote s)]]
  | _ => []

def textEvents (s : String) : List Event := (Reading.ofText s).events s

mutual

def Value.events : Value → List Event
  | .text s => textEvents s
  | .list items => eventsOfItems items
  | _ => []

def eventsOfItems : List Value → List Event
  | [] => []
  | v :: rest => v.events ++ eventsOfItems rest

end

def FieldValue.events (field : FieldValue) : List Event := field.raw.events

namespace Rule

def named (r : Rule) : String × String := ("rule", r.name)

def conditioned (r : Rule) : String × String := ("condition", r.condition.word)

def missingValueEvents (r : Rule) : List Event :=
  if r.condition = .unspecified then []
  else [fromCompile .warn "comparison value missing, rule matches nothing" [r.named, r.conditioned]]

def membershipEvents (d : Option Directory) (r : Rule) : List Event :=
  let groups := r.value.groups
  match d.filter fun d => !d.isEmpty with
  | none =>
    [fromCompile .debug "no membership table supplied, rule matches nothing" [r.named]]
  | some d =>
    if (d.union groups).isEmpty then
      [fromCompile .debug "requested groups have no members"
        [r.named, ("groups", (Value.texts groups).quoted)]]
    else []

def thresholdEvents (r : Rule) : List Event :=
  if (normalize r.value).number?.isSome then []
  else [fromCompile .warn "non-numeric comparison value, rule matches nothing"
    [r.named, r.conditioned, ("value", r.value.bare)]]

def scalarEvents (r : Rule) : List Event :=
  match r.value with
  | .list _ => []
  | .null => r.missingValueEvents
  | _ => match r.condition with
    | .moreThan => r.thresholdEvents
    | .atMost => r.thresholdEvents
    | _ => []

def categoricalEvents (r : Rule) : List Event :=
  match r.value with
  | .null => r.missingValueEvents
  | _ => []

def rangeEvents (r : Rule) (least greatest : Value) : List Event :=
  -- The bounds are normalized once more on their own.
  least.events ++ greatest.events ++
    if (bound? (normalize least)).isSome && (bound? (normalize greatest)).isSome then []
    else [fromCompile .warn "non-numeric range bound, rule matches nothing"
      [r.named, ("min", least.bare), ("max", greatest.bare)]]

def kindEvents (d : Option Directory) (r : Rule) : RuleKind → List Event
  | .wildcard => []
  | .membership => r.membershipEvents d
  | .categorical => r.categoricalEvents
  | .range => match r.bounds? with
    | some (least, greatest) => r.rangeEvents least greatest
    | none => r.scalarEvents
  | .scalar => r.scalarEvents

def events (d : Option Directory) (o : Options) (r : Rule) : List Event :=
  r.value.events ++ r.kindEvents d (r.kind o) ++
    [fromCompile .debug "compiled rule"
      [r.named, r.conditioned, ("kind", (r.kind o).word),
        ("predicate", Text.quote (r.compile d o).kind.word)]]

end Rule

def Predicate.events (r : Record) : Predicate → List Event
  -- A field is normalized only where its normal form is needed.
  | .equals field _ => (r.field field).events
  | .oneOf field raw normal =>
    if isOneOf raw [] (r.field field) || normal.isEmpty then [] else (r.field field).events
  | .range field _ _ => (r.field field).events
  | .moreThan field _ => (r.field field).events
  | .atMost field _ => (r.field field).events
  | _ => []

def CompiledRule.events (c : CompiledRule) (r : Record) : List Event :=
  c.predicate.events r ++
    match c.predicate.evaluate r with
    | .error cause => [fromEngine .debug "predicate fault, record rejected"
        [c.rule.named, ("error", cause.message)]]
    | .ok _ => []

def Pass.events (r : Record) : Pass → List Event
  | [] => []
  | c :: p => c.events r ++ if (refusal? c r).isNone then Pass.events r p else []

def RuleStats.events (s : RuleStats) : List Event :=
  if s.rejected = 0 then []
  else [fromEngine .debug "rule rejections"
    [("rule", s.rule), ("condition", s.condition.word), ("rejected", toString s.rejected),
      ("faults", toString s.faults)]]

def FilterResult.events (elapsed : String) (r : FilterResult) : List Event :=
  fromEngine .info "filter pass complete"
    [("original_count", toString r.originalCount), ("filtered_count", toString r.filteredCount),
      ("faults", toString r.faultCount), ("duration_ms", elapsed)] ::
    r.stats.flatMap RuleStats.events

namespace Request

def sizeFields (r : Request) : Fields :=
  [("records", toString r.records.length), ("rules", toString r.rules.length)]

def passEvents (elapsed : String) (r : Request) : List Event :=
  let o := r.options.getD .standard
  let p := Pass.compile r.rules r.table o
  r.rules.flatMap (Rule.events (r.table.map Directory.ofTable) o) ++
    r.records.flatMap (fun record => p.events record) ++ r.run.events elapsed

def events (elapsed : String) (r : Request) : List Event :=
  if r.records.isEmpty || r.rules.isEmpty then
    [fromEngine .debug "nothing to filter, returning input unchanged" r.sizeFields]
  else (r.passEvents elapsed).map (Event.within ⟨.engine, "filter_pass", r.sizeFields⟩)

end Request

def documentEvents (elapsed text : String) : List Event :=
  let events := match Request.ofText text with
    | .ok request => request.events elapsed
    | .error cause => [fromBoundary .warn "rejecting malformed filter request"
        [("error", (Failure.malformed cause).text),
          ("salvaged", toString (salvage text).length)]]
  events.map (Event.within ⟨.commands, "filter_document", [("bytes", toString text.utf8ByteSize)]⟩)

end Screening

import Screening.Predicate

/-!
# Predicates as data

A predicate is written as an object: its kind, then its fields. An open bound
is null. It is read from such an object, in which the fields may stand in any
order and others are ignored, or from an array of the kind and the fields.
-/

set_option autoImplicit false

namespace Screening.Predicate

def boundToJson : Option Float → Json
  | some x => .float x
  | none => .null

def valuesToJson (values : List Value) : Json := .array (values.map Value.toJson)

def fields : Predicate → List (String × Json)
  | always => []
  | never => []
  | membership symbolField members =>
    [("symbol_field", .string symbolField), ("members", .strings members)]
  | equalsRaw field expected => [("field", .string field), ("expected", expected.toJson)]
  | equals field expected => [("field", .string field), ("expected", expected.toJson)]
  | oneOf field raw normal =>
    [("field", .string field), ("verbatim", valuesToJson raw), ("normalized", valuesToJson normal)]
  | range field least greatest =>
    [("field", .string field), ("min", boundToJson least), ("max", boundToJson greatest)]
  | moreThan field threshold => [("field", .string field), ("threshold", .float threshold)]
  | atMost field threshold => [("field", .string field), ("threshold", .float threshold)]

def toJson (p : Predicate) : Json := .object (("kind", .string p.kind.word) :: p.fields)

def kinds : List (String × Kind) :=
  [Kind.always, .never, .membership, .equalsRaw, .equals, .oneOf, .range, .moreThan, .atMost].map
    fun k => (k.word, k)

def Kind.fieldNames : Kind → List String
  | always => []
  | never => []
  | membership => ["symbol_field", "members"]
  | equalsRaw => ["field", "expected"]
  | equals => ["field", "expected"]
  | oneOf => ["field", "verbatim", "normalized"]
  | range => ["field", "min", "max"]
  | moreThan => ["field", "threshold"]
  | atMost => ["field", "threshold"]

def Kind.shape : Kind → String
  | always => ""
  | never => ""
  | membership => "struct variant Predicate::Membership with 2 elements"
  | equalsRaw => "struct variant Predicate::Matches with 2 elements"
  | equals => "struct variant Predicate::Equals with 2 elements"
  | oneOf => "struct variant Predicate::OneOf with 3 elements"
  | range => "struct variant Predicate::Range with 3 elements"
  | moreThan => "struct variant Predicate::Over with 2 elements"
  | atMost => "struct variant Predicate::Under with 2 elements"

def asValue : Json.Decoder Value := Value.decode "NormalizedValue"

def asSymbols : Json.Decoder (List String) := fun j => symbolSet <$> Json.asList Json.asText j

def asBound : Json.Decoder (Option Float) := Json.asOptional Json.asFloat

structure Draft where
  symbolField : Option String
  members : Option (List String)
  field : Option String
  expected : Option Value
  raw : Option (List Value)
  normal : Option (List Value)
  least : Option (Option Float)
  greatest : Option (Option Float)
  threshold : Option Float

def member (kind : Kind) (key : String) (j : Json) (d : Draft) : Except Json.Cause Draft :=
  if key ∉ kind.fieldNames then .ok d
  else if key = "symbol_field" then do
    return { d with symbolField := ← Json.decodeOnce key d.symbolField Json.asText j }
  else if key = "members" then do
    return { d with members := ← Json.decodeOnce key d.members asSymbols j }
  else if key = "field" then do
    return { d with field := ← Json.decodeOnce key d.field Json.asText j }
  else if key = "expected" then do
    return { d with expected := ← Json.decodeOnce key d.expected asValue j }
  else if key = "verbatim" then do
    return { d with raw := ← Json.decodeOnce key d.raw (Json.asList asValue) j }
  else if key = "normalized" then do
    return { d with normal := ← Json.decodeOnce key d.normal (Json.asList asValue) j }
  else if key = "min" then do
    return { d with least := ← Json.decodeOnce key d.least asBound j }
  else if key = "max" then do
    return { d with greatest := ← Json.decodeOnce key d.greatest asBound j }
  else do
    return { d with threshold := ← Json.decodeOnce key d.threshold Json.asFloat j }

def Draft.complete (d : Draft) : Kind → Except Json.Cause Predicate
  | .always => .ok always
  | .never => .ok never
  | .membership => do
    return membership (← Json.present "symbol_field" d.symbolField)
      (← Json.present "members" d.members)
  | .equalsRaw => do
    return equalsRaw (← Json.present "field" d.field) (← Json.present "expected" d.expected)
  | .equals => do
    return equals (← Json.present "field" d.field) (← Json.present "expected" d.expected)
  | .oneOf => do
    return oneOf (← Json.present "field" d.field) (← Json.present "verbatim" d.raw)
      (← Json.present "normalized" d.normal)
  | .range => do
    return range (← Json.present "field" d.field) (d.least.getD none) (d.greatest.getD none)
  | .moreThan => do
    return moreThan (← Json.present "field" d.field) (← Json.present "threshold" d.threshold)
  | .atMost => do
    return atMost (← Json.present "field" d.field) (← Json.present "threshold" d.threshold)

def ofItems (kind : Kind) (items : List Json) : Except Json.Cause Predicate := do
  let item {α : Type} (index : Nat) (decode : Json.Decoder α) : Except Json.Cause α :=
    Json.decodeItem index kind.shape items decode
  let p ← match kind with
    | .always => pure always
    | .never => pure never
    | .membership => do pure (membership (← item 0 Json.asText) (← item 1 asSymbols))
    | .equalsRaw => do pure (equalsRaw (← item 0 Json.asText) (← item 1 asValue))
    | .equals => do pure (equals (← item 0 Json.asText) (← item 1 asValue))
    | .oneOf => do
      pure (oneOf (← item 0 Json.asText) (← item 1 (Json.asList asValue))
        (← item 2 (Json.asList asValue)))
    | .range => do pure (range (← item 0 Json.asText) (← item 1 asBound) (← item 2 asBound))
    | .moreThan => do pure (moreThan (← item 0 Json.asText) (← item 1 Json.asFloat))
    | .atMost => do pure (atMost (← item 0 Json.asText) (← item 1 Json.asFloat))
  Json.noMoreItems kind.fieldNames.length items
  return p

def ofFields (kind : Kind) : Json → Except Json.Cause Predicate
  | .array items => ofItems kind items
  | .object members => do
    let start : Draft := ⟨none, none, none, none, none, none, none, none, none⟩
    (← Json.foldMembers (member kind) start members).complete kind
  | j => Json.wrong "internally tagged enum Predicate" j

def reader : Json.Nested Predicate := fun levels => do
  let (kind, fields) ←
    Json.tagged "kind" "internally tagged enum Predicate" (Json.variant kinds) levels
  Json.decoded (ofFields kind fields)

end Screening.Predicate

import Screening.Pass

/-!
# Responses

A response carries the records that passed, with the counts, or the records that
came in, with what went wrong. It is an object tagged by its status. The full
result of a pass has a row for each rule as well, which stays off the response.
-/

set_option autoImplicit false

namespace Screening

inductive Response where
  | success (records : List Record) (originalCount filteredCount : Nat)
  | error (records : List Record) (message : String)

def recordsToJson (records : List Record) : Json := .array (records.map Record.value)

namespace RuleStats

def toJson (s : RuleStats) : Json :=
  .object [("ruleName", .string s.rule), ("condition", .string s.condition.word),
    ("rejected", .natural s.rejected), ("faults", .natural s.faults)]

def shape : String := "struct RuleStats with 4 elements"

structure Draft where
  rule : Option String
  condition : Option Condition
  rejected : Option Nat
  faults : Option Nat

def member (levels : Nat) (key : String) (d : Draft) : Json.Reader Draft :=
  if key = "ruleName" then do
    return { d with rule := ← Json.once key d.rule Json.text }
  else if key = "condition" then do
    return { d with condition := ← Json.once key d.condition (Condition.reader levels) }
  else if key = "rejected" then do
    return { d with rejected := ← Json.once key d.rejected Json.count }
  else if key = "faults" then do
    return { d with faults := ← Json.once key d.faults Json.count }
  else do
    Json.skipMember
    return d

def fromObject : Json.Nested RuleStats := fun levels => do
  let d ← Json.members (member levels) ⟨none, none, none, none⟩
  return ⟨← Json.required "ruleName" d.rule, ← Json.required "condition" d.condition,
    ← Json.required "rejected" d.rejected, ← Json.required "faults" d.faults⟩

def fromArray : Json.Nested RuleStats := fun levels => do
  return ⟨← Json.requiredElement 0 shape Json.text,
    ← Json.requiredElement 1 shape (Condition.reader levels),
    ← Json.requiredElement 2 shape Json.count, ← Json.requiredElement 3 shape Json.count⟩

def reader : Json.Nested RuleStats := Json.structured "struct RuleStats" fromArray fromObject

end RuleStats

namespace FilterResult

def statsToJson (r : FilterResult) : Json := .array (r.stats.map RuleStats.toJson)

def toJson (r : FilterResult) : Json :=
  .object (
    [("filteredRecords", recordsToJson r.records), ("originalCount", .natural r.originalCount),
      ("filteredCount", .natural r.filteredCount)] ++
    (if r.stats.isEmpty then [] else [("ruleStats", r.statsToJson)]))

def response (r : FilterResult) : Response := .success r.records r.originalCount r.filteredCount

def shape : String := "struct FilterResult with 4 elements"

structure Draft where
  records : Option (List Record)
  originalCount : Option Nat
  filteredCount : Option Nat
  stats : Option (List RuleStats)

def member (levels : Nat) (key : String) (d : Draft) : Json.Reader Draft :=
  if key = "filteredRecords" then do
    return { d with records := ← Json.once key d.records (Json.list Record.reader levels) }
  else if key = "originalCount" then do
    return { d with originalCount := ← Json.once key d.originalCount Json.count }
  else if key = "filteredCount" then do
    return { d with filteredCount := ← Json.once key d.filteredCount Json.count }
  else if key = "ruleStats" then do
    return { d with stats := ← Json.once key d.stats (Json.list RuleStats.reader levels) }
  else do
    Json.skipMember
    return d

def fromObject : Json.Nested FilterResult := fun levels => do
  let d ← Json.members (member levels) ⟨none, none, none, none⟩
  return ⟨← Json.required "filteredRecords" d.records,
    ← Json.required "originalCount" d.originalCount,
    ← Json.required "filteredCount" d.filteredCount, d.stats.getD []⟩

def fromArray : Json.Nested FilterResult := fun levels => do
  let records ← Json.requiredElement 0 shape (Json.list Record.reader levels)
  let originalCount ← Json.requiredElement 1 shape Json.count
  let filteredCount ← Json.requiredElement 2 shape Json.count
  let stats ← Json.element false (Json.list RuleStats.reader levels)
  return ⟨records, originalCount, filteredCount, stats.getD []⟩

def reader : Json.Nested FilterResult := Json.structured "struct FilterResult" fromArray fromObject

end FilterResult

namespace Response

inductive Status where
  | success
  | error
  deriving DecidableEq, Repr

def Status.word : Status → String
  | success => "success"
  | error => "error"

def statuses : List (String × Status) := [Status.success, .error].map fun s => (s.word, s)

def isSuccess : Response → Bool
  | success .. => true
  | error .. => false

def records : Response → List Record
  | success records _ _ => records
  | error records _ => records

def originalCount : Response → Nat
  | success _ originalCount _ => originalCount
  | error records _ => records.length

def toJson : Response → Json
  | success records originalCount filteredCount =>
    .object [("status", .string Status.success.word), ("filteredRecords", recordsToJson records),
      ("originalCount", .natural originalCount), ("filteredCount", .natural filteredCount)]
  | error records message =>
    .object [("status", .string Status.error.word), ("originalRecords", recordsToJson records),
      ("errorMessage", .string message)]

def text (r : Response) (pretty : Bool) : String :=
  if pretty then r.toJson.indented else r.toJson.compact

def asRecords : Json.Decoder (List Record) := Json.asList Record.decode

structure Draft where
  records : Option (List Record)
  originalCount : Option Nat
  filteredCount : Option Nat
  message : Option String

def successMember (key : String) (j : Json) (d : Draft) : Except Json.Cause Draft :=
  if key = "filteredRecords" then do
    return { d with records := ← Json.decodeOnce key d.records asRecords j }
  else if key = "originalCount" then do
    return { d with originalCount := ← Json.decodeOnce key d.originalCount Json.asCount j }
  else if key = "filteredCount" then do
    return { d with filteredCount := ← Json.decodeOnce key d.filteredCount Json.asCount j }
  else .ok d

def errorMember (key : String) (j : Json) (d : Draft) : Except Json.Cause Draft :=
  if key = "originalRecords" then do
    return { d with records := ← Json.decodeOnce key d.records asRecords j }
  else if key = "errorMessage" then do
    return { d with message := ← Json.decodeOnce key d.message Json.asText j }
  else .ok d

def ofMembers (members : List (String × Json)) : Status → Except Json.Cause Response
  | .success => do
    let d ← Json.foldMembers successMember ⟨none, none, none, none⟩ members
    return success (← Json.present "filteredRecords" d.records)
      (← Json.present "originalCount" d.originalCount)
      (← Json.present "filteredCount" d.filteredCount)
  | .error => do
    let d ← Json.foldMembers errorMember ⟨none, none, none, none⟩ members
    return error (← Json.present "originalRecords" d.records)
      (← Json.present "errorMessage" d.message)

def ofItems (items : List Json) : Status → Except Json.Cause Response
  | .success => do
    let shape := "struct variant FilterResponse::Success with 3 elements"
    let records ← Json.decodeItem 0 shape items asRecords
    let originalCount ← Json.decodeItem 1 shape items Json.asCount
    let filteredCount ← Json.decodeItem 2 shape items Json.asCount
    Json.noMoreItems 3 items
    return success records originalCount filteredCount
  | .error => do
    let shape := "struct variant FilterResponse::Error with 2 elements"
    let records ← Json.decodeItem 0 shape items asRecords
    let message ← Json.decodeItem 1 shape items Json.asText
    Json.noMoreItems 2 items
    return error records message

def ofFields (status : Status) : Json → Except Json.Cause Response
  | .array items => ofItems items status
  | .object members => ofMembers members status
  | j => Json.wrong "internally tagged enum FilterResponse" j

def reader : Json.Nested Response := fun levels => do
  let (status, fields) ←
    Json.tagged "status" "internally tagged enum FilterResponse" (Json.variant statuses) levels
  Json.decoded (ofFields status fields)

end Response

end Screening

import Screening.Pass

/-!
# Requests

A request is a batch of records with the rules to filter it by, and perhaps a
table of groups and options. Records and rules that are missing or null are
empty. It is read from an object or from an array of its fields.
-/

set_option autoImplicit false

namespace Screening

structure Request where
  records : List Record
  rules : List Rule
  table : Option MembershipTable
  options : Option Options

namespace Request

def empty : Request := ⟨[], [], none, none⟩

def toJson (r : Request) : Json :=
  .object (
    [("records", .array (r.records.map Record.value)),
      ("rules", .array (r.rules.map Rule.toJson))] ++
    (r.table.map fun t => ("membershipTable", t.toJson)).toList ++
    (r.options.map fun o => ("options", o.toJson)).toList)

def text (r : Request) : String := r.toJson.compact

def run (r : Request) : FilterResult :=
  runFilter r.records r.rules r.table (r.options.getD .standard)

def listOrNull {α : Type} (item : Json.Nested α) : Json.Nested (List α) := fun levels =>
  (·.getD []) <$> Json.optional (Json.list item levels)

structure Draft where
  records : Option (List Record)
  rules : Option (List Rule)
  table : Option (Option MembershipTable)
  options : Option (Option Options)

def Draft.complete (d : Draft) : Request :=
  ⟨d.records.getD [], d.rules.getD [], d.table.getD none, d.options.getD none⟩

def readRecords : Json.Nested (List Record) := listOrNull Record.reader

def readRules : Json.Nested (List Rule) := listOrNull Rule.reader

def readTable : Json.Nested (Option MembershipTable) := fun levels =>
  Json.optional (MembershipTable.reader levels)

def readOptions : Json.Nested (Option Options) := fun levels =>
  Json.optional (Options.reader levels)

def member (levels : Nat) (key : String) (d : Draft) : Json.Reader Draft :=
  if key = "records" then do
    return { d with records := ← Json.once key d.records (readRecords levels) }
  else if key = "rules" then do
    return { d with rules := ← Json.once key d.rules (readRules levels) }
  else if key = "membershipTable" then do
    return { d with table := ← Json.once key d.table (readTable levels) }
  else if key = "options" then do
    return { d with options := ← Json.once key d.options (readOptions levels) }
  else do
    Json.skipMember
    return d

def fromObject : Json.Nested Request := fun levels =>
  Draft.complete <$> Json.members (member levels) ⟨none, none, none, none⟩

def fromArray : Json.Nested Request := fun levels => do
  match ← Json.element true (readRecords levels) with
  | none => return empty
  | some records => match ← Json.element false (readRules levels) with
    | none => return { empty with records := records }
    | some rules => match ← Json.element false (readTable levels) with
      | none => return { empty with records := records, rules := rules }
      | some table =>
        let options ← Json.element false (readOptions levels)
        return ⟨records, rules, table, options.getD none⟩

def reader : Json.Nested Request := Json.structured "struct FilterRequest" fromArray fromObject

def ofText (text : String) : Except Json.ReadError Request := (reader Json.levels).run text

def isEmpty (r : Request) : Bool :=
  r.records.isEmpty && r.rules.isEmpty && r.table.isNone && r.options.isNone

end Request

end Screening

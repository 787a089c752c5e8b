import Screening.Value

/-!
# Rules

A rule names a field of a record, a condition, and the value to compare with.
A condition that is left out, or is not one of the known words, is unspecified:
the field is compared for equality if there is a value to compare with.
-/

set_option autoImplicit false

namespace Screening

inductive Condition where
  | exactly
  | moreThan
  | atMost
  | between
  | membership
  | any
  | unspecified
  deriving DecidableEq, Repr

namespace Condition

def word : Condition → String
  | exactly => "exactly"
  | moreThan => "over"
  | atMost => "under"
  | between => "between"
  | membership => "membership"
  | any => "any"
  | unspecified => "unspecified"

def named : List Condition := [exactly, moreThan, atMost, between, membership, any]

def ofWord? (s : String) : Option Condition := named.find? fun c => c.word == s

def ofWord (s : String) : Condition := (ofWord? s).getD unspecified

def parse? (s : String) : Option Condition :=
  ofWord? (String.ofList (Text.lowerChars (Text.trimChars s.toList)))

def parseFault (s : String) : String := "Unknown rule condition: " ++ s

def reader : Json.Nested Condition := Json.unitVariant ofWord

end Condition

structure Rule where
  name : String
  condition : Condition
  value : Value
  deriving Repr

namespace Rule

def bounds? (r : Rule) : Option (Value × Value) :=
  match r.condition, r.value with
  | .between, .list [least, greatest] => some (least, greatest)
  | _, _ => none

def toJson (r : Rule) : Json :=
  .object [("name", .string r.name), ("condition", .string r.condition.word),
    ("value", r.value.toJson)]

structure Draft where
  name : Option String
  condition : Option Condition
  value : Option Value

def member (levels : Nat) (key : String) (d : Draft) : Json.Reader Draft :=
  if key = "name" then do
    return { d with name := ← Json.once "name" d.name Json.text }
  else if key = "condition" then do
    return { d with condition := ← Json.once "condition" d.condition (Condition.reader levels) }
  else if key = "value" then do
    return { d with value := ← Json.once "value" d.value (Value.reader "RawValue" levels) }
  else do
    Json.skipMember
    return d

def fromObject : Json.Nested Rule := fun levels => do
  let d ← Json.members (member levels) ⟨none, none, none⟩
  return ⟨← Json.required "name" d.name, d.condition.getD .unspecified, d.value.getD .null⟩

def fromArray : Json.Nested Rule := fun levels => do
  let name ← Json.requiredElement 0 "struct Rule with 3 elements" Json.text
  match ← Json.element false (Condition.reader levels) with
  | none => return ⟨name, .unspecified, .null⟩
  | some condition =>
    let value ← Json.element false (Value.reader "RawValue" levels)
    return ⟨name, condition, value.getD .null⟩

def reader : Json.Nested Rule := Json.structured "struct Rule" fromArray fromObject

end Rule

end Screening

import Screening.Json.Decode
import Screening.Json.Printer
import Screening.Text.Blank
import Screening.Text.Case

/-!
# Values

A rule is written with a value and a record field is compared as one: nothing,
a truth value, a number, a text, or a list of values. Objects are no values.
Two values are the same when they have one form and equal parts; numbers are
compared as doubles.
-/

set_option autoImplicit false

namespace Screening

inductive Value where
  | null
  | bool (value : Bool)
  | number (value : Float)
  | text (value : String)
  | list (items : List Value)
  deriving Repr

namespace Value

mutual

def same : Value → Value → Bool
  | null, null => true
  | bool a, bool b => a == b
  | number x, number y => x == y
  | text s, text t => s == t
  | list as, list bs => sameItems as bs
  | _, _ => false

def sameItems : List Value → List Value → Bool
  | [], [] => true
  | a :: as, b :: bs => same a b && sameItems as bs
  | _, _ => false

end

mutual

def toJson : Value → Json
  | null => .null
  | bool b => .bool b
  | number x => .float x
  | text s => .string s
  | list items => .array (itemsToJson items)

def itemsToJson : List Value → List Json
  | [] => []
  | v :: rest => toJson v :: itemsToJson rest

end

mutual

def ofJson? : Json → Option Value
  | .null => some null
  | .bool b => some (bool b)
  | .number n => some (number n.toFloat)
  | .string s => some (text s)
  | .array items => (itemsOfJson? items).map list
  | .object _ => none

def itemsOfJson? : List Json → Option (List Value)
  | [] => some []
  | j :: rest => do return (← ofJson? j) :: (← itemsOfJson? rest)

end

def decode (type : String) : Json.Decoder Value := fun j =>
  match ofJson? j with
  | some v => .ok v
  | none => .error (.noVariant type)

def reader (type : String) : Json.Nested Value := fun levels => do
  Json.decoded (decode type (← Json.value levels))

def boolText (b : Bool) : String := if b then "true" else "false"

mutual

def bare : Value → String
  | null => "null"
  | bool b => boolText b
  | number x => Decimal.display x
  | text s => s
  | list items => "[" ++ ", ".intercalate (bareItems items) ++ "]"

def bareItems : List Value → List String
  | [] => []
  | v :: rest => bare v :: bareItems rest

end

mutual

def quoted : Value → String
  | null => "null"
  | bool b => boolText b
  | number x => Decimal.display x
  | text s => Text.quote s
  | list items => "[" ++ ", ".intercalate (quotedItems items) ++ "]"

def quotedItems : List Value → List String
  | [] => []
  | v :: rest => quoted v :: quotedItems rest

end

def ofInt (i : Int) : Value := number (Float.ofInt i)

def texts (items : List String) : Value := list (items.map text)

def number? : Value → Option Float
  | number x => some x
  | _ => none

def text? : Value → Option String
  | text s => some s
  | _ => none

def list? : Value → Option (List Value)
  | list items => some items
  | _ => none

def isNull : Value → Bool
  | null => true
  | _ => false

def isUnbounded : Value → Bool
  | null => true
  | text s => s.toList.all Text.isBlank
  | _ => false

def isAnyLiteral : Value → Bool
  | text s => s == "any"
  | _ => false

def isWildcard : Value → Bool
  | text s => Text.sameFolded (Text.trim s) "any"
  | _ => false

end Value

end Screening

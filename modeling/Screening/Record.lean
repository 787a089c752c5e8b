import Screening.Normalize

/-!
# Records

A record is any JSON value with its objects sorted, and is written out as it
came. Only an object has fields; a record that is something else has none. A
field is looked up under its exact name, or else under the first key that is
the same name in another case.
-/

set_option autoImplicit false

namespace Screening

structure Record where
  value : Json
  sorted : value.isSorted = true

inductive FieldValue where
  | number (value : Float)
  | text (value : String)
  | absent
  | unsupported (value : Json)
  deriving Repr

namespace FieldValue

def ofJson : Json → FieldValue
  | .null => absent
  | .number n => number n.toFloat
  | .string s => text s
  | j => unsupported j

def isAbsent : FieldValue → Bool
  | absent => true
  | _ => false

/-- The field as a value, not normalized. Arrays and objects amount to nothing. -/
def raw : FieldValue → Value
  | number x => .number x
  | text s => .text s
  | absent => .null
  | unsupported (.bool b) => .bool b
  | unsupported _ => .null

def normal (field : FieldValue) : Value := normalize field.raw

end FieldValue

namespace Record

def ofJson (j : Json) : Record := ⟨j.sort, j.isSorted_sort⟩

def empty : Record := ⟨.object [], rfl⟩

def reader : Json.Nested Record := fun levels => ofJson <$> Json.value levels

def decode : Json.Decoder Record := fun j => .ok (ofJson j)

def members? (r : Record) : Option (List (String × Json)) :=
  match r.value with
  | .object members => some members
  | _ => none

def members (r : Record) : List (String × Json) := r.members?.getD []

def find? (r : Record) (name : String) : Option Json :=
  (r.members.lookup name).or ((r.members.find? fun m => Text.sameFolded m.1 name).map (·.2))

def field (r : Record) (name : String) : FieldValue :=
  match r.find? name with
  | some j => .ofJson j
  | none => .absent

def canonicalSymbol (s : String) : String := Text.upper (Text.trim s)

def isBlankText (s : String) : Bool := s.toList.all Text.isBlank

def symbol? (r : Record) (name : String) : Option String :=
  match r.field name with
  | .text s => if isBlankText s then none else some (canonicalSymbol s)
  | _ => none

def insert (r : Record) (name : String) (value : Json) : Record :=
  -- A record that is no object gives way to a new object.
  ofJson (.object (Keyed.insert name value r.members))

def ofFields (fields : List (String × Json)) : Record := ofJson (.object fields)

def size (r : Record) : Nat := r.members.length

def isObject (r : Record) : Bool := r.members?.isSome

def same (r s : Record) : Bool := r.value.same s.value

def text (r : Record) : String := r.value.compact

end Record

end Screening

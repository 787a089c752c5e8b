import Screening.Json.Typed

/-!
# Decoding values that were already read

The fields of a tagged value are decoded after the whole value was read, so a
cause found here has no place in the text. A structure is an object, or an array
of all its fields in order.
-/

set_option autoImplicit false

namespace Screening.Json

abbrev Decoder (α : Type) := Json → Except Cause α

def wrong {α : Type} (expected : String) : Decoder α := fun j =>
  .error (.wrongType (found j) expected)

def asText : Decoder String
  | .string s => .ok s
  | j => wrong "a string" j

def asFloat : Decoder Float
  | .number n => .ok n.toFloat
  | j => wrong "f64" j

def asCount : Decoder Nat
  | .number (.whole w) =>
    if w.val < 0 then .error (.wrongValue (.whole w.val) "usize") else .ok w.val.toNat
  | j => wrong "usize" j

def asOptional {α : Type} (decode : Decoder α) : Decoder (Option α)
  | .null => .ok none
  | j => some <$> decode j

def asList {α : Type} (decode : Decoder α) : Decoder (List α)
  | .array items => items.mapM decode
  | j => wrong "a sequence" j

def decodeOnce {α : Type} (name : String) (earlier : Option α) (decode : Decoder α) :
    Decoder (Option α) := fun j =>
  match earlier with
  | some _ => .error (.repeatedField name)
  | none => some <$> decode j

def present {α : Type} (name : String) : Option α → Except Cause α
  | some a => .ok a
  | none => .error (.missingField name)

def foldMembers {σ : Type} (member : String → Json → σ → Except Cause σ) (start : σ)
    (members : List (String × Json)) : Except Cause σ :=
  members.foldlM (fun state m => member m.1 m.2 state) start

def itemCount : Nat → String
  | 1 => "1 element in sequence"
  | n => toString n ++ " elements in sequence"

def decodeItem {α : Type} (index : Nat) (expected : String) (items : List Json)
    (decode : Decoder α) : Except Cause α :=
  match items[index]? with
  | some j => decode j
  | none => .error (.wrongLength index expected)

def noMoreItems (fields : Nat) (items : List Json) : Except Cause Unit :=
  if fields < items.length then .error (.wrongLength items.length (itemCount fields)) else .ok ()

def decoded {α : Type} (result : Except Cause α) : Reader α :=
  match result with
  | .ok a => pure a
  | .error cause => floating cause

end Screening.Json

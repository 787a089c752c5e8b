import Screening.Json.Skip

/-!
# Reading values of a known type

A structure is read from an object, whose unknown keys are skipped and whose
known keys may stand there once, or from an array of its fields in order. A
scalar of the wrong type is read to its end before it is refused; an array or
object of the wrong type is refused at its bracket.
-/

set_option autoImplicit false

namespace Screening.Json

def foundNumber : Number → Found
  | .whole w => .whole w.val
  | .float x => .float x

def found : Json → Found
  | .null => .null
  | .bool b => .bool b
  | .number n => foundNumber n
  | .string s => .string s
  | .array _ => .list
  | .object _ => .map

def settled {α : Type} (reader : Reader α) : Reader α := fun s =>
  match reader s with
  | .error e => .error (e.settle id)
  | .ok result => .ok result

def refuse {α : Type} (expected : String) : Reader α := fun s =>
  match s with
  | '[' :: _ => .error (.placed (.wrongType .list expected) ⟨s, 0⟩)
  | '{' :: _ => .error (.placed (.wrongType .map expected) ⟨s, 0⟩)
  | s => settled (do floating (.wrongType (found (← valueAround none)) expected)) s

def text : Reader String := fun s =>
  match skipSpace s with
  | '"' :: rest => stringBody rest
  | s => refuse "a string" s

def count : Reader Nat := settled fun s =>
  let number (n : Number) : Reader Nat := match n with
    | .whole w =>
      if w.val < 0 then floating (.wrongValue (.whole w.val) "usize") else pure w.val.toNat
    | .float x => floating (.wrongType (.float x) "usize")
  match skipSpace s with
  | '-' :: rest => (do number (← numberBody true)) rest
  | s =>
    if startsWithDigit s then (do number (← numberBody false)) s else refuse "usize" s

def unit : Reader Unit := fun s =>
  match skipSpace s with
  | 'n' :: rest => keyword () ['u', 'l', 'l'] rest
  | s => refuse "unit" s

def optional {α : Type} (reader : Reader α) : Reader (Option α) := fun s =>
  match skipSpace s with
  | 'n' :: rest => keyword none ['u', 'l', 'l'] rest
  | s => (some <$> reader) s

abbrev Nested (α : Type) := Nat → Reader α

def enter {α : Type} (contents : Nested α) : Nested α
  -- One level down, or a fault at the bracket that stands here.
  | 0 => faultAhead .tooDeep
  | levels + 1 => fun s => contents levels (s.drop 1)

def list {α : Type} (item : Nested α) : Nested (List α) := fun levels s =>
  match skipSpace s with
  | '[' :: rest => enter (fun levels => inList (items (item levels) true)) levels ('[' :: rest)
  | s => refuse "a sequence" s

def map {α σ : Type} (member : String → α → σ → σ) (start : σ) (item : Nested α) : Nested σ :=
  fun levels s => match skipSpace s with
  | '{' :: rest =>
    let contents (levels : Nat) : Reader σ :=
      inObject (members (fun key state => do colon; return member key (← item levels) state) start)
    enter contents levels ('{' :: rest)
  | s => refuse "a map" s

def once {α : Type} (name : String) (earlier : Option α) (item : Reader α) : Reader (Option α) :=
  match earlier with
  | some _ => floating (.repeatedField name)
  | none => do colon; return some (← item)

def skipMember : Reader Unit := do colon; skip

def required {α : Type} (name : String) : Option α → Reader α
  | some a => pure a
  | none => floating (.missingField name)

def element {α : Type} (first : Bool) (item : Reader α) : Reader (Option α) := do
  if ← nextItem first then return some (← item) else return none

def requiredElement {α : Type} (index : Nat) (expected : String) (item : Reader α) : Reader α := do
  match ← element (index == 0) item with
  | some a => pure a
  | none => floating (.wrongLength index expected)

def pair {α β : Type} (first : Nested α) (second : Nested β) : Nested (α × β) := fun levels s =>
  let shape := "a tuple of size 2"
  match skipSpace s with
  | '[' :: rest =>
    let contents (levels : Nat) : Reader (α × β) := inList do
      return (← requiredElement 0 shape (first levels), ← requiredElement 1 shape (second levels))
    enter contents levels ('[' :: rest)
  | s => refuse shape s

def structured {α : Type} (expected : String) (fromArray fromObject : Nested α) : Nested α :=
  fun levels s => match skipSpace s with
  | '[' :: rest => enter (fun levels => inList (fromArray levels)) levels ('[' :: rest)
  | '{' :: rest => enter (fun levels => inObject (fromObject levels)) levels ('{' :: rest)
  | s => refuse expected s

structure Tagged (τ : Type) where
  tag : Option τ
  fields : List (String × Json)

def tagged {τ : Type} (key expected : String) (tag : Reader τ) : Nested (τ × Json) :=
  let fromArray (levels : Nat) : Reader (τ × Json) := do
    match ← element true tag with
    | none => floating (.missingField key)
    | some t => return (t, .array (← items (value levels) false))
  let member (levels : Nat) (name : String) (read : Tagged τ) : Reader (Tagged τ) :=
    if name = key then do
      return { read with tag := ← once key read.tag tag }
    else do
      colon
      return { read with fields := (name, ← value levels) :: read.fields }
  let fromObject (levels : Nat) : Reader (τ × Json) := do
    let read ← members (member levels) ⟨none, []⟩
    return (← required key read.tag, .object read.fields.reverse)
  structured expected fromArray fromObject

def variantName : Reader String := fun s =>
  match skipSpace s with
  | '"' :: rest => stringBody rest
  | s => refuse "variant identifier" s

def variantEnd : Reader Unit := fun s =>
  match skipSpace s with
  | [] => faultHere .endInObject 0 []
  | c :: rest => if c = '}' then .ok ((), rest) else faultHere .noValue 0 (c :: rest)

def unitVariant {α : Type} (ofName : String → α) : Nested α := fun levels s =>
  match skipSpace s with
  | [] => faultAhead .endInValue []
  | c :: rest =>
    if c = '"' then (ofName <$> stringBody) rest
    else if c = '{' then
      let contents (_ : Nat) : Reader α := do
        let name ← variantName
        colon
        unit
        variantEnd
        pure (ofName name)
      enter contents levels (c :: rest)
    else faultAhead .noValue (c :: rest)

def variant {τ : Type} (known : List (String × τ)) : Reader τ := settled fun s =>
  let named (name : String) : Reader τ := match known.lookup name with
    | some t => pure t
    | none => floating (.unknownVariant name (known.map (·.1)))
  (do named (← variantName)) s

end Screening.Json

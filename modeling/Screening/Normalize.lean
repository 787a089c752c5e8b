import Screening.Decimal.Literal
import Screening.Value

/-!
# Normal values

Texts that stand for numbers are replaced by them, so that `1.5B`, `12%` and
`1e3` can be compared. A percentage keeps its face value. A keyword is never
a number, and a text that cannot be read as one stays as it was written.
-/

set_option autoImplicit false

namespace Screening

inductive Reading where
  | keyword
  | number (value : Float)
  | badPercentage
  | badNumber
  | words
  deriving Repr

namespace Reading

def keywords : List String := ["any", "call", "put", "stock", "etf"]

/-- The power of a thousand a letter stands for. The Kelvin sign counts as the
letter K in another case, but not as a thousand. -/
def unitFactor? (c : Char) : Option Float :=
  if c = 'B' ∨ c = 'b' then some 1000000000.0
  else if c = 'M' ∨ c = 'm' then some 1000000.0
  else if c = 'K' ∨ c = 'k' then some 1000.0
  else if c = '\u212a' then some 1.0
  else none

def isDigits (cs : List Char) : Bool := cs ≠ [] && cs.all Char.isDigit

def isPlainDecimal (cs : List Char) : Bool :=
  let unsigned := match cs with
    | '-' :: rest => rest
    | rest => rest
  match unsigned.dropWhile Char.isDigit with
  | '.' :: fraction => isDigits (unsigned.takeWhile Char.isDigit) && isDigits fraction
  | rest => isDigits unsigned && rest = []

def splitUnit (cs : List Char) : List Char × Float :=
  match cs.getLast? with
  | none => (cs, 1.0)
  | some c => match unitFactor? c with
    | some factor => (cs.dropLast, factor)
    | none => (cs, 1.0)

def magnitude? (cs : List Char) : Option Float :=
  match splitUnit cs with
  | (decimal, factor) =>
    if isPlainDecimal decimal then (Decimal.readFinite? decimal).map (· * factor) else none

def isSign (c : Char) : Bool := c = '-' || c = '+'

def looksNumeric (cs : List Char) : Bool :=
  match cs.dropWhile isSign with
  | c :: _ => c.isDigit || c = '.'
  | [] => false

def percentage? (cs : List Char) : Option (List Char) :=
  if cs.getLast? = some '%' then some cs.dropLast else none

def ofTrimmed (cs : List Char) : Reading :=
  if String.ofList (Text.lowerChars cs) ∈ keywords then keyword
  else match percentage? cs with
    | some part => match Decimal.readFinite? (Text.trimChars part) with
      | some x => number x
      | none => badPercentage
    | none => match (magnitude? cs).or (Decimal.readFinite? cs) with
      | some x => number x
      | none => if looksNumeric cs then badNumber else words

def ofText (s : String) : Reading := ofTrimmed (Text.trimChars s.toList)

end Reading

def normalizeText (s : String) : Value :=
  match Reading.ofText s with
  | .number x => .number x
  | _ => .text s

mutual

def normalize : Value → Value
  | .text s => normalizeText s
  | .list items => .list (normalizeItems items)
  | v => v

def normalizeItems : List Value → List Value
  | [] => []
  | v :: rest => normalize v :: normalizeItems rest

end

theorem normalizeItems_eq_map (items : List Value) :
    normalizeItems items = items.map normalize := by
  induction items with
  | nil => rfl
  | cons v rest ih => simp [normalizeItems, ih]

end Screening

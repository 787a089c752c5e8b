import Screening.Decimal.Literal
import Screening.Log.Event
import Screening.Log.Pattern
import Screening.Text.Blank

/-!
# Directives

A directive is `target[span]=threshold`, where every part may be missing, and
where a field may stand in braces after the span, with a value or without one.
A threshold, or a target, may also stand alone.
-/

set_option autoImplicit false

namespace Screening.Log

inductive Wanted where
  | count (n : Nat)
  | other
  deriving DecidableEq, Repr

structure FieldTest where
  name : String
  wanted : Option Wanted
  deriving DecidableEq, Repr

structure Directive where
  target : Option String
  span : Option String
  field : Option FieldTest
  threshold : Threshold
  deriving DecidableEq, Repr

def greatestCount : Nat := 18446744073709551615

def Wanted.read? (cs : List Char) : Option Wanted :=
  match (Threshold.readNumber? cs).filter (· ≤ greatestCount) with
  | some n => some (.count n)
  | none =>
    if (Decimal.Literal.read? cs).isSome || Pattern.isWellFormed cs then some .other else none

def FieldTest.read? (cs : List Char) : Option FieldTest :=
  let name := String.ofList (cs.takeWhile (· ≠ '='))
  match cs.dropWhile (· ≠ '=') with
  | [] => some ⟨name, none⟩
  | _ :: rest => (Wanted.read? (rest.takeWhile (· ≠ '='))).map fun wanted => ⟨name, some wanted⟩

structure Stretch where
  start : Nat
  stop : Nat
  deriving DecidableEq, Repr

def byteCount (cs : List Char) : Nat := (cs.map Char.utf8Size).foldr (· + ·) 0

def afterBytes? : Nat → List Char → Option (List Char)
  | 0, cs => some cs
  | _, [] => none
  | n + 1, c :: cs => if c.utf8Size ≤ n + 1 then afterBytes? (n + 1 - c.utf8Size) cs else none

def firstBytes? : Nat → List Char → Option (List Char)
  | 0, _ => some []
  | _, [] => none
  | n + 1, c :: cs =>
    if c.utf8Size ≤ n + 1 then (firstBytes? (n + 1 - c.utf8Size) cs).map (c :: ·) else none

def Stretch.of? (s : Stretch) (cs : List Char) : Option (List Char) :=
  (afterBytes? s.start cs).bind (firstBytes? (s.stop - s.start))

inductive Outline where
  | word
  | parts (target span field : Option Stretch) (threshold : Option Nat)
  deriving DecidableEq, Repr

namespace Outline

def isTargetStart (c : Char) : Bool := c ∈ ['-', ':', '_'] || Text.isAlphanumeric c

def isTargetEnd (c : Char) : Bool := c = '=' || c = '['

def isSpanEnd (c : Char) : Bool := c = ']' || c = '\x7b'

def isFieldEnd (c : Char) : Bool := c = '\x7d'

def afterSpan? (parts : Option Nat → Outline) (place : Nat) : List Char → Option Outline
  | [] => some (parts none)
  | '=' :: _ => some (parts (some (place + 1)))
  | _ => none

def fieldAt? (target span : Option Stretch) (place : Nat) (cs : List Char) : Option Outline :=
  let field := cs.takeWhile (!isFieldEnd ·)
  let stop := place + byteCount field
  match field, cs.dropWhile (!isFieldEnd ·) with
  | _ :: _, _ :: ']' :: rest => afterSpan? (parts target span (some ⟨place, stop⟩)) (stop + 2) rest
  | _, _ => none

def spanAt? (target : Option Stretch) (place : Nat) (cs : List Char) : Option Outline :=
  let name := cs.takeWhile (!isSpanEnd ·)
  let span : Stretch := ⟨place, place + byteCount name⟩
  match cs.dropWhile (!isSpanEnd ·) with
  | [] => none
  | ']' :: rest => afterSpan? (parts target (some span) none) (span.stop + 1) rest
  | _ :: rest => fieldAt? target (if name = [] then none else some span) (span.stop + 1) rest

def ofChars? : List Char → Option Outline
  | [] => none
  | '[' :: rest => spanAt? none 1 rest
  | first :: rest =>
    if !isTargetStart first then none
    else
      let target : Stretch := ⟨0, byteCount (first :: rest.takeWhile (!isTargetEnd ·))⟩
      match rest.dropWhile (!isTargetEnd ·) with
      | [] => some word
      | '=' :: _ => some (parts (some target) none none (some (target.stop + 1)))
      | _ :: rest => spanAt? (some target) (target.stop + 1) rest

end Outline

def readPart? {α : Type} (read : List Char → Option α) (cs : List Char) :
    Option Stretch → Option (Option α)
  | none => some none
  | some stretch => ((stretch.of? cs).bind read).map some

namespace Directive

def thresholdAt? (cs : List Char) : Option Nat → Option Threshold
  | none => some (some .trace)
  | some place => (afterBytes? place cs).bind fun word =>
    if word = [] then some (some .trace) else Threshold.parse? (String.ofList word)

def text (cs : List Char) : Option String := some (String.ofList cs)

/-- The parts of a directive are found in the text without the blanks around it,
and are taken from the text with them, where blanks at its start have moved them. -/
def parse? (s : String) : Option Directive :=
  let cs := s.toList
  match Outline.ofChars? (Text.trimChars cs) with
  | none => none
  | some .word => match Threshold.parse? s with
    | some threshold => some ⟨none, none, none, threshold⟩
    | none => some ⟨some s, none, none, some .trace⟩
  | some (.parts target span field threshold) => do
    return ⟨← readPart? text cs target, ← readPart? text cs span,
      ← readPart? FieldTest.read? cs field, ← thresholdAt? cs threshold⟩

end Directive

end Screening.Log

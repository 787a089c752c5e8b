import Screening.Text.Alphanumeric

/-!
# Patterns

A directive may ask the value of a field to match a pattern. Only whether a
pattern is well formed matters here: counts are never matched against one. It
is read one character after another, keeping what is open. A pattern stands
between braces, so no brace closes inside of it, and forms that need one are
never complete. Word boundaries are not supported.
-/

set_option autoImplicit false

namespace Screening.Log

namespace Pattern

inductive Start where
  | nothing
  | character (c : Char)
  | several
  deriving DecidableEq, Repr

inductive Place where
  | outside
  | inSet
  | endOfRange (start : Start)
  deriving DecidableEq, Repr

inductive State where
  | outside (repeatable : Bool)
  | escape (place : Place)
  | code (place : Place) (digits value : Nat)
  | property (place : Place)
  | opened
  | question
  | capital
  | angle
  | name
  | flags (given : List Char) (negated : Bool)
  | setStart
  | setDashes (dashed : Bool)
  | inSet (last : Start)
  | dash (start : Start)
  deriving DecidableEq, Repr

structure Reading where
  groups : Nat := 0
  sets : Nat := 0
  state : State := .outside false
  deriving DecidableEq, Repr

namespace Reading

def part? (r : Reading) (part : Start) : Place → Option Reading
  | .outside => some { r with state := .outside true }
  | .inSet => some { r with state := .inSet part }
  | .endOfRange start => match start, part with
    | .character first, .character last =>
      if first.toNat ≤ last.toNat then some { r with state := .inSet .nothing } else none
    | _, _ => none

def signs : List Char := ['\t', '\n', '\r', '\x07', '\x0b', '\x0c']

def control? (c : Char) : Option Char :=
  (['t', 'n', 'r', 'a', 'v', 'f'].zip signs).lookup c

def escape? (r : Reading) (place : Place) (c : Char) : Option Reading :=
  match control? c with
  | some sign => r.part? (.character sign) place
  | none =>
    if c ∈ ['d', 'D', 's', 'S', 'w', 'W'] then r.part? .several place
    else if c ∈ ['p', 'P'] then some { r with state := .property place }
    else if c = 'x' then some { r with state := .code place 2 0 }
    else if c = 'u' then some { r with state := .code place 4 0 }
    else if c = 'U' then some { r with state := .code place 8 0 }
    else if c ∈ ['A', 'z'] ∧ place = .outside then r.part? .several place
    else if c.toNat < 0x80 && !c.isAlphanum && c ≠ '<' && c ≠ '>' then
      r.part? (.character c) place
    else none

def hexValue? (c : Char) : Option Nat :=
  if c.isDigit then some (c.toNat - '0'.toNat)
  else if c.toLower ∈ ['a', 'b', 'c', 'd', 'e', 'f'] then some (c.toLower.toNat - 'a'.toNat + 10)
  else none

def code? (r : Reading) (place : Place) (digits value : Nat) (c : Char) : Option Reading :=
  (hexValue? c).bind fun d =>
    let value := value * 16 + d
    if digits > 1 then some { r with state := .code place (digits - 1) value }
    else if value.isValidChar then r.part? (.character (Char.ofNat value)) place
    else none

def property? (r : Reading) (place : Place) (c : Char) : Option Reading :=
  if c.toUpper ∈ ['C', 'L', 'M', 'N', 'P', 'S', 'Z'] then r.part? .several place else none

def outside? (r : Reading) (repeatable : Bool) (c : Char) : Option Reading :=
  if c = '(' then some { r with state := .opened }
  else if c = ')' then
    if r.groups = 0 then none else some { r with groups := r.groups - 1, state := .outside true }
  else if c = '[' then some { r with sets := 1, state := .setStart }
  else if c = '|' then some { r with state := .outside false }
  else if c = '\\' then some { r with state := .escape .outside }
  else if c ∈ ['?', '*', '+'] then if repeatable then some r else none
  else if c = '\x7b' then none
  else some { r with state := .outside true }

def openGroup (r : Reading) : Reading :=
  { r with groups := r.groups + 1, state := .outside false }

def flags? (r : Reading) (given : List Char) (negated : Bool) (c : Char) : Option Reading :=
  -- The flags after a dash are switched off.
  let dangling := given.head? = some '-'
  if c = ':' then if dangling then none else some r.openGroup
  else if c = ')' then
    if dangling || given.isEmpty then none else some { r with state := .outside false }
  else if c = '-' then
    if negated then none else some { r with state := .flags ('-' :: given) true }
  else if c ∈ ['i', 'm', 's', 'U', 'u', 'R', 'x'] ∧ c ∉ given then
    some { r with state := .flags (c :: given) negated }
  else none

def name? (r : Reading) (c : Char) : Option Reading :=
  if c = '>' then some r.openGroup
  else if c ∈ ['_', '.', '[', ']'] || Text.isAlphanumeric c then some r
  else none

def inSet? (r : Reading) (last : Start) (c : Char) : Option Reading :=
  if c = ']' then
    if r.sets ≤ 1 then some { r with sets := 0, state := .outside true }
    else some { r with sets := r.sets - 1, state := .inSet .nothing }
  else if c = '[' then some { r with sets := r.sets + 1, state := .setStart }
  else if c = '\\' then some { r with state := .escape .inSet }
  else if c = '-' ∧ last ≠ .nothing then some { r with state := .dash last }
  else some { r with state := .inSet (.character c) }

def setStart? (r : Reading) (dashed : Bool) (c : Char) : Option Reading :=
  -- A set starts with any number of dashes, or with a bracket, that stand for themselves.
  if c = '-' then some { r with state := .setDashes true }
  else if c = ']' && !dashed then some { r with state := .inSet .nothing }
  else r.inSet? .nothing c

def dash? (r : Reading) (start : Start) (c : Char) : Option Reading :=
  -- A dash is part of a range unless the set ends with it or it is doubled.
  if c = ']' then r.inSet? .nothing c
  else if c = '-' then some { r with state := .inSet .nothing }
  else if c = '\\' then some { r with state := .escape (.endOfRange start) }
  else r.part? (.character c) (.endOfRange start)

def read? (r : Reading) (c : Char) : Option Reading :=
  match r.state with
  | .outside repeatable => r.outside? repeatable c
  | .escape place => r.escape? place c
  | .code place digits value => r.code? place digits value c
  | .property place => r.property? place c
  | .opened =>
    if c = '?' then some { r with state := .question } else r.openGroup.outside? false c
  | .question =>
    if c = 'P' then some { r with state := .capital }
    else if c = '<' then some { r with state := .angle }
    else r.flags? [] false c
  | .capital => if c = '<' then some { r with state := .angle } else none
  | .angle => if c = '_' || Text.isAlphanumeric c && !c.isDigit then
      some { r with state := .name } else none
  | .name => r.name? c
  | .flags given negated => r.flags? given negated c
  | .setStart =>
    if c = '^' then some { r with state := .setDashes false } else r.setStart? false c
  | .setDashes dashed => r.setStart? dashed c
  | .inSet last => r.inSet? last c
  | .dash start => r.dash? start c

def isComplete (r : Reading) : Bool :=
  match r.state with
  | .outside _ => r.groups = 0
  | _ => false

end Reading

def isWellFormed (cs : List Char) : Bool :=
  match cs.foldlM Reading.read? {} with
  | some r => r.isComplete
  | none => false

end Pattern

end Screening.Log

import Screening.Text.Case

/-!
# Log levels

A level says how much an event matters, a threshold which levels are let
through. A threshold is written as a word in any case or as a digit from 0 to 5;
an empty text means errors only.
-/

set_option autoImplicit false

namespace Screening.Log

inductive Level where
  | error
  | warn
  | info
  | debug
  | trace
  deriving DecidableEq, Repr

namespace Level

def all : List Level := [error, warn, info, debug, trace]

def rank : Level → Nat
  | error => 1
  | warn => 2
  | info => 3
  | debug => 4
  | trace => 5

def word : Level → String
  | error => "error"
  | warn => "warn"
  | info => "info"
  | debug => "debug"
  | trace => "trace"

def label : Level → String
  | error => "ERROR"
  | warn => " WARN"
  | info => " INFO"
  | debug => "DEBUG"
  | trace => "TRACE"

end Level

abbrev Threshold := Option Level

namespace Threshold

def rank : Threshold → Nat
  | none => 0
  | some level => level.rank

def word : Threshold → String
  | none => "off"
  | some level => level.word

def allows (t : Threshold) (level : Level) : Bool := level.rank ≤ rank t

def most (ts : List Threshold) : Threshold :=
  ts.foldl (fun best t => if rank best < rank t then t else best) none

def all : List Threshold := none :: Level.all.map some

def ofRank? (n : Nat) : Option Threshold := all.find? fun t => rank t == n

def readNumber? (cs : List Char) : Option Nat :=
  let digits := match cs with
    | '+' :: rest => rest
    | rest => rest
  if digits ≠ [] ∧ digits.all Char.isDigit then
    some (digits.foldl (fun n c => n * 10 + (c.toNat - '0'.toNat)) 0)
  else none

def ofWord? (s : String) : Option Threshold :=
  if s = "" then some (some .error) else all.find? fun t => Text.sameFolded s (word t)

def parse? (s : String) : Option Threshold :=
  ((readNumber? s.toList).bind ofRank?).or (ofWord? s)

def parseFault : String :=
  "error parsing level filter: expected one of \"off\", \"error\", \"warn\", \"info\", " ++
    "\"debug\", \"trace\", or a number 0-5"

end Threshold

end Screening.Log

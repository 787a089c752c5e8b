import Screening.Text.Width

/-!
# Escape sequences

A terminal takes an escape sequence as a command and shows nothing of it. A text
that is cut into lines is mended so that each line ends what it began: a line
begins with the sequences still in force and ends with a reset if some are.
-/

set_option autoImplicit false

namespace Screening.Text

def escape : Char := '\x1b'

def bell : Char := '\x07'

def isBetween (first last : Nat) (c : Char) : Bool := first ≤ c.toNat && c.toNat ≤ last

def isParameter : Char → Bool := isBetween 0x30 0x3F

def isIntermediate : Char → Bool := isBetween 0x20 0x2F

def isOpener (c : Char) : Bool := c ∈ ['P', 'X', '[', ']', '^', '_']

def controlLength (cs : List Char) : Option Nat :=
  let parameters := cs.takeWhile isParameter
  let rest := cs.dropWhile isParameter
  match rest.dropWhile isIntermediate with
  | [] => none
  | c :: _ =>
    if isBetween 0x40 0x7E c then
      some (parameters.length + (rest.takeWhile isIntermediate).length + 1)
    else none

def commandLength (cs : List Char) : Option Nat :=
  -- The length of a system command after its bracket: up to a bell, or up to the escape that
  -- starts its end.
  let body := cs.takeWhile fun c => c ≠ bell && c ≠ escape
  (cs[body.length]?).map fun c => if c = bell then body.length + 1 else body.length

def plainLength (cs : List Char) : Option Nat :=
  let intermediates := cs.takeWhile isIntermediate
  match cs.dropWhile isIntermediate with
  | [] => none
  | c :: _ =>
    if isBetween 0x30 0x7E c && !(intermediates.isEmpty && isOpener c) then
      some (intermediates.length + 1)
    else none

def escapeLength : List Char → Nat
  | first :: rest =>
    if first ≠ escape then 0
    else match rest with
      | '[' :: rest => ((controlLength rest).map (· + 2)).getD 0
      | ']' :: rest => ((commandLength rest).map (· + 2)).getD 0
      | rest => ((plainLength rest).map (· + 1)).getD 0
  | [] => 0

def shownAfter : Nat → List Char → List Char
  | _, [] => []
  | n + 1, _ :: rest => shownAfter n rest
  | 0, c :: rest => match escapeLength (c :: rest) with
    | 0 => c :: shownAfter 0 rest
    | n + 1 => shownAfter n rest

def shown (s : String) : String := String.ofList (shownAfter 0 s.toList)

def escapesAfter : Nat → List Char → List (List Char)
  | _, [] => []
  | n + 1, _ :: rest => escapesAfter n rest
  | 0, c :: rest => match escapeLength (c :: rest) with
    | 0 => escapesAfter 0 rest
    | n + 1 => (c :: rest.take n) :: escapesAfter n rest

def escapes (s : String) : List String := (escapesAfter 0 s.toList).map String.ofList

def reset : String := "\x1b[0m"

def inForce (before : List String) (line : String) : List String :=
  (escapes line).foldl (fun s e => if e = reset then [] else s ++ [e]) before

def mended : List String → List String → List String
  | _, [] => []
  | before, line :: rest =>
    let after := inForce before line
    (String.join before ++ line ++ if after.isEmpty then "" else reset) :: mended after rest

def shownWidth (s : String) : Nat := width (shown s)

end Screening.Text

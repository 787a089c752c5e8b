import Screening.Json.Reader

/-!
# Skipping a value

A value that nobody asked for is only checked for its shape: it may be nested
to any depth, its numbers may be of any size, and its escapes need four digits
but no partner. What is open is kept in a list of frames, innermost first.
-/

set_option autoImplicit false

namespace Screening.Json

inductive Frame where
  | list
  | map
  deriving DecidableEq, Repr

def Frame.closing : Frame → Char
  | .list => ']'
  | .map => '}'

def Frame.unclosed : Frame → Cause
  | .list => .endInList
  | .map => .endInObject

def Frame.noComma : Frame → Cause
  | .list => .noCommaInList
  | .map => .noCommaInObject

def skipEscape : Reader Unit
  | [] => faultHere .endInString 0 []
  | c :: rest =>
    if c = 'u' then (do let _ ← hexEscape) rest
    else if c ∈ ['"', '\\', '/', 'b', 'f', 'n', 'r', 't'] then .ok ((), rest)
    else faultHere .badEscape 1 (c :: rest)

def skipStringWithin : List Char → Reader Unit
  | [] => faultHere .endInString 0
  | _ :: clock => fun s => match s with
    | [] => faultHere .endInString 0 []
    | c :: rest =>
      if c = '"' then .ok ((), rest)
      else if c = '\\' then (do skipEscape; skipStringWithin clock) rest
      else if c.toNat < 0x20 then faultHere .controlCharacter 0 (c :: rest)
      else skipStringWithin clock rest

def skipString : Reader Unit := fun s => skipStringWithin s s

def skipDigits (fault : Reader Unit) : Reader Unit := fun s =>
  if startsWithDigit s then .ok ((), s.dropWhile Char.isDigit) else fault s

def badDigit : Reader Unit := fun s => faultHere .badNumber (if s = [] then 0 else 1) s

def skipExponent : Reader Unit
  | '+' :: rest => skipDigits badDigit rest
  | '-' :: rest => skipDigits badDigit rest
  | s => skipDigits badDigit s

def skipExponentPart : Reader Unit
  | c :: rest => if isExponentMark c then skipExponent rest else .ok ((), c :: rest)
  | [] => .ok ((), [])

def skipFraction : Reader Unit
  | '.' :: rest => (do skipDigits (faultAhead .badNumber); skipExponentPart) rest
  | s => skipExponentPart s

def skipNumber : Reader Unit
  | '0' :: rest => if startsWithDigit rest then faultAhead .badNumber rest else skipFraction rest
  | s => (do skipDigits badDigit; skipFraction) s

def skipStart : Reader (Option Frame) := fun s =>
  match skipSpace s with
  | [] => faultAhead .endInValue []
  | c :: rest =>
    if c = 'n' then keyword none ['u', 'l', 'l'] rest
    else if c = 't' then keyword none ['r', 'u', 'e'] rest
    else if c = 'f' then keyword none ['a', 'l', 's', 'e'] rest
    else if c = '-' then (do skipNumber; pure none) rest
    else if c.isDigit then (do skipNumber; pure none) (c :: rest)
    else if c = '"' then (do skipString; pure none) rest
    else if c = '[' then .ok (some .list, rest)
    else if c = '{' then .ok (some .map, rest)
    else faultAhead .noValue (c :: rest)

def skipKey : Frame → Reader Unit
  | .list => pure ()
  | .map => fun s => match skipSpace s with
    | [] => faultAhead .endInObject []
    | c :: rest =>
      if c = '"' then (do skipString; colon) rest else faultAhead .keyNotString (c :: rest)

/-- The way from the end of a value, or from an opening bracket, to the start of
the next value: the frames open there, or nothing when all are closed. -/
def skipBetween : List Frame → Bool → Reader (Option (List Frame))
  | [], _ => pure none
  | frame :: outer, afterValue => fun s => match skipSpace s with
    | [] => faultAhead frame.unclosed []
    | c :: rest =>
      if c = ',' ∧ afterValue = true then (do skipKey frame; pure (some (frame :: outer))) rest
      else if c = frame.closing then skipBetween outer true rest
      else if afterValue then faultAhead frame.noComma (c :: rest)
      else (do skipKey frame; pure (some (frame :: outer))) (c :: rest)

def skipWithin : List Char → List Frame → Reader Unit
  | [], _ => faultAhead .endInValue
  | _ :: clock, frames => do
    let next ← match ← skipStart with
      | some frame => skipBetween (frame :: frames) false
      | none => skipBetween frames true
    match next with
    | some frames => skipWithin clock frames
    | none => pure ()

def skip : Reader Unit := fun s => skipWithin s [] s

end Screening.Json

import Screening.Json.Basic
import Screening.Json.Fault

/-!
# Reading JSON text

A reader takes the characters not yet read and returns a value with those that
remain, or a fault. Nesting is limited: a reader of values is given the number
of levels it may still enter. Loops are bounded by the length of the text,
which every turn shortens.

A number without fraction and exponent that fits in sixty-four bits is kept
whole. Any other is a double computed from at most twenty digits and a power of
ten by one multiplication or division, which is not always the nearest double.
-/

set_option autoImplicit false

namespace Screening.Json

def Reader (α : Type) := List Char → Except Fault (α × List Char)

instance : Monad Reader where
  pure a := fun s => .ok (a, s)
  bind m f := fun s => match m s with
    | .ok (a, rest) => f a rest
    | .error e => .error e

def faultAhead {α : Type} (cause : Cause) : Reader α :=
  -- The next byte counts as read if there is one.
  fun s => .error (.placed cause ⟨s, if s = [] then 0 else 1⟩)

def faultHere {α : Type} (cause : Cause) (beyond : Nat) : Reader α :=
  fun s => .error (.placed cause ⟨s, beyond⟩)

def floating {α : Type} (cause : Cause) : Reader α := fun s => .error (.floating cause s)

def isSpace (c : Char) : Bool := c = ' ' || c = '\n' || c = '\t' || c = '\r'

def skipSpace (s : List Char) : List Char := s.dropWhile isSpace

def keyword {α : Type} (value : α) : List Char → Reader α
  -- The first wrong character is read as far as its first byte.
  | [], s => .ok (value, s)
  | c :: word, s => match s with
    | [] => faultHere .endInValue 0 []
    | d :: rest => if d = c then keyword value word rest else faultHere .badKeyword 1 (d :: rest)

def hexValue? (c : Char) : Option Nat :=
  if '0' ≤ c ∧ c ≤ '9' then some (c.toNat - '0'.toNat)
  else if 'a' ≤ c ∧ c ≤ 'f' then some (c.toNat - 'a'.toNat + 10)
  else if 'A' ≤ c ∧ c ≤ 'F' then some (c.toNat - 'A'.toNat + 10)
  else none

def hexFour? (a b c d : Char) : Option Nat := do
  return (← hexValue? a) * 4096 + (← hexValue? b) * 256 + (← hexValue? c) * 16 + (← hexValue? d)

def hexEscape : Reader Nat
  -- Four bytes are read even if they are no digits.
  | a :: b :: c :: d :: rest =>
    match hexFour? a b c d with
    | some n => .ok (n, rest)
    | none => faultHere .badEscape 4 (a :: b :: c :: d :: rest)
  | s => if byteSize s < 4 then faultHere .endInString 0 [] else faultHere .badEscape 4 s

def isHighSurrogate (n : Nat) : Bool := 0xD800 ≤ n && n ≤ 0xDBFF

def isLowSurrogate (n : Nat) : Bool := 0xDC00 ≤ n && n ≤ 0xDFFF

def joinSurrogates (high low : Nat) : Char :=
  Char.ofNat ((high - 0xD800) * 0x400 + (low - 0xDC00) + 0x10000)

def lowSurrogate (high : Nat) : Reader Char
  | [] => faultHere .endInString 0 []
  | '\\' :: rest => match rest with
    | [] => faultHere .endInString 0 []
    | 'u' :: rest => match hexEscape rest with
      | .ok (low, rest) =>
        if isLowSurrogate low then .ok (joinSurrogates high low, rest)
        else faultHere .loneSurrogate 0 rest
      | .error e => .error e
    | s => faultHere .cutSurrogate 1 s
  | s => faultHere .cutSurrogate 1 s

def unicodeEscape : Reader Char := do
  let n ← hexEscape
  if isLowSurrogate n then faultHere .loneSurrogate 0
  else if isHighSurrogate n then lowSurrogate n
  else pure (Char.ofNat n)

def escape : Reader Char
  | [] => faultHere .endInString 0 []
  | c :: rest =>
    if c = '"' then .ok ('"', rest)
    else if c = '\\' then .ok ('\\', rest)
    else if c = '/' then .ok ('/', rest)
    else if c = 'b' then .ok ('\x08', rest)
    else if c = 'f' then .ok ('\x0c', rest)
    else if c = 'n' then .ok ('\n', rest)
    else if c = 'r' then .ok ('\r', rest)
    else if c = 't' then .ok ('\t', rest)
    else if c = 'u' then unicodeEscape rest
    else faultHere .badEscape 1 (c :: rest)

/-- The characters up to the closing quote. Every step takes a character of the
text, so a clock that began as that text does not run out before it. -/
def stringRest : List Char → Reader (List Char)
  | [] => faultHere .endInString 0
  | _ :: clock => fun s => match s with
    | [] => faultHere .endInString 0 []
    | c :: rest =>
      if c = '"' then .ok ([], rest)
      else if c = '\\' then (do return (← escape) :: (← stringRest clock)) rest
      else if c.toNat < 0x20 then faultHere .controlCharacter 1 (c :: rest)
      else (do return c :: (← stringRest clock)) rest

def stringBody : Reader String := fun s => (String.ofList <$> stringRest s) s

def digitOf (c : Char) : Nat := c.toNat - '0'.toNat

def significand (n : Nat) : List Char → Nat × Nat × List Char
  | [] => (n, 0, [])
  | c :: rest =>
    if c.isDigit ∧ n * 10 + digitOf c ≤ 18446744073709551615 then
      match significand (n * 10 + digitOf c) rest with
      | (m, count, rest) => (m, count + 1, rest)
    else (n, 0, c :: rest)

def powerOfTen (k : Nat) : Float := Float.ofScientific 1 false k

def shrink : Nat → Float → Float
  -- Division by the largest power of ten, repeated until nothing is left.
  | 0, x => x
  | k + 1, x => if x == 0 then x else shrink k (x / powerOfTen 308)

def scale? (n : Nat) (exponent : Int) : Option Float :=
  let x := Float.ofNat n
  if 0 ≤ exponent then
    if exponent ≤ 308 then
      let y := x * powerOfTen exponent.toNat
      if y.isInf then none else some y
    else if n = 0 then some x else none
  else
    let k := (-exponent).toNat
    let steps := (k - 1) / 308
    some (shrink steps x / powerOfTen (k - 308 * steps))

def signedFloat (negative : Bool) (x : Float) : Number := .float (if negative then -x else x)

def scaled (negative : Bool) (n : Nat) (exponent : Int) : Reader Number :=
  match scale? n exponent with
  | some x => pure (signedFloat negative x)
  | none => faultHere .numberOutOfRange 0

def exponentDigits (negative small : Bool) (n : Nat) (exponent : Int) (e : Nat) : Reader Number
  -- An exponent above the limit ends the number at once.
  | [] => scaled negative n (if small then exponent - e else exponent + e) []
  | c :: rest =>
    if c.isDigit then
      let next := e * 10 + digitOf c
      if next ≤ 2147483647 then exponentDigits negative small n exponent next rest
      else if n ≠ 0 ∧ small = false then faultHere .numberOutOfRange 0 rest
      else .ok (signedFloat negative 0, rest.dropWhile Char.isDigit)
    else scaled negative n (if small then exponent - e else exponent + e) (c :: rest)

def exponentFirst (negative small : Bool) (n : Nat) (exponent : Int) : Reader Number
  | [] => faultHere .endInValue 0 []
  | c :: rest =>
    if c.isDigit then exponentDigits negative small n exponent (digitOf c) rest
    else faultHere .badNumber 1 (c :: rest)

def exponentPart (negative : Bool) (n : Nat) (exponent : Int) : Reader Number
  | '+' :: rest => exponentFirst negative false n exponent rest
  | '-' :: rest => exponentFirst negative true n exponent rest
  | s => exponentFirst negative false n exponent s

def isExponentMark (c : Char) : Bool := c = 'e' || c = 'E'

def afterDigits (negative : Bool) (n : Nat) (exponent : Int) : Reader Number
  | c :: rest =>
    if isExponentMark c then exponentPart negative n exponent rest
    else scaled negative n exponent (c :: rest)
  | [] => scaled negative n exponent []

def fraction (negative : Bool) (n : Nat) (exponent : Int) : Reader Number
  -- Digits beyond the significand are dropped.
  | [] => faultAhead .endInValue []
  | c :: rest =>
    if c.isDigit then
      match significand n (c :: rest) with
      | (m, count, rest) =>
        afterDigits negative m (exponent - count) (rest.dropWhile Char.isDigit)
    else faultAhead .badNumber (c :: rest)

def wholeNumber (negative : Bool) (n : Nat) : Number :=
  if negative ∧ n = 0 then .float (-0.0)
  else match Whole.ofInt? (if negative then -n else n) with
    | some w => .whole w
    | none => signedFloat negative (Float.ofNat n)

def afterWhole (negative : Bool) (n surplus : Nat) : Reader Number
  | [] => if surplus = 0 then .ok (wholeNumber negative n, []) else scaled negative n surplus []
  | c :: rest =>
    if c = '.' then fraction negative n surplus rest
    else if isExponentMark c then exponentPart negative n surplus rest
    else if surplus = 0 then .ok (wholeNumber negative n, c :: rest)
    else scaled negative n surplus (c :: rest)

def startsWithDigit : List Char → Bool
  | c :: _ => c.isDigit
  | [] => false

def numberBody (negative : Bool) : Reader Number
  | [] => faultHere .endInValue 0 []
  | c :: rest =>
    if c = '0' then
      if startsWithDigit rest then faultAhead .badNumber rest else afterWhole negative 0 0 rest
    else if c.isDigit then
      match significand (digitOf c) rest with
      | (n, _, rest) =>
        afterWhole negative n (rest.takeWhile Char.isDigit).length (rest.dropWhile Char.isDigit)
    else faultHere .badNumber 1 (c :: rest)

def leaveList (s : List Char) : List Char :=
  match skipSpace s with
  | ']' :: rest => rest
  | ',' :: rest => skipSpace rest
  | rest => rest

def leaveObject (s : List Char) : List Char :=
  match skipSpace s with
  | '}' :: rest => rest
  | rest => rest

def closeList : Reader Unit := fun s =>
  match skipSpace s with
  | [] => faultAhead .endInList []
  | c :: rest =>
    if c = ']' then .ok ((), rest)
    else if c = ',' then
      match skipSpace rest with
      | ']' :: rest => faultAhead .trailingComma (']' :: rest)
      | rest => faultAhead .trailingCharacters rest
    else faultAhead .trailingCharacters (c :: rest)

def closeObject : Reader Unit := fun s =>
  match skipSpace s with
  | [] => faultAhead .endInObject []
  | c :: rest =>
    if c = '}' then .ok ((), rest)
    else if c = ',' then faultAhead .trailingComma (c :: rest)
    else faultAhead .trailingCharacters (c :: rest)

/-- The contents of an array or object whose opening bracket was read, and its
end. A fault that floats in the contents is settled after the end was tried. -/
def enclosed {α : Type} (leave : List Char → List Char) (close : Reader Unit)
    (contents : Reader α) : Reader α := fun s =>
  match contents s with
  | .error e => .error (e.settle leave)
  | .ok (a, rest) => (do close; pure a) rest

def inList {α : Type} (contents : Reader α) : Reader α := enclosed leaveList closeList contents

def inObject {α : Type} (contents : Reader α) : Reader α :=
  enclosed leaveObject closeObject contents

def nextItem (first : Bool) : Reader Bool := fun s =>
  match skipSpace s with
  | [] => faultAhead .endInList []
  | c :: rest =>
    if c = ']' then .ok (false, c :: rest)
    else if first then .ok (true, c :: rest)
    else if c = ',' then
      match skipSpace rest with
      | [] => faultAhead .endInValue []
      | d :: rest =>
        if d = ']' then faultAhead .trailingComma (d :: rest) else .ok (true, d :: rest)
    else faultAhead .noCommaInList (c :: rest)

def itemsWithin {α : Type} (item : Reader α) : List Char → Bool → Reader (List α)
  | [], _ => faultAhead .endInList
  | _ :: clock, first => do
    if ← nextItem first then return (← item) :: (← itemsWithin item clock false) else return []

def items {α : Type} (item : Reader α) (first : Bool) : Reader (List α) :=
  fun s => itemsWithin item s first s

def nextKey (first : Bool) : Reader (Option String) := fun s =>
  match skipSpace s with
  | [] => faultAhead .endInObject []
  | c :: rest =>
    if c = '}' then .ok (none, c :: rest)
    else if first then
      if c = '"' then (some <$> stringBody) rest else faultAhead .keyNotString (c :: rest)
    else if c = ',' then
      match skipSpace rest with
      | [] => faultAhead .endInValue []
      | d :: rest =>
        if d = '"' then (some <$> stringBody) rest
        else if d = '}' then faultAhead .trailingComma (d :: rest)
        else faultAhead .keyNotString (d :: rest)
    else faultAhead .noCommaInObject (c :: rest)

def colon : Reader Unit := fun s =>
  match skipSpace s with
  | [] => faultAhead .endInObject []
  | c :: rest => if c = ':' then .ok ((), rest) else faultAhead .noColon (c :: rest)

def membersWithin {σ : Type} (member : String → σ → Reader σ) : List Char → Bool → σ → Reader σ
  | [], _, _ => faultAhead .endInObject
  | _ :: clock, first, state => do
    match ← nextKey first with
    | none => return state
    | some key => membersWithin member clock false (← member key state)

/-- The members up to the end of an object. Each is read, from its colon on, by
`member`, which is given its key and what the earlier members amounted to. -/
def members {σ : Type} (member : String → σ → Reader σ) (start : σ) : Reader σ :=
  fun s => membersWithin member s true start s

def valueAround (inner : Option (Reader Json)) : Reader Json := fun s =>
  match skipSpace s with
  -- Without a reader for what is inside, no array or object may be entered.
  | [] => faultAhead .endInValue []
  | c :: rest =>
    if c = 'n' then keyword .null ['u', 'l', 'l'] rest
    else if c = 't' then keyword (.bool true) ['r', 'u', 'e'] rest
    else if c = 'f' then keyword (.bool false) ['a', 'l', 's', 'e'] rest
    else if c = '-' then (number <$> numberBody true) rest
    else if c.isDigit then (number <$> numberBody false) (c :: rest)
    else if c = '"' then (string <$> stringBody) rest
    else if c = '[' then match inner with
      | none => faultAhead .tooDeep (c :: rest)
      | some item => inList (array <$> items item true) rest
    else if c = '{' then match inner with
      | none => faultAhead .tooDeep (c :: rest)
      | some item =>
        let member (key : String) (read : List (String × Json)) :
            Reader (List (String × Json)) := do
          colon
          return (key, ← item) :: read
        inObject (do return .object (← members member []).reverse) rest
    else faultAhead .noValue (c :: rest)

def value : Nat → Reader Json
  | 0 => valueAround none
  | levels + 1 => valueAround (some (value levels))

def levels : Nat := 127

def textEnd : Reader Unit := fun s =>
  match skipSpace s with
  | [] => .ok ((), [])
  | s => faultAhead .trailingCharacters s

def Reader.run {α : Type} (reader : Reader α) (text : String) : Except ReadError α :=
  match (do let a ← reader; textEnd; pure a : Reader α) text.toList with
  | .ok (a, _) => .ok a
  | .error e => .error (e.error text.toList)

def ofText (text : String) : Except ReadError Json := (value levels).run text

end Screening.Json

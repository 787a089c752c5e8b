/-!
# Written decimal numbers

A literal is an optional sign followed by digits with an optional fraction and
an optional power of ten, or by one of the words `inf`, `infinity` and `nan` in
any case. Its value is the double nearest to the number it writes, a tie going
to the even neighbour.
-/

set_option autoImplicit false

namespace Screening.Decimal

inductive Literal where
  | finite (negative : Bool) (digits : Nat) (exponent : Int)
  | infinite (negative : Bool)
  | nan
  deriving DecidableEq, Repr

def digitValue (c : Char) : Nat := c.toNat - '0'.toNat

def natOfDigits (cs : List Char) : Nat := cs.foldl (fun n c => n * 10 + digitValue c) 0

def digitCount (n : Nat) : Nat := (Nat.toDigits 10 n).length

def readExponent? : List Char → Option Int
  | [] => some 0
  | e :: rest =>
    if e = 'e' ∨ e = 'E' then
      let (sign, digits) : Int × List Char := match rest with
        | '-' :: ds => (-1, ds)
        | '+' :: ds => (1, ds)
        | ds => (1, ds)
      if digits ≠ [] ∧ digits.all Char.isDigit then some (sign * natOfDigits digits) else none
    else none

def splitDigits (cs : List Char) : List Char × List Char × List Char :=
  match cs.dropWhile Char.isDigit with
  | '.' :: rest =>
    (cs.takeWhile Char.isDigit, rest.takeWhile Char.isDigit, rest.dropWhile Char.isDigit)
  | rest => (cs.takeWhile Char.isDigit, [], rest)

def readNumber? (negative : Bool) (cs : List Char) : Option Literal :=
  match splitDigits cs with
  | (whole, fraction, rest) =>
    if whole = [] ∧ fraction = [] then none
    else (readExponent? rest).map fun exponent =>
      .finite negative (natOfDigits (whole ++ fraction)) (exponent - fraction.length)

def readWord? (negative : Bool) (cs : List Char) : Option Literal :=
  let word := String.ofList (cs.map Char.toLower)
  if word = "inf" ∨ word = "infinity" then some (.infinite negative)
  else if word = "nan" then some .nan
  else none

def readUnsigned? (negative : Bool) (cs : List Char) : Option Literal :=
  (readNumber? negative cs).or (readWord? negative cs)

def Literal.read? : List Char → Option Literal
  | '-' :: cs => readUnsigned? true cs
  | '+' :: cs => readUnsigned? false cs
  | cs => readUnsigned? false cs

def infinity : Float := 1.0 / 0.0

/-- The double nearest to `digits · 10 ^ exponent`. Numbers far beyond either end
of the range are decided by their magnitude alone. -/
def nearest (digits : Nat) (exponent : Int) : Float :=
  if digits = 0 then 0.0
  else if digitCount digits + exponent > 310 then infinity
  else if digitCount digits + exponent < -330 then 0.0
  else Float.ofScientific digits (exponent < 0) exponent.natAbs

def signed (negative : Bool) (x : Float) : Float := if negative then -x else x

def Literal.toFloat : Literal → Float
  | .finite negative digits exponent => signed negative (nearest digits exponent)
  | .infinite negative => signed negative infinity
  | .nan => 0.0 / 0.0

def readFinite? (cs : List Char) : Option Float :=
  ((Literal.read? cs).map Literal.toFloat).filter Float.isFinite

end Screening.Decimal

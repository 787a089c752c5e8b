import Screening.Decimal.Shortest

/-!
# How a number is laid out

A layout says which of two equally near digits is taken, for which exponents
the digits are written around a plain decimal point, and whether a whole number
keeps a fraction of zero. There are two: the plain one for people, which never
uses an exponent, and the one for data, which uses one outside a narrow range.
-/

set_option autoImplicit false

namespace Screening.Decimal

structure Layout where
  tie : Tie
  /-- The least and the greatest exponent written without one; none means all. -/
  positional : Option (Int × Int)
  wholeFraction : Bool
  deriving DecidableEq, Repr

def Layout.plain : Layout := ⟨.up, none, false⟩

def Layout.data : Layout := ⟨.even, some (-5, 15), true⟩

def zeros (n : Nat) : List Char := List.replicate n '0'

def Layout.point (layout : Layout) (digits : List Char) (exponent : Int) : List Char :=
  if exponent < 0 then
    ['0', '.'] ++ zeros (-exponent - 1).toNat ++ digits
  else
    let whole := exponent.toNat + 1
    if digits.length ≤ whole then
      digits ++ zeros (whole - digits.length) ++ (if layout.wholeFraction then ['.', '0'] else [])
    else digits.take whole ++ ['.'] ++ digits.drop whole

def scientific (digits : List Char) (exponent : Int) : List Char :=
  let fraction := digits.drop 1
  digits.take 1 ++ (if fraction = [] then [] else '.' :: fraction) ++
    ['e', if exponent < 0 then '-' else '+'] ++ Nat.toDigits 10 exponent.natAbs

def Layout.digits (layout : Layout) (digits : List Char) (exponent : Int) : List Char :=
  match layout.positional with
  | none => layout.point digits exponent
  | some (least, greatest) =>
    if least ≤ exponent ∧ exponent ≤ greatest then layout.point digits exponent
    else scientific digits exponent

def Layout.magnitude (layout : Layout) (x : Float) : List Char :=
  let b := Binary.ofFloat x
  if b.mantissa = 0 then layout.digits ['0'] 0
  else
    let d := b.shortest layout.tie
    let digits := Nat.toDigits 10 d.digits
    layout.digits digits (d.exponent + digits.length - 1)

def isNegative (x : Float) : Bool := 9223372036854775808 ≤ x.toBits.toNat

def Layout.write (layout : Layout) (x : Float) : List Char :=
  if x.isNaN then ['N', 'a', 'N']
  else
    (if isNegative x then ['-'] else []) ++
      (if x.isInf then ['i', 'n', 'f'] else layout.magnitude x)

def display (x : Float) : String := String.ofList (Layout.plain.write x)

end Screening.Decimal

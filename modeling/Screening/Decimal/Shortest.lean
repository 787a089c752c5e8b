/-!
# The shortest digits of a double

A finite positive double is `m · 2 ^ q`. The decimal numbers that read back as
it form an interval around it, whose ends belong to it when `m` is even. The
digits chosen are the fewest with a point in that interval, and of two such
points the nearer. All comparisons are exact, in natural numbers.
-/

set_option autoImplicit false

namespace Screening.Decimal

inductive Tie where
  | up
  | even
  deriving DecidableEq, Repr

structure Binary where
  mantissa : Nat
  exponent : Int
  deriving DecidableEq, Repr

def leading : Nat := 4503599627370496

def Binary.ofFloat (x : Float) : Binary :=
  let bits := x.toBits.toNat
  let fraction : Nat := bits % leading
  let field : Nat := bits / leading % 2048
  if field = 0 then ⟨fraction, -1074⟩ else ⟨fraction + leading, (field : Int) - 1075⟩

structure Digits where
  digits : Nat
  exponent : Int
  deriving DecidableEq, Repr

def twoTo (e : Int) : Nat := Nat.pow 2 e.toNat

def tenTo (e : Int) : Nat := Nat.pow 10 e.toNat

def Binary.decimalExponent (b : Binary) : Int :=
  let scaled := b.mantissa * twoTo b.exponent * tenTo 400 / twoTo (-b.exponent)
  ((Nat.toDigits 10 scaled).length : Int) - 401

/-- Quarters of a unit between the value and the lower end of its interval. The
gap below a power of two is half of the gap above it. -/
def Binary.below (b : Binary) : Nat :=
  if b.mantissa = leading ∧ b.exponent > -1074 then 1 else 2

/-- The point of the grid `10 ^ k` that reads back as the value and is nearest to it. -/
def Binary.onGrid (b : Binary) (tie : Tie) (k : Int) : Option Nat :=
  let unit := twoTo (b.exponent - 2) * tenTo (-k)
  let step := tenTo k * twoTo (2 - b.exponent)
  let value := 4 * b.mantissa * unit
  let low := (4 * b.mantissa - b.below) * unit
  let high := (4 * b.mantissa + 2) * unit
  let inside (n : Nat) : Bool :=
    if b.mantissa % 2 = 0 then low ≤ n * step ∧ n * step ≤ high
    else low < n * step ∧ n * step < high
  let floor := value / step
  let rest := value % step
  match inside floor, inside (floor + 1) with
  | false, false => none
  | true, false => some floor
  | false, true => some (floor + 1)
  | true, true =>
    if 2 * rest < step then some floor
    else if step < 2 * rest then some (floor + 1)
    else match tie with
      | .up => some (floor + 1)
      | .even => some (if floor % 2 = 0 then floor else floor + 1)

def Digits.trimZeros : Nat → Digits → Digits
  | 0, d => d
  | fuel + 1, d =>
    if d.digits % 10 = 0 ∧ d.digits ≠ 0 then
      Digits.trimZeros fuel ⟨d.digits / 10, d.exponent + 1⟩
    else d

def Binary.shortest (b : Binary) (tie : Tie) : Digits :=
  -- Grids from one digit to seventeen are tried.
  let top := b.decimalExponent
  let grids := (List.range 17).map fun (n : Nat) => top - n
  match grids.findSome? (fun k => (b.onGrid tie k).map fun n => Digits.mk n k) with
  | some d => d.trimZeros 18
  | none => ⟨b.mantissa * twoTo b.exponent, 0⟩

end Screening.Decimal

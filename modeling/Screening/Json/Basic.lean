import Screening.Keyed

/-!
# JSON values

A number is kept as it was written: a whole number that fits in sixty-four bits,
signed or unsigned, or a double. The members of an object stand in a list, in
the order of the text; a value is sorted when the members of each of its objects
stand in ascending order of their keys.
-/

set_option autoImplicit false

namespace Screening

structure Whole where
  val : Int
  lower : -9223372036854775808 ≤ val
  upper : val ≤ 18446744073709551615
  deriving DecidableEq, Repr

def Whole.ofInt? (i : Int) : Option Whole :=
  if h : -9223372036854775808 ≤ i ∧ i ≤ 18446744073709551615 then some ⟨i, h.1, h.2⟩ else none

inductive Number where
  | whole (value : Whole)
  | float (value : Float)
  deriving Repr

def Number.toFloat : Number → Float
  | .whole w => Float.ofInt w.val
  | .float x => x

def Number.same : Number → Number → Bool
  | .whole a, .whole b => a == b
  | .float x, .float y => x == y
  | _, _ => false

inductive Json where
  | null
  | bool (value : Bool)
  | number (value : Number)
  | string (value : String)
  | array (items : List Json)
  | object (members : List (String × Json))
  deriving Repr

namespace Json

def natural (n : Nat) : Json :=
  match Whole.ofInt? n with
  | some w => .number (.whole w)
  | none => .number (.float (Float.ofNat n))

def float (x : Float) : Json := .number (.float x)

def strings (items : List String) : Json := .array (items.map .string)

mutual

def same : Json → Json → Bool
  | null, null => true
  | bool a, bool b => a == b
  | number a, number b => a.same b
  | string a, string b => a == b
  | array a, array b => sameItems a b
  | object a, object b => sameMembers a b
  | _, _ => false

def sameItems : List Json → List Json → Bool
  | [], [] => true
  | a :: as, b :: bs => same a b && sameItems as bs
  | _, _ => false

def sameMembers : List (String × Json) → List (String × Json) → Bool
  | [], [] => true
  | (k, a) :: as, (l, b) :: bs => k == l && same a b && sameMembers as bs
  | _, _ => false

end

mutual

/-- Every object sorted by key; of members with one key the last is kept. -/
def sort : Json → Json
  | array items => array (sortItems items)
  | object members => object (Keyed.ofList (sortValues members))
  | j => j

def sortItems : List Json → List Json
  | [] => []
  | j :: rest => sort j :: sortItems rest

def sortValues : List (String × Json) → List (String × Json)
  | [] => []
  | (k, j) :: rest => (k, sort j) :: sortValues rest

end

mutual

def isSorted : Json → Bool
  | array items => itemsSorted items
  | object members => Keyed.ascending members && valuesSorted members
  | _ => true

def itemsSorted : List Json → Bool
  | [] => true
  | j :: rest => isSorted j && itemsSorted rest

def valuesSorted : List (String × Json) → Bool
  | [] => true
  | (_, j) :: rest => isSorted j && valuesSorted rest

end

theorem valuesSorted_iff (members : List (String × Json)) :
    valuesSorted members = true ↔ ∀ m ∈ members, isSorted m.2 = true := by
  induction members with
  | nil => simp [valuesSorted]
  | cons m members ih => simp [valuesSorted, ih]

mutual

theorem isSorted_sort : ∀ j : Json, isSorted (sort j) = true
  | null | bool _ | number _ | string _ => by simp [sort, isSorted]
  | array items => by simpa [sort, isSorted] using itemsSorted_sortItems items
  | object members => by
    have h := (valuesSorted_iff _).mp (valuesSorted_sortValues members)
    simp only [sort, isSorted, Keyed.ascending_ofList, Bool.true_and, valuesSorted_iff]
    exact fun m hm => h m (Keyed.mem_ofList _ m hm)

theorem itemsSorted_sortItems : ∀ items : List Json, itemsSorted (sortItems items) = true
  | [] => by simp [sortItems, itemsSorted]
  | j :: rest => by
    simp [sortItems, itemsSorted, isSorted_sort j, itemsSorted_sortItems rest]

theorem valuesSorted_sortValues :
    ∀ members : List (String × Json), valuesSorted (sortValues members) = true
  | [] => by simp [sortValues, valuesSorted]
  | (k, j) :: rest => by
    simp [sortValues, valuesSorted, isSorted_sort j, valuesSorted_sortValues rest]

end

end Json

end Screening

/-!
# Sets of characters written as code point ranges

A character property is data: a list of ranges, both ends included. Membership
is decided by looking through the list.
-/

set_option autoImplicit false

namespace Screening.Text

abbrev Ranges := List (Nat × Nat)

def Ranges.has (ranges : Ranges) (c : Char) : Bool :=
  ranges.any fun r => r.1 ≤ c.toNat && c.toNat ≤ r.2

end Screening.Text

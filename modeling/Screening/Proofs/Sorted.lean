import Screening.Proofs.Keyed
import Screening.Proofs.Layout
import Screening.Record

/-!
# Sorted values

A value whose objects are sorted stays as it is when it is sorted, so a record is
the record of its own value. Sorting drops members, so it adds no depth.
-/

set_option autoImplicit false

namespace Screening

namespace Json

mutual

theorem sort_eq_self : ∀ j : Json, j.isSorted = true → j.sort = j
  | .null, _ | .bool _, _ | .number _, _ | .string _, _ => rfl
  | .array items, h => by
    rw [sort, sortItems_eq_self items (by simpa [isSorted] using h)]
  | .object members, h => by
    simp only [isSorted, Bool.and_eq_true] at h
    rw [sort, sortValues_eq_self members h.2, Keyed.ofList_eq_self members h.1]

theorem sortItems_eq_self : ∀ items : List Json, itemsSorted items = true → sortItems items = items
  | [], _ => rfl
  | j :: rest, h => by
    simp only [itemsSorted, Bool.and_eq_true] at h
    rw [sortItems, sort_eq_self j h.1, sortItems_eq_self rest h.2]

theorem sortValues_eq_self :
    ∀ members : List (String × Json), valuesSorted members = true → sortValues members = members
  | [], _ => rfl
  | (k, j) :: rest, h => by
    simp only [valuesSorted, Bool.and_eq_true] at h
    rw [sortValues, sort_eq_self j h.1, sortValues_eq_self rest h.2]

end

theorem depthOfItems_le_iff (items : List Json) (n : ℕ) :
    depthOfItems items ≤ n ↔ ∀ j ∈ items, j.depth ≤ n := by
  induction items with
  | nil => simp [depthOfItems]
  | cons j items ih => simp [depthOfItems, ih]

theorem depthOfMembers_le_iff (members : List (String × Json)) (n : ℕ) :
    depthOfMembers members ≤ n ↔ ∀ m ∈ members, m.2.depth ≤ n := by
  induction members with
  | nil => simp [depthOfMembers]
  | cons m members ih => simp [depthOfMembers, ih]

mutual

theorem depth_sort_le : ∀ j : Json, j.sort.depth ≤ j.depth
  | .null | .bool _ | .number _ | .string _ => le_rfl
  | .array items => by
    have h := depthOfItems_sortItems_le items
    simpa [sort, depth] using h
  | .object members => by
    have h := (depthOfMembers_le_iff _ _).mp (depthOfMembers_sortValues_le members)
    simp only [sort, depth, Nat.add_le_add_iff_right, depthOfMembers_le_iff]
    exact fun m hm => h m (Keyed.mem_ofList _ m hm)

theorem depthOfItems_sortItems_le :
    ∀ items : List Json, depthOfItems (sortItems items) ≤ depthOfItems items
  | [] => le_rfl
  | j :: rest => max_le_max (depth_sort_le j) (depthOfItems_sortItems_le rest)

theorem depthOfMembers_sortValues_le :
    ∀ members : List (String × Json), depthOfMembers (sortValues members) ≤ depthOfMembers members
  | [] => le_rfl
  | (_, j) :: rest => max_le_max (depth_sort_le j) (depthOfMembers_sortValues_le rest)

end

end Json

theorem Record.ofJson_value (r : Record) : Record.ofJson r.value = r := by
  cases r with
  | mk value sorted => simp only [Record.ofJson, Json.sort_eq_self value sorted]

end Screening

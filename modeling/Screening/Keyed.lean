/-!
# Keyed lists

Values under distinct string keys, kept in ascending order of their keys. Strings
are ordered by code point, which is also the order of their encoded bytes. Every
operation keeps the order, so two lists with the same entries are equal.
-/

set_option autoImplicit false

namespace Screening.Keyed

variable {α : Type}

def ascending : List (String × α) → Bool
  | (k, _) :: (l, w) :: rest => decide (k < l) && ascending ((l, w) :: rest)
  | _ => true

def insert (key : String) (value : α) : List (String × α) → List (String × α)
  | [] => [(key, value)]
  | (k, v) :: rest =>
    if key < k then (key, value) :: (k, v) :: rest
    else if key = k then (key, value) :: rest
    else (k, v) :: insert key value rest

def insertAll (entries sorted : List (String × α)) : List (String × α) :=
  entries.foldl (fun sorted e => insert e.1 e.2 sorted) sorted

def ofList (entries : List (String × α)) : List (String × α) := insertAll entries []

theorem ascending_insert (key : String) (value : α) (es : List (String × α))
    (h : ascending es = true) : ascending (insert key value es) = true := by
  fun_induction insert key value es with
  | case1 => rfl
  | case2 k v rest hk => simp [ascending, hk, h]
  | case3 v rest _ =>
    cases rest with
    | nil => rfl
    | cons m rest => simpa [ascending] using h
  | case4 k v rest hk hne ih =>
    have hlt : k < key :=
      Decidable.byContradiction fun hn =>
        hne (String.le_antisymm (String.not_lt.mp hn) (String.not_lt.mp hk))
    cases rest with
    | nil => simp [insert, ascending, hlt]
    | cons m rest =>
      obtain ⟨l, w⟩ := m
      simp only [ascending, Bool.and_eq_true, decide_eq_true_eq] at h
      have ih := ih h.2
      simp only [insert] at ih ⊢
      by_cases hl : key < l
      · rw [if_pos hl]
        simp [ascending, hlt, hl, h.2]
      · rw [if_neg hl] at ih ⊢
        by_cases he : key = l
        · rw [if_pos he] at ih ⊢
          simp [ascending, hlt, ih]
        · rw [if_neg he] at ih ⊢
          simp [ascending, h.1, ih]

theorem ascending_insertAll (entries sorted : List (String × α)) (h : ascending sorted = true) :
    ascending (insertAll entries sorted) = true := by
  induction entries generalizing sorted with
  | nil => exact h
  | cons e entries ih => exact ih _ (ascending_insert e.1 e.2 sorted h)

theorem ascending_ofList (entries : List (String × α)) : ascending (ofList entries) = true :=
  ascending_insertAll entries [] rfl

theorem mem_insert (key : String) (value : α) (es : List (String × α)) (e : String × α)
    (h : e ∈ insert key value es) : e = (key, value) ∨ e ∈ es := by
  fun_induction insert key value es <;> simp_all <;> grind

theorem mem_insertAll (entries sorted : List (String × α)) (e : String × α)
    (h : e ∈ insertAll entries sorted) : e ∈ entries ∨ e ∈ sorted := by
  induction entries generalizing sorted with
  | nil => exact .inr h
  | cons f entries ih =>
    rcases ih _ h with h | h
    · exact .inl (List.mem_cons_of_mem f h)
    · rcases mem_insert _ _ _ _ h with h | h
      · exact .inl (by simp [h])
      · exact .inr h

theorem mem_ofList (entries : List (String × α)) (e : String × α) (h : e ∈ ofList entries) :
    e ∈ entries := by
  simpa using mem_insertAll entries [] e h

end Screening.Keyed

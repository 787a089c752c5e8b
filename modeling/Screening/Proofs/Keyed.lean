import Screening.Keyed
import Mathlib

/-!
# What a keyed list holds

An entry that is put in its place is found under its key, and nothing else
changes. This needs no order; the order only makes the list unique. Entries that
are in order already stay as they are.
-/

set_option autoImplicit false

namespace Screening.Keyed

variable {α : Type}

theorem lookup_cons (l : String) (w : α) (es : List (String × α)) (k : String) :
    ((l, w) :: es).lookup k = if k = l then some w else es.lookup k := by
  rw [List.lookup_cons]
  by_cases h : k = l
  · simp [h]
  · simp [h, beq_false_of_ne h]

theorem lookup_insert (key : String) (value : α) (es : List (String × α)) (k : String) :
    (insert key value es).lookup k = if k = key then some value else es.lookup k := by
  fun_induction insert key value es with
  | case1 => exact lookup_cons key value [] k
  | case2 l w rest hlt => exact lookup_cons key value ((l, w) :: rest) k
  | case3 w rest hlt =>
    rw [lookup_cons, lookup_cons]
    by_cases h : k = key <;> simp [h]
  | case4 l w rest hlt hne ih =>
    rw [lookup_cons, lookup_cons, ih]
    by_cases hl : k = l
    · have hk : k ≠ key := fun h => hne (h.symm.trans hl)
      simp [hl, hl ▸ hk]
    · simp [hl]

theorem mem_keys_insert (key : String) (value : α) (es : List (String × α)) (k : String) :
    k ∈ (insert key value es).map (·.1) ↔ k = key ∨ k ∈ es.map (·.1) := by
  fun_induction insert key value es with
  | case1 => simp
  | case2 l w rest hlt => simp
  | case3 w rest hlt => simp
  | case4 l w rest hlt hne ih =>
    simp only [List.map_cons, List.mem_cons, ih]
    tauto

theorem mem_keys_insertAll (entries sorted : List (String × α)) (k : String) :
    k ∈ (insertAll entries sorted).map (·.1) ↔
      k ∈ entries.map (·.1) ∨ k ∈ sorted.map (·.1) := by
  induction entries generalizing sorted with
  | nil => simp [insertAll]
  | cons e entries ih =>
    have hrest := ih (insert e.1 e.2 sorted)
    rw [mem_keys_insert] at hrest
    rw [insertAll, List.foldl_cons, ← insertAll, hrest, List.map_cons, List.mem_cons]
    tauto

theorem mem_keys_ofList (entries : List (String × α)) (k : String) :
    k ∈ (ofList entries).map (·.1) ↔ k ∈ entries.map (·.1) := by
  rw [ofList, mem_keys_insertAll]
  simp

theorem ascending_iff_pairwise (es : List (String × α)) :
    ascending es = true ↔ es.Pairwise fun a b => a.1 < b.1 := by
  induction es with
  | nil => simp [ascending]
  | cons e es ih =>
    cases es with
    | nil => simp [ascending]
    | cons f es =>
      have hstep : ascending (e :: f :: es) = true ↔ e.1 < f.1 ∧ ascending (f :: es) = true := by
        simp [ascending]
      rw [hstep, ih, List.pairwise_cons (a := e), List.pairwise_cons (a := f), List.forall_mem_cons]
      constructor
      · rintro ⟨hlt, hf, hes⟩
        exact ⟨⟨hlt, fun g hg => hlt.trans (hf g hg)⟩, hf, hes⟩
      · rintro ⟨⟨hlt, -⟩, hf, hes⟩
        exact ⟨hlt, hf, hes⟩

theorem lookup_of_mem (es : List (String × α)) (h : ascending es = true) (e : String × α)
    (he : e ∈ es) : es.lookup e.1 = some e.2 := by
  rw [ascending_iff_pairwise] at h
  induction es with
  | nil => cases he
  | cons d es ih =>
    obtain ⟨hd, hes⟩ := List.pairwise_cons.mp h
    rw [lookup_cons]
    rcases List.mem_cons.mp he with rfl | he
    · exact if_pos rfl
    · rw [if_neg (hd e he).ne', ih hes he]

theorem mem_of_lookup (es : List (String × α)) (key : String) (v : α)
    (h : es.lookup key = some v) : (key, v) ∈ es := by
  obtain ⟨before, after, rfl, -⟩ := List.lookup_eq_some_iff.mp h
  simp

/-- A value put under a key that is there takes the place of the one before. -/
theorem insert_of_lookup (key : String) (value v : α) (es : List (String × α))
    (hes : ascending es = true) (h : es.lookup key = some v) :
    insert key value es = es.map fun e => if e.1 = key then (key, value) else e := by
  have hkey := mem_of_lookup es key v h
  rw [ascending_iff_pairwise] at hes
  clear h
  induction es with
  | nil => cases hkey
  | cons e es ih =>
    obtain ⟨k, w⟩ := e
    obtain ⟨hk, hes⟩ := List.pairwise_cons.mp hes
    rw [List.map_cons]
    rcases List.mem_cons.mp hkey with heq | hrest
    · cases heq
      have hothers : es.map (fun e => if e.1 = key then (key, value) else e) = es.map id :=
        List.map_congr_left fun e he => if_neg (hk e he).ne'
      rw [insert, if_neg (lt_irrefl key), if_pos rfl, if_pos rfl, hothers, List.map_id]
    · have hlt : k < key := hk _ hrest
      rw [insert, if_neg hlt.asymm, if_neg hlt.ne', if_neg hlt.ne, ih hes hrest]

theorem insert_of_greater (key : String) (value : α) (es : List (String × α))
    (h : ∀ e ∈ es, e.1 < key) : insert key value es = es ++ [(key, value)] := by
  induction es with
  | nil => rfl
  | cons e es ih =>
    obtain ⟨k, v⟩ := e
    obtain ⟨hk, hes⟩ := List.forall_mem_cons.mp h
    rw [insert, if_neg hk.asymm, if_neg hk.ne', ih hes]
    rfl

theorem insertAll_of_pairwise (entries sorted : List (String × α))
    (h : (sorted ++ entries).Pairwise fun a b => a.1 < b.1) :
    insertAll entries sorted = sorted ++ entries := by
  induction entries generalizing sorted with
  | nil => simp [insertAll]
  | cons e entries ih =>
    have hgreater : ∀ d ∈ sorted, d.1 < e.1 := fun d hd =>
      (List.pairwise_append.mp h).2.2 d hd e List.mem_cons_self
    have hrest := ih (sorted ++ [e]) (by simpa using h)
    rw [insertAll, List.foldl_cons, insert_of_greater e.1 e.2 sorted hgreater, ← insertAll, hrest]
    simp

theorem ofList_eq_self (es : List (String × α)) (h : ascending es = true) : ofList es = es :=
  insertAll_of_pairwise es [] ((ascending_iff_pairwise es).mp h)

end Screening.Keyed

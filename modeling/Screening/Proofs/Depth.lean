import Screening.Proofs.Sorted
import Screening.Rule

/-!
# How deep a value is that was read

The reader of values enters no more levels than it is given, so no value that it
returns is deeper. A rule takes one level for itself.
-/

set_option autoImplicit false

namespace Screening

namespace Json

variable {α σ : Type}

theorem itemsWithin_forall (item : Reader α) (P : α → Prop)
    (hitem : ∀ s a rest, item s = .ok (a, rest) → P a) (clock : List Char) (first : Bool)
    (s : List Char) (as : List α) (rest : List Char)
    (h : itemsWithin item clock first s = .ok (as, rest)) : ∀ a ∈ as, P a := by
  induction clock generalizing first s as with
  | nil => cases h
  | cons tick clock ih =>
    obtain ⟨more, t, hnext, h⟩ := (bind_eq_ok_iff _ _ s as rest).mp h
    cases more with
    | false =>
      cases h
      simp
    | true =>
      obtain ⟨a, u, ha, h⟩ := (bind_eq_ok_iff item _ t as rest).mp h
      obtain ⟨bs, hbs, rfl⟩ := (map_eq_ok_iff (a :: ·) _ u as rest).mp h
      exact List.forall_mem_cons.mpr ⟨hitem t a u ha, ih false u bs hbs⟩

/-- What every member keeps, a loop over members keeps. -/
theorem membersWithin_invariant (member : String → σ → Reader σ) (P : σ → Prop)
    (hmember : ∀ key state s state' rest, P state → member key state s = .ok (state', rest) →
      P state') (clock : List Char) (first : Bool) (state : σ) (hstate : P state)
    (s : List Char) (final : σ) (rest : List Char)
    (h : membersWithin member clock first state s = .ok (final, rest)) : P final := by
  induction clock generalizing first state s with
  | nil => cases h
  | cons tick clock ih =>
    obtain ⟨key, t, hkey, h⟩ := (bind_eq_ok_iff _ _ s final rest).mp h
    cases key with
    | none =>
      cases h
      exact hstate
    | some key =>
      obtain ⟨state', u, hmem, hrest⟩ := (bind_eq_ok_iff _ _ t final rest).mp h
      exact ih false state' (hmember key state t state' u hstate hmem) u hrest

def ReadWithin (levels : ℕ) (j : Json) : Prop := ∃ s rest, value levels s = .ok (j, rest)

theorem ReadWithin.items {levels : ℕ} {as : List Json} (h : ReadWithin levels (.array as)) :
    ∃ inner, levels = inner + 1 ∧ ∀ j ∈ as, ReadWithin inner j := by
  obtain ⟨s, rest, h⟩ := h
  obtain ⟨inner, t, hlevels, -, hitems⟩ := value_array levels s as rest h
  obtain ⟨u, hitems, -⟩ := (enclosed_eq_ok_iff _ _ _ t rest as).mp hitems
  exact ⟨inner, hlevels, itemsWithin_forall (value inner) (ReadWithin inner)
    (fun s j rest hj => ⟨s, rest, hj⟩) t true t as u hitems⟩

theorem ReadWithin.members {levels : ℕ} {ms : List (String × Json)}
    (h : ReadWithin levels (.object ms)) :
    ∃ inner, levels = inner + 1 ∧ ∀ m ∈ ms, ReadWithin inner m.2 := by
  obtain ⟨s, rest, h⟩ := h
  obtain ⟨inner, t, hlevels, -, hmembers⟩ := value_object levels s ms rest h
  obtain ⟨u, hmembers, -⟩ := (enclosed_eq_ok_iff _ _ _ t rest _).mp hmembers
  have hall := membersWithin_invariant (memberAsValue (value inner))
    (fun read => ∀ m ∈ read, ReadWithin inner m.2)
    (fun key read s read' rest hread hmem => by
      obtain ⟨done, t, -, hmem⟩ := (bind_eq_ok_iff _ _ s read' rest).mp hmem
      obtain ⟨j, hj, rfl⟩ := (map_eq_ok_iff (fun j => (key, j) :: read) _ t read' rest).mp hmem
      exact List.forall_mem_cons.mpr ⟨⟨t, rest, hj⟩, hread⟩)
    t true [] (by simp) t ms.reverse u hmembers
  exact ⟨inner, hlevels, fun m hm => hall m (List.mem_reverse.mpr hm)⟩

theorem ReadWithin.depth_le {levels : ℕ} {j : Json} (h : ReadWithin levels j) :
    j.depth ≤ levels := by
  induction levels using Nat.strong_induction_on generalizing j with
  | _ levels ih =>
    cases j with
    | array as =>
      obtain ⟨inner, rfl, hitems⟩ := h.items
      simp only [depth, Nat.add_le_add_iff_right, depthOfItems_le_iff]
      exact fun j hj => ih inner (by omega) (hitems j hj)
    | object ms =>
      obtain ⟨inner, rfl, hmembers⟩ := h.members
      simp only [depth, Nat.add_le_add_iff_right, depthOfMembers_le_iff]
      exact fun m hm => ih inner (by omega) (hmembers m hm)
    | _ => simp [depth]

theorem depth_le_of_value (k : ℕ) (s : List Char) (j : Json) (rest : List Char)
    (h : value k s = .ok (j, rest)) : j.depth ≤ k :=
  ReadWithin.depth_le ⟨s, rest, h⟩

theorem refuse_ne_ok (expected : String) (s : List Char) (a : α) (rest : List Char) :
    refuse expected s ≠ .ok (a, rest) := by
  unfold refuse
  split
  · simp
  · simp
  · unfold settled
    rw [bind_run]
    cases valueAround none s with
    | error e => simp
    | ok result => simp [floating]

/-- A structure is read from an array of its fields or from an object. -/
theorem structured_eq_ok (expected : String) (fromArray fromObject : Nested α) (levels : ℕ)
    (s : List Char) (a : α) (rest : List Char)
    (h : structured expected fromArray fromObject levels s = .ok (a, rest)) :
    ∃ k t, levels = k + 1 ∧
      ((skipSpace s = '[' :: t ∧ inList (fromArray k) t = .ok (a, rest)) ∨
        (skipSpace s = '{' :: t ∧ inObject (fromObject k) t = .ok (a, rest))) := by
  unfold structured at h
  split at h
  · next t hskip =>
    cases levels with
    | zero => cases h
    | succ k => exact ⟨k, t, rfl, .inl ⟨hskip, h⟩⟩
  · next t hskip =>
    cases levels with
    | zero => cases h
    | succ k => exact ⟨k, t, rfl, .inr ⟨hskip, h⟩⟩
  · exact absurd h (refuse_ne_ok _ _ _ _)

theorem once_eq_ok (name : String) (earlier : Option α) (item : Reader α) (s : List Char)
    (found : Option α) (rest : List Char) (h : once name earlier item s = .ok (found, rest)) :
    ∃ a t, found = some a ∧ skipSpace s = ':' :: t ∧ item t = .ok (a, rest) := by
  cases earlier with
  | some a => cases h
  | none =>
    obtain ⟨done, t, hcolon, h⟩ := (bind_eq_ok_iff _ _ s found rest).mp h
    obtain ⟨a, ha, rfl⟩ := (map_eq_ok_iff some item t found rest).mp h
    exact ⟨a, t, rfl, (colon_eq_ok_iff s t done).mp hcolon, ha⟩

end Json

namespace Value

mutual

theorem depth_toJson_ofJson : ∀ (j : Json) (v : Value), ofJson? j = some v →
    v.toJson.depth = j.depth
  | .null, v, h | .bool _, v, h | .number _, v, h | .string _, v, h => by
    cases h
    rfl
  | .array items, v, h => by
    obtain ⟨vs, hvs, rfl⟩ := Option.map_eq_some_iff.mp h
    simpa [toJson, Json.depth] using depth_itemsToJson_ofJson items vs hvs
  | .object _, v, h => by cases h

theorem depth_itemsToJson_ofJson : ∀ (items : List Json) (vs : List Value),
    itemsOfJson? items = some vs → Json.depthOfItems (itemsToJson vs) = Json.depthOfItems items
  | [], vs, h => by
    cases h
    rfl
  | j :: items, vs, h => by
    obtain ⟨v, hv, h⟩ := Option.bind_eq_some_iff.mp h
    obtain ⟨rest, hrest, h⟩ := Option.bind_eq_some_iff.mp h
    cases h
    simp only [itemsToJson, Json.depthOfItems, depth_toJson_ofJson j v hv,
      depth_itemsToJson_ofJson items rest hrest]

end

theorem depth_le_of_reader (type : String) (k : ℕ) (s : List Char) (v : Value)
    (rest : List Char) (h : reader type k s = .ok (v, rest)) : v.toJson.depth ≤ k := by
  obtain ⟨j, t, hj, h⟩ := (Json.bind_eq_ok_iff _ _ s v rest).mp h
  have hdepth := Json.depth_le_of_value k s j t hj
  unfold decode at h
  cases hv : ofJson? j with
  | none =>
    rw [hv] at h
    cases h
  | some w =>
    rw [hv] at h
    cases h
    rwa [depth_toJson_ofJson j v hv]

end Value

namespace Rule

def Draft.Within (k : ℕ) (d : Draft) : Prop := ∀ v, d.value = some v → v.toJson.depth ≤ k

theorem within_member (k : ℕ) (key : String) (d : Draft) (s : List Char) (d' : Draft)
    (rest : List Char) (hd : d.Within k) (h : member k key d s = .ok (d', rest)) :
    d'.Within k := by
  unfold member at h
  split at h
  · obtain ⟨name, t, -, h⟩ := (Json.bind_eq_ok_iff _ _ s d' rest).mp h
    cases h
    exact hd
  split at h
  · obtain ⟨condition, t, -, h⟩ := (Json.bind_eq_ok_iff _ _ s d' rest).mp h
    cases h
    exact hd
  split at h
  · obtain ⟨found, t, hfound, h⟩ := (Json.bind_eq_ok_iff _ _ s d' rest).mp h
    cases h
    obtain ⟨v, u, rfl, -, hv⟩ := Json.once_eq_ok _ _ _ s found _ hfound
    intro w hw
    cases hw
    exact Value.depth_le_of_reader _ k u v _ hv
  · obtain ⟨done, t, -, h⟩ := (Json.bind_eq_ok_iff _ _ s d' rest).mp h
    cases h
    exact hd

theorem depth_value_of_fromObject (k : ℕ) (s : List Char) (rule : Rule) (rest : List Char)
    (h : fromObject k s = .ok (rule, rest)) : rule.value.toJson.depth ≤ k := by
  obtain ⟨d, t, hd, h⟩ := (Json.bind_eq_ok_iff _ _ s rule rest).mp h
  obtain ⟨name, u, -, h⟩ := (Json.bind_eq_ok_iff _ _ t rule rest).mp h
  cases h
  have hwithin := Json.membersWithin_invariant (member k) (Draft.Within k) (within_member k) s true
    ⟨none, none, none⟩ (fun v hv => nomatch hv) s d t hd
  cases hv : d.value with
  | none => simp [Value.toJson, Json.depth]
  | some v => exact hwithin v hv

theorem depth_value_of_fromArray (k : ℕ) (s : List Char) (rule : Rule) (rest : List Char)
    (h : fromArray k s = .ok (rule, rest)) : rule.value.toJson.depth ≤ k := by
  obtain ⟨name, t, -, h⟩ := (Json.bind_eq_ok_iff _ _ s rule rest).mp h
  obtain ⟨condition, u, -, h⟩ := (Json.bind_eq_ok_iff _ _ t rule rest).mp h
  cases condition with
  | none =>
    cases h
    simp [Value.toJson, Json.depth]
  | some condition =>
    obtain ⟨found, w, hfound, h⟩ := (Json.bind_eq_ok_iff _ _ u rule rest).mp h
    cases h
    obtain ⟨more, x, hmore, hfound⟩ := (Json.bind_eq_ok_iff _ _ u found rest).mp hfound
    cases more with
    | false =>
      cases hfound
      simp [Value.toJson, Json.depth]
    | true =>
      obtain ⟨v, hv, rfl⟩ := (Json.map_eq_ok_iff some _ x found rest).mp hfound
      exact Value.depth_le_of_reader _ k x v rest hv

theorem depth_value_of_run (text : String) (rule : Rule)
    (h : (reader Json.levels).run text = .ok rule) : rule.value.toJson.depth ≤ 126 := by
  obtain ⟨rest, hread, -⟩ := (Json.run_eq_ok_iff _ text rule).mp h
  obtain ⟨k, t, hk, ⟨-, hread⟩ | ⟨-, hread⟩⟩ := Json.structured_eq_ok _ _ _ _ _ _ _ hread
  · obtain ⟨u, hfields, -⟩ := (Json.enclosed_eq_ok_iff _ _ _ t rest rule).mp hread
    cases hk
    exact depth_value_of_fromArray 126 t rule u hfields
  · obtain ⟨u, hfields, -⟩ := (Json.enclosed_eq_ok_iff _ _ _ t rest rule).mp hread
    cases hk
    exact depth_value_of_fromObject 126 t rule u hfields

end Rule

end Screening

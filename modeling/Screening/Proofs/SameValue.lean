import Screening.Proofs.Acceptance
import Screening.Proofs.DoubleOrder

/-!
# Values that cannot be told apart

Two values are equal here if they are one value or are the same as values are
compared: the two zeros are, and NaN is equal to itself though not the same. What
a rule looks at in a normal value is alike in equal ones.
-/

set_option autoImplicit false

namespace Screening

def Double.Equal (x y : Float) : Prop := x = y ∨ (x == y) = true

namespace Double.Equal

variable {x x' y y' : Float}

theorem place_eq (h : Double.Equal x y) : x.isNaN = y.isNaN ∧ place x = place y := by
  rcases h with rfl | h
  · exact ⟨rfl, rfl⟩
  · obtain ⟨hx, hy, hplace⟩ := (Double.beq_iff x y).mp h
    exact ⟨hx.trans hy.symm, hplace⟩

theorem lt_iff (hx : Double.Equal x x') (hy : Double.Equal y y') : x < y ↔ x' < y' := by
  rw [Double.lt_iff, Double.lt_iff, hx.place_eq.1, hx.place_eq.2, hy.place_eq.1, hy.place_eq.2]

theorem le_iff (hx : Double.Equal x x') (hy : Double.Equal y y') : x ≤ y ↔ x' ≤ y' := by
  rw [Double.le_iff, Double.le_iff, hx.place_eq.1, hx.place_eq.2, hy.place_eq.1, hy.place_eq.2]

end Double.Equal

namespace Value

def Equal (v w : Value) : Prop := v = w ∨ v.same w = true

mutual

theorem same_trans : ∀ u v w : Value, u.same v = true → v.same w = true → u.same w = true
  | .null, v, w, huv, hvw => by
    cases v with
    | null => exact hvw
    | _ => simp [same] at huv
  | .bool a, v, w, huv, hvw => by
    cases v with
    | bool b =>
      have hab : a = b := by simpa [same] using huv
      exact hab ▸ hvw
    | _ => simp [same] at huv
  | .number x, v, w, huv, hvw => by
    cases v with
    | number y =>
      cases w with
      | number z =>
        have hxy : (x == y) = true := huv
        have hyz : (y == z) = true := hvw
        exact BEq.trans hxy hyz
      | _ => simp [same] at hvw
    | _ => simp [same] at huv
  | .text s, v, w, huv, hvw => by
    cases v with
    | text t =>
      have hst : s = t := by simpa [same] using huv
      exact hst ▸ hvw
    | _ => simp [same] at huv
  | .list us, v, w, huv, hvw => by
    cases v with
    | list vs =>
      cases w with
      | list ws =>
        simp only [same] at huv hvw ⊢
        exact sameItems_trans us vs ws huv hvw
      | _ => simp [same] at hvw
    | _ => simp [same] at huv

theorem sameItems_trans : ∀ us vs ws : List Value, sameItems us vs = true →
    sameItems vs ws = true → sameItems us ws = true
  | [], vs, ws, huv, hvw => by cases vs <;> simp_all [sameItems]
  | u :: us, vs, ws, huv, hvw => by
    cases vs with
    | nil => simp [sameItems] at huv
    | cons v vs =>
      cases ws with
      | nil => simp [sameItems] at hvw
      | cons w ws =>
        simp only [sameItems, Bool.and_eq_true] at huv hvw ⊢
        exact ⟨same_trans u v w huv.1 hvw.1, sameItems_trans us vs ws huv.2 hvw.2⟩

end

namespace Equal

variable {v v' w w' : Value}

theorem refl (v : Value) : v.Equal v := .inl rfl

theorem symm (h : v.Equal w) : w.Equal v := h.imp Eq.symm (same_symm v w)

theorem same_left (h : v.Equal v') (hsame : v.same w = true) : v'.same w = true := by
  rcases h with rfl | h
  · exact hsame
  · exact same_trans v' v w (same_symm v v' h) hsame

/-- Equal values are the same as the same values. -/
theorem same_congr (hv : v.Equal v') (hw : w.Equal w') : v.same w = v'.same w' := by
  have hleft (u u' x : Value) (h : u.Equal u') : u.same x = u'.same x :=
    Bool.eq_iff_iff.mpr ⟨h.same_left, h.symm.same_left⟩
  rw [hleft v v' w hv, same_comm v' w, hleft w w' v' hw, same_comm w' v']

theorem number_iff (x y : Float) : (Value.number x).Equal (.number y) ↔ Double.Equal x y := by
  simp [Equal, Double.Equal, same]

theorem items_of_sameItems (vs ws : List Value) (h : sameItems vs ws = true) :
    List.Forall₂ Equal vs ws := by
  induction vs generalizing ws with
  | nil =>
    cases ws with
    | nil => exact .nil
    | cons w ws => simp [sameItems] at h
  | cons v vs ih =>
    cases ws with
    | nil => simp [sameItems] at h
    | cons w ws =>
      simp only [sameItems, Bool.and_eq_true] at h
      exact .cons (.inr h.1) (ih ws h.2)

/-- The items of equal lists are equal one by one. -/
theorem items (vs ws : List Value) (h : (Value.list vs).Equal (.list ws)) :
    List.Forall₂ Equal vs ws := by
  rcases h with h | h
  · cases h
    exact List.forall₂_same.mpr fun v _ => refl v
  · exact items_of_sameItems vs ws (by simpa [same] using h)

/-- Equal values are one value, or numbers, or lists. -/
theorem cases_form (h : v.Equal w) :
    v = w ∨ (∃ x y, v = .number x ∧ w = .number y ∧ Double.Equal x y) ∨
      ∃ vs ws, v = .list vs ∧ w = .list ws ∧ List.Forall₂ Equal vs ws := by
  rcases h with h | h
  · exact .inl h
  · cases v with
    | number x =>
      cases w with
      | number y => exact .inr (.inl ⟨x, y, rfl, rfl, .inr h⟩)
      | _ => simp [same] at h
    | list vs =>
      cases w with
      | list ws => exact .inr (.inr ⟨vs, ws, rfl, rfl, items vs ws (.inr h)⟩)
      | _ => simp [same] at h
    | _ => cases w <;> simp_all [same]

theorem exists_items (vs : List Value) (h : (Value.list vs).Equal w) :
    ∃ ws, w = .list ws ∧ List.Forall₂ Equal vs ws := by
  rcases h.cases_form with rfl | ⟨x, y, hx, -⟩ | ⟨us, ws, hus, rfl, hitems⟩
  · exact ⟨vs, rfl, items vs vs h⟩
  · cases hx
  · cases hus
    exact ⟨ws, rfl, hitems⟩

theorem isWildcard_eq (h : v.Equal w) : v.isWildcard = w.isWildcard := by
  rcases h.cases_form with rfl | ⟨x, y, rfl, rfl, -⟩ | ⟨vs, ws, rfl, rfl, -⟩ <;> rfl

theorem hasWildcard_eq (h : v.Equal w) : v.hasWildcard = w.hasWildcard := by
  rcases h.cases_form with rfl | ⟨x, y, rfl, rfl, -⟩ | ⟨vs, ws, rfl, rfl, hitems⟩
  · rfl
  · rfl
  · clear h
    show vs.any isWildcard = ws.any isWildcard
    induction hitems with
    | nil => rfl
    | cons hv _ ih => rw [List.any_cons, List.any_cons, hv.isWildcard_eq, ih]

theorem isNull_iff (h : v.Equal w) : v = .null ↔ w = .null := by
  rcases h.cases_form with rfl | ⟨x, y, rfl, rfl, -⟩ | ⟨vs, ws, rfl, rfl, -⟩ <;> simp

theorem number_rel (h : v.Equal w) : Option.Rel Double.Equal v.number? w.number? := by
  rcases h.cases_form with rfl | ⟨x, y, rfl, rfl, hxy⟩ | ⟨vs, ws, rfl, rfl, -⟩
  · cases v.number? with
    | none => exact .none
    | some x => exact .some (.inl rfl)
  · exact .some hxy
  · exact .none

/-- Equal values are equal bounds. -/
theorem bound_rel (h : v.Equal w) :
    Option.Rel (Option.Rel Double.Equal) (bound? v) (bound? w) := by
  rcases h.cases_form with rfl | ⟨x, y, rfl, rfl, hxy⟩ | ⟨vs, ws, rfl, rfl, -⟩
  · cases bound? v with
    | none => exact .none
    | some bound =>
      cases bound with
      | none => exact .some .none
      | some x => exact .some (.some (.inl rfl))
  · exact .some (.some hxy)
  · exact .none

end Equal

end Value

end Screening

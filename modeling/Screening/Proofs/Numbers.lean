import Screening.Proofs.Depth
import Screening.Proofs.PowersOfTen

/-!
# Numbers that are read

A number is read as a whole one of sixty-four bits, or computed from one by a product
that is refused when it is infinite, or by quotients. So it is finite. This goes for each
number of a value that is read, whatever it is nested in, and for each field of a record.
-/

set_option autoImplicit false

namespace Screening

def Number.IsFinite (n : Number) : Prop := n.toFloat.isFinite = true

namespace Json

theorem isFinite_shrink (k : ℕ) (x : Float) (hx : x.isFinite = true) :
    (shrink k x).isFinite = true := by
  induction k generalizing x with
  | zero => exact hx
  | succ k ih =>
    unfold shrink
    split
    · exact hx
    · apply ih
      exact Double.isFinite_div x _ hx (Double.atLeastTwo_powerOfTen 308 (by decide) le_rfl)

theorem isFinite_scale (k : ℕ) (hk : k < 2 ^ 64) (exponent : ℤ) (x : Float)
    (h : scale? k exponent = some x) : x.isFinite = true := by
  have hwhole := Double.isFinite_ofNat k hk
  unfold scale? at h
  simp only at h
  split at h
  · split at h
    · next hexponent =>
      have hpower := Double.isFinite_powerOfTen exponent.toNat (by omega)
      split at h
      · cases h
      · next hinf =>
        cases h
        exact Double.isFinite_of_isInf _ (Double.isNaN_mul _ _ hwhole hpower)
          (Bool.not_eq_true _ ▸ hinf)
    · split at h
      · cases h
        exact hwhole
      · cases h
  · cases h
    exact Double.isFinite_div _ _ (isFinite_shrink _ _ hwhole)
      (Double.atLeastTwo_powerOfTen _ (by omega) (by omega))

theorem isFinite_signedFloat (negative : Bool) (x : Float) (hx : x.isFinite = true) :
    (signedFloat negative x).IsFinite := by
  cases negative with
  | false => exact hx
  | true => exact Double.isFinite_neg x hx

theorem isFinite_whole (w : Whole) : (Number.whole w).IsFinite := by
  obtain ⟨i, hlower, hupper⟩ := w
  exact Double.isFinite_ofInt i (by omega)

theorem isFinite_wholeNumber (negative : Bool) (k : ℕ) (hk : k < 2 ^ 64) :
    (wholeNumber negative k).IsFinite := by
  unfold wholeNumber
  split
  · show (-(0.0 : Float)).isFinite = true
    decide
  · split
    · exact isFinite_whole _
    · exact isFinite_signedFloat negative _ (Double.isFinite_ofNat k hk)

/-- Of the digits of a number as many are taken as fit in sixty-four bits. -/
theorem significand_lt (k : ℕ) (hk : k < 2 ^ 64) (s : List Char) :
    (significand k s).1 < 2 ^ 64 := by
  induction s generalizing k with
  | nil => exact hk
  | cons c s ih =>
    unfold significand
    split
    · next h => exact ih _ (by omega)
    · exact hk

def ReadsFinite (reader : Reader Number) : Prop :=
  ∀ s n rest, reader s = .ok (n, rest) → n.IsFinite

section Significand

variable (negative small : Bool) (k : ℕ) (hk : k < 2 ^ 64) (exponent : ℤ)

include hk

theorem readsFinite_scaled : ReadsFinite (scaled negative k exponent) := by
  intro s n rest h
  unfold scaled at h
  cases hscale : scale? k exponent with
  | none =>
    rw [hscale] at h
    cases h
  | some x =>
    rw [hscale] at h
    cases h
    exact isFinite_signedFloat negative x (isFinite_scale k hk exponent x hscale)

theorem readsFinite_exponentDigits (e : ℕ) :
    ReadsFinite (exponentDigits negative small k exponent e) := by
  intro s
  induction s generalizing e with
  | nil => exact readsFinite_scaled negative k hk _ []
  | cons c s ih =>
    intro n rest h
    unfold exponentDigits at h
    split at h
    · simp only at h
      split at h
      · exact ih _ n rest h
      split at h
      · cases h
      · cases h
        exact isFinite_signedFloat negative 0 (by decide)
    · exact readsFinite_scaled negative k hk _ _ n rest h

theorem readsFinite_exponentFirst : ReadsFinite (exponentFirst negative small k exponent) := by
  intro s n rest h
  unfold exponentFirst at h
  split at h
  · cases h
  split at h
  · exact readsFinite_exponentDigits negative small k hk exponent _ _ n rest h
  · cases h

theorem readsFinite_exponentPart : ReadsFinite (exponentPart negative k exponent) := by
  intro s n rest h
  unfold exponentPart at h
  split at h
  · exact readsFinite_exponentFirst negative false k hk exponent _ n rest h
  · exact readsFinite_exponentFirst negative true k hk exponent _ n rest h
  · exact readsFinite_exponentFirst negative false k hk exponent _ n rest h

theorem readsFinite_afterDigits : ReadsFinite (afterDigits negative k exponent) := by
  intro s n rest h
  unfold afterDigits at h
  split at h
  · split at h
    · exact readsFinite_exponentPart negative k hk exponent _ n rest h
    · exact readsFinite_scaled negative k hk exponent _ n rest h
  · exact readsFinite_scaled negative k hk exponent _ n rest h

theorem readsFinite_fraction : ReadsFinite (fraction negative k exponent) := by
  intro s n rest h
  unfold fraction at h
  split at h
  · cases h
  next c t =>
  split at h
  · have htaken := significand_lt k hk (c :: t)
    generalize significand k (c :: t) = taken at h htaken
    exact readsFinite_afterDigits negative taken.1 htaken _ _ n rest h
  · cases h

theorem readsFinite_afterWhole (surplus : ℕ) : ReadsFinite (afterWhole negative k surplus) := by
  have hend (s : List Char) (n : Number) (rest : List Char)
      (h : (if surplus = 0 then .ok (wholeNumber negative k, s) else scaled negative k surplus s) =
        Except.ok (n, rest)) : n.IsFinite := by
    split at h
    · cases h
      exact isFinite_wholeNumber negative k hk
    · exact readsFinite_scaled negative k hk _ s n rest h
  intro s n rest h
  unfold afterWhole at h
  split at h
  · exact hend [] n rest h
  split at h
  · exact readsFinite_fraction negative k hk _ _ n rest h
  split at h
  · exact readsFinite_exponentPart negative k hk _ _ n rest h
  · exact hend _ n rest h

end Significand

theorem digitOf_lt (c : Char) (hc : c.isDigit = true) : digitOf c < 10 := by
  simp only [Char.isDigit, Bool.and_eq_true, decide_eq_true_eq] at hc
  have hnine : c.toNat ≤ 57 := hc.2
  rw [digitOf]
  change c.toNat - 48 < 10
  omega

theorem readsFinite_numberBody (negative : Bool) : ReadsFinite (numberBody negative) := by
  intro s n rest h
  unfold numberBody at h
  split at h
  · cases h
  next c t =>
  split at h
  · split at h
    · cases h
    · exact readsFinite_afterWhole negative 0 (by decide) 0 _ n rest h
  split at h
  · next hc =>
    have hdigit := digitOf_lt c hc
    have htaken := significand_lt (digitOf c) (by omega) t
    generalize significand (digitOf c) t = taken at h htaken
    exact readsFinite_afterWhole negative taken.1 htaken _ _ n rest h
  · cases h

/-- Only a minus or a digit starts a number. -/
theorem valueFrom_number (inner : Option (Reader Json)) (c : Char) (s : List Char) (n : Number)
    (rest : List Char) (h : valueFrom inner c s = .ok (.number n, rest)) :
    ∃ negative t, numberBody negative t = .ok (n, rest) := by
  unfold valueFrom at h
  split at h
  · cases keyword_value _ _ _ _ _ h
  split at h
  · cases keyword_value _ _ _ _ _ h
  split at h
  · cases keyword_value _ _ _ _ _ h
  split at h
  · obtain ⟨m, hm, hn⟩ := (map_eq_ok_iff number _ _ _ _).mp h
    cases hn
    exact ⟨true, s, hm⟩
  split at h
  · obtain ⟨m, hm, hn⟩ := (map_eq_ok_iff number _ _ _ _).mp h
    cases hn
    exact ⟨false, c :: s, hm⟩
  split at h
  · obtain ⟨m, -, hn⟩ := (map_eq_ok_iff string _ _ _ _).mp h
    cases hn
  split at h
  · cases inner with
    | none => cases h
    | some item =>
      obtain ⟨as, -, has⟩ := (arrayOf_eq_ok_iff item s _ rest).mp h
      cases has
  split at h
  · cases inner with
    | none => cases h
    | some item =>
      obtain ⟨read, -, hms⟩ := (objectOf_eq_ok_iff item s _ rest).mp h
      cases hms
  · cases h

theorem value_number (levels : ℕ) (s : List Char) (n : Number) (rest : List Char)
    (h : value levels s = .ok (.number n, rest)) :
    ∃ negative t, numberBody negative t = .ok (n, rest) := by
  have haround : ∃ inner, valueAround inner s = .ok (.number n, rest) := by
    cases levels with
    | zero => exact ⟨none, h⟩
    | succ levels => exact ⟨some (value levels), h⟩
  obtain ⟨inner, hvalue⟩ := haround
  cases hskip : skipSpace s with
  | nil => exact absurd hvalue (valueAround_nil inner s _ rest hskip)
  | cons c t =>
    rw [valueAround_eq inner s c t hskip] at hvalue
    exact valueFrom_number inner c t n rest hvalue

/-- Every number of a value that was read is finite. -/
theorem ReadWithin.isFinite {levels : ℕ} {j : Json} (h : ReadWithin levels j) (n : Number)
    (hn : n ∈ j.numbers) : n.IsFinite := by
  -- What is inside a value was read with fewer levels to enter.
  induction levels using Nat.strong_induction_on generalizing j with
  | _ levels ih =>
    cases j with
    | number m =>
      obtain ⟨s, rest, h⟩ := h
      obtain ⟨negative, t, hbody⟩ := value_number levels s m rest h
      rw [List.mem_singleton.mp hn]
      exact readsFinite_numberBody negative t m rest hbody
    | array as =>
      obtain ⟨inner, rfl, hitems⟩ := h.items
      rw [numbers, numbersOfItems_eq_flatMap] at hn
      obtain ⟨j, hj, hn⟩ := List.mem_flatMap.mp hn
      exact ih inner (by omega) (hitems j hj) hn
    | object ms =>
      obtain ⟨inner, rfl, hmembers⟩ := h.members
      rw [numbers, numbersOfMembers_eq_flatMap] at hn
      obtain ⟨m, hm, hn⟩ := List.mem_flatMap.mp hn
      exact ih inner (by omega) (hmembers m hm) hn
    | _ => cases hn

mutual

theorem mem_numbers_of_sort : ∀ (j : Json) (n : Number), n ∈ j.sort.numbers → n ∈ j.numbers
  | .null, _, h | .bool _, _, h | .number _, _, h | .string _, _, h => h
  | .array items, n, h => mem_numbersOfItems_of_sort items n h
  | .object members, n, h => by
    rw [sort, numbers, numbersOfMembers_eq_flatMap] at h
    obtain ⟨m, hm, hn⟩ := List.mem_flatMap.mp h
    apply mem_numbersOfMembers_of_sort members n
    rw [numbersOfMembers_eq_flatMap]
    exact List.mem_flatMap.mpr ⟨m, Keyed.mem_ofList _ m hm, hn⟩

theorem mem_numbersOfItems_of_sort :
    ∀ (items : List Json) (n : Number), n ∈ numbersOfItems (sortItems items) →
      n ∈ numbersOfItems items
  | [], _, h => h
  | j :: rest, n, h => by
    rw [sortItems, numbersOfItems] at h
    exact List.mem_append.mpr ((List.mem_append.mp h).imp (mem_numbers_of_sort j n)
      (mem_numbersOfItems_of_sort rest n))

theorem mem_numbersOfMembers_of_sort :
    ∀ (members : List (String × Json)) (n : Number), n ∈ numbersOfMembers (sortValues members) →
      n ∈ numbersOfMembers members
  | [], _, h => h
  | (_, j) :: rest, n, h => by
    rw [sortValues, numbersOfMembers] at h
    exact List.mem_append.mpr ((List.mem_append.mp h).imp (mem_numbers_of_sort j n)
      (mem_numbersOfMembers_of_sort rest n))

end

end Json

namespace Value

mutual

def numbers : Value → List Float
  | number x => [x]
  | list items => numbersOfItems items
  | _ => []

def numbersOfItems : List Value → List Float
  | [] => []
  | v :: rest => numbers v ++ numbersOfItems rest

end

mutual

theorem numbers_ofJson : ∀ (j : Json) (v : Value), ofJson? j = some v →
    v.numbers = j.numbers.map Number.toFloat
  | .null, v, h | .bool _, v, h | .number _, v, h | .string _, v, h => by
    cases h
    rfl
  | .array items, v, h => by
    obtain ⟨vs, hvs, rfl⟩ := Option.map_eq_some_iff.mp h
    exact numbersOfItems_ofJson items vs hvs
  | .object _, v, h => by cases h

theorem numbersOfItems_ofJson : ∀ (items : List Json) (vs : List Value),
    itemsOfJson? items = some vs →
      numbersOfItems vs = (Json.numbersOfItems items).map Number.toFloat
  | [], vs, h => by
    cases h
    rfl
  | j :: items, vs, h => by
    obtain ⟨v, hv, h⟩ := Option.bind_eq_some_iff.mp h
    obtain ⟨rest, hrest, h⟩ := Option.bind_eq_some_iff.mp h
    cases h
    rw [numbersOfItems, Json.numbersOfItems, List.map_append, numbers_ofJson j v hv,
      numbersOfItems_ofJson items rest hrest]

end

/-- A value that some text is read as. -/
def Decoded (v : Value) : Prop := ∃ type levels s rest, reader type levels s = .ok (v, rest)

/-- Every number in a value that was read is finite. -/
theorem isFinite_of_decoded (v : Value) (hv : v.Decoded) (x : Float) (hx : x ∈ v.numbers) :
    x.isFinite = true := by
  obtain ⟨type, levels, s, rest, h⟩ := hv
  obtain ⟨j, t, hj, h⟩ := (Json.bind_eq_ok_iff _ _ s v rest).mp h
  unfold decode at h
  cases hv : ofJson? j with
  | none =>
    rw [hv] at h
    cases h
  | some w =>
    rw [hv] at h
    cases h
    rw [numbers_ofJson j v hv] at hx
    obtain ⟨n, hn, rfl⟩ := List.mem_map.mp hx
    exact Json.ReadWithin.isFinite ⟨s, _, hj⟩ n hn

/-- A value that was given as NaN and not read. -/
def isNaN : Value → Bool
  | .number x => x.isNaN
  | _ => false

theorem isNaN_of_reader (type : String) (levels : ℕ) (s : List Char) (v : Value)
    (rest : List Char) (h : reader type levels s = .ok (v, rest)) : v.isNaN = false := by
  cases v with
  | number x =>
    exact Double.isNaN_of_isFinite x (isFinite_of_decoded _ ⟨type, levels, s, rest, h⟩ x
      (List.mem_singleton_self x))
  | _ => rfl

end Value

def Record.Decoded (r : Record) : Prop :=
  ∃ levels s rest, reader levels s = .ok (r, rest)

theorem Record.mem_of_find (r : Record) (name : String) (j : Json) (h : r.find? name = some j) :
    ∃ key, (key, j) ∈ r.members := by
  rw [find?, Option.or_eq_some_iff] at h
  rcases h with hexact | ⟨-, hfolded⟩
  · exact ⟨name, Keyed.mem_of_lookup r.members name j hexact⟩
  · obtain ⟨m, hm, rfl⟩ := Option.map_eq_some_iff.mp hfolded
    exact ⟨m.1, List.mem_of_find?_eq_some hm⟩

theorem Record.value_of_mem (r : Record) (m : String × Json) (h : m ∈ r.members) :
    r.value = .object r.members := by
  unfold members members? at *
  cases hvalue : r.value with
  | object members => rfl
  | _ => simp [hvalue] at h

/-- Every field of a record that was read is finite, if it is a number. -/
theorem Record.isFinite_of_decoded (r : Record) (hr : r.Decoded) (name : String) (x : Float)
    (h : r.field name = .number x) : x.isFinite = true := by
  obtain ⟨levels, s, rest, hread⟩ := hr
  obtain ⟨j, hj, rfl⟩ := (Json.map_eq_ok_iff ofJson (Json.value levels) s r rest).mp hread
  cases hfind : (ofJson j).find? name with
  | none => simp [field, hfind] at h
  | some k =>
    obtain ⟨key, hmem⟩ := mem_of_find _ name k hfind
    cases k with
    | number n =>
      have hx : n.toFloat = x := by simpa [field, hfind, FieldValue.ofJson] using h
      have hn : n ∈ (ofJson j).value.numbers := by
        rw [value_of_mem _ _ hmem, Json.numbers, Json.numbersOfMembers_eq_flatMap]
        exact List.mem_flatMap.mpr ⟨_, hmem, List.mem_singleton_self n⟩
      have hfinite := Json.ReadWithin.isFinite ⟨s, rest, hj⟩ n (Json.mem_numbers_of_sort j n hn)
      exact hx ▸ hfinite
    | _ => simp [field, hfind, FieldValue.ofJson] at h

theorem Record.isNaN_of_decoded (r : Record) (hr : r.Decoded) (name : String) (x : Float)
    (h : r.field name = .number x) : x.isNaN = false :=
  Double.isNaN_of_isFinite x (r.isFinite_of_decoded hr name x h)

end Screening

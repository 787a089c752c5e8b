import Screening.Predicate.Compile
import Screening.Proofs.Double
import Screening.Proofs.Text

/-!
# Normal values compared

The normal form of a text is that text or a number, and never one that differs
from itself. Keywords and blank texts are their own normal form. So two values
that are the same as written are the same when both are normal, and a value is
a wildcard, an open bound or nothing at all exactly if its normal form is.
-/

set_option autoImplicit false

namespace Screening

namespace Value

mutual

theorem same_symm : ∀ v w : Value, v.same w = true → w.same v = true
  | .null, w, h => by cases w <;> simp_all [same]
  | .bool a, w, h => by cases w <;> simp_all [same]
  | .number x, w, h => by
    cases w with
    | number y =>
      have hxy : (x == y) = true := h
      exact BEq.symm hxy
    | _ => simp [same] at h
  | .text s, w, h => by cases w <;> simp_all [same]
  | .list items, w, h => by
    cases w with
    | list others => exact sameItems_symm items others (by simpa [same] using h)
    | _ => simp [same] at h

theorem sameItems_symm :
    ∀ vs ws : List Value, sameItems vs ws = true → sameItems ws vs = true
  | [], ws, h => by cases ws <;> simp_all [sameItems]
  | v :: vs, ws, h => by
    cases ws with
    | nil => simp [sameItems] at h
    | cons w ws =>
      simp only [sameItems, Bool.and_eq_true] at h ⊢
      exact ⟨same_symm v w h.1, sameItems_symm vs ws h.2⟩

end

theorem same_text_iff (v : Value) (s : String) : v.same (.text s) = true ↔ v = .text s := by
  cases v <;> simp [same]

theorem same_number_iff (v : Value) (y : Float) :
    v.same (.number y) = true ↔ ∃ x, v = .number x ∧ (x == y) = true := by
  cases v <;> simp [same]

end Value

namespace Reading

theorem isFinite_readFinite (cs : List Char) (x : Float)
    (h : Decimal.readFinite? cs = some x) : x.isFinite = true := by
  rw [Decimal.readFinite?, Option.filter_eq_some_iff] at h
  exact h.2

theorem isFinite_unitFactor (c : Char) (x : Float) (h : unitFactor? c = some x) :
    x.isFinite = true := by
  unfold unitFactor? at h
  split at h
  · cases h; decide
  split at h
  · cases h; decide
  split at h
  · cases h; decide
  split at h
  · cases h; decide
  · cases h

theorem isFinite_splitUnit (cs : List Char) : (splitUnit cs).2.isFinite = true := by
  have hone : (1.0 : Float).isFinite = true := by decide
  unfold splitUnit
  cases cs.getLast? with
  | none => exact hone
  | some c =>
    simp only
    cases hf : unitFactor? c with
    | none => exact hone
    | some x => exact isFinite_unitFactor c x hf

/-- A decimal times its unit may be infinite, but is a number. -/
theorem isNaN_magnitude (cs : List Char) (x : Float) (h : magnitude? cs = some x) :
    x.isNaN = false := by
  unfold magnitude? at h
  have hunit := isFinite_splitUnit cs
  generalize splitUnit cs = parts at h hunit
  obtain ⟨decimal, factor⟩ := parts
  simp only at h hunit
  split at h
  · obtain ⟨y, hy, rfl⟩ := Option.map_eq_some_iff.mp h
    exact Double.isNaN_mul y factor (isFinite_readFinite decimal y hy) hunit
  · cases h

theorem isNaN_ofTrimmed (cs : List Char) (x : Float) (h : ofTrimmed cs = .number x) :
    x.isNaN = false := by
  unfold ofTrimmed at h
  split at h
  · cases h
  split at h
  · split at h
    · next y hy =>
      cases h
      exact Double.isNaN_of_isFinite _ (isFinite_readFinite _ _ hy)
    · cases h
  · split at h
    · next y hy =>
      cases h
      rcases Option.or_eq_some_iff.mp hy with hm | ⟨-, hr⟩
      · exact isNaN_magnitude cs _ hm
      · exact Double.isNaN_of_isFinite _ (isFinite_readFinite cs _ hr)
    · split at h <;> cases h

end Reading

theorem normalizeText_cases (s : String) :
    normalizeText s = .text s ∨ ∃ x, x.isNaN = false ∧ normalizeText s = .number x := by
  unfold normalizeText
  split
  · next x hx => exact .inr ⟨x, Reading.isNaN_ofTrimmed _ x hx, rfl⟩
  · exact .inl rfl

theorem normalizeText_magnitude (cs : List Char) (x : Float) (htrim : Text.trimChars cs = cs)
    (hword : String.ofList (Text.lowerChars cs) ∉ Reading.keywords)
    (hpercent : Reading.percentage? cs = none) (hx : Reading.magnitude? cs = some x) :
    normalizeText (String.ofList cs) = .number x := by
  rw [normalizeText, Reading.ofText, String.toList_ofList, htrim, Reading.ofTrimmed, if_neg hword]
  simp only [hpercent, hx, Option.some_or]

theorem same_normalizeText (s : String) :
    (normalizeText s).same (normalizeText s) = true := by
  rcases normalizeText_cases s with h | ⟨x, hx, h⟩
  · rw [h]
    exact (Value.same_text_iff _ s).mpr rfl
  · rw [h]
    exact Double.beq_self x hx

theorem normalize_eq_null_iff (v : Value) : normalize v = .null ↔ v = .null := by
  cases v with
  | text t =>
    rcases normalizeText_cases t with ht | ⟨x, -, ht⟩ <;> simp [normalize, ht]
  | _ => simp [normalize]

mutual

/-- Values that are the same as written are the same when both are normal. -/
theorem same_normalize : ∀ v w : Value, v.same w = true → (normalize v).same (normalize w) = true
  | .null, w, h => by cases w <;> simp_all [Value.same, normalize]
  | .bool a, w, h => by cases w <;> simp_all [Value.same, normalize]
  | .number x, w, h => by cases w <;> simp_all [Value.same, normalize]
  | .text s, w, h => by
    rw [(Value.same_text_iff w s).mp (Value.same_symm _ w h)]
    exact same_normalizeText s
  | .list items, w, h => by
    cases w with
    | list others => exact same_normalizeItems items others (by simpa [Value.same] using h)
    | _ => simp [Value.same] at h

theorem same_normalizeItems : ∀ vs ws : List Value, Value.sameItems vs ws = true →
    Value.sameItems (normalizeItems vs) (normalizeItems ws) = true
  | [], ws, h => by cases ws <;> simp_all [Value.sameItems, normalizeItems]
  | v :: vs, ws, h => by
    cases ws with
    | nil => simp [Value.sameItems] at h
    | cons w ws =>
      simp only [Value.sameItems, normalizeItems, Bool.and_eq_true] at h ⊢
      exact ⟨same_normalize v w h.1, same_normalizeItems vs ws h.2⟩

end

theorem normalize_list (items : List Value) :
    normalize (.list items) = .list (items.map normalize) := by
  rw [normalize, normalizeItems_eq_map]

/-- A blank text stands for nothing that could be a number. -/
theorem normalizeText_blank (s : String) (h : s.toList.all Text.isBlank = true) :
    normalizeText s = .text s := by
  have hread : Reading.ofTrimmed [] = .words := rfl
  rw [normalizeText, Reading.ofText, Text.trimChars_blank _ h, hread]

theorem isUnbounded_normalize (v : Value) : (normalize v).isUnbounded = v.isUnbounded := by
  cases v with
  | text s =>
    rcases normalizeText_cases s with h | ⟨x, -, h⟩
    · rw [normalize, h]
    · have hs : ¬ s.toList.all Text.isBlank = true := by
        intro hb
        rw [normalizeText_blank s hb] at h
        cases h
      rw [normalize, h]
      simpa [Value.isUnbounded] using hs
  | _ => rfl

theorem normalizeText_any (s : String) (h : Text.sameFolded (Text.trim s) "any" = true) :
    normalizeText s = .text s := by
  have hfolded : (Text.trimChars s.toList).map Text.foldCase = ['a', 'n', 'y'] := by
    rw [Text.sameFolded_iff, Text.toList_trim] at h
    exact h
  have hascii : ∀ c ∈ (Text.trimChars s.toList).map Text.foldCase, c.toNat < 128 := by
    rw [hfolded]
    simp
  have hlower := Text.lowerChars_ascii (Text.trimChars s.toList) hascii
  have hk : String.ofList (Text.lowerChars (Text.trimChars s.toList)) ∈ Reading.keywords := by
    rw [hlower, hfolded]
    decide
  rw [normalizeText, Reading.ofText, Reading.ofTrimmed, if_pos hk]

theorem isWildcard_normalize (v : Value) : (normalize v).isWildcard = v.isWildcard := by
  cases v with
  | text s =>
    rcases normalizeText_cases s with h | ⟨x, -, h⟩
    · rw [normalize, h]
    · have hs : ¬ Text.sameFolded (Text.trim s) "any" = true := by
        intro hw
        rw [normalizeText_any s hw] at h
        cases h
      rw [normalize, h]
      simpa [Value.isWildcard] using hs
  | _ => rfl

theorem hasWildcard_normalize (v : Value) : (normalize v).hasWildcard = v.hasWildcard := by
  cases v with
  | list items =>
    rw [normalize_list]
    simp only [Value.hasWildcard, List.any_map, Function.comp_def, isWildcard_normalize]
  | text s =>
    have h := isWildcard_normalize (.text s)
    rcases normalizeText_cases s with ht | ⟨x, -, ht⟩
    · rw [normalize, ht]
    · rw [normalize, ht] at h ⊢
      exact h
  | _ => rfl

end Screening

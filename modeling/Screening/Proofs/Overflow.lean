import Screening.Proofs.Compiled
import Screening.Proofs.Numbers
import Screening.Proofs.Respelling

/-!
# Numbers that overflow

A literal is read as a number only if its value is finite, but the product of a decimal with its
unit is not looked at again. So the numbers of a normal value, and the numbers that a predicate
compares with, are finite except where a text of the value is such a product that is infinite.
-/

set_option autoImplicit false

namespace Screening

/-- A decimal is finite, and its product with the unit after it is infinite. -/
def Overflows (s : String) (x : Float) : Prop :=
  ∃ decimal y c factor, Text.trimChars s.toList = decimal ++ [c] ∧
    Reading.PlainDecimal decimal ∧ Decimal.WritesFinite decimal y ∧ (c, factor) ∈ Reading.units ∧
      x = y * factor ∧ x.isInf = true

theorem Reading.not_keyword_of_decimal (decimal : List Char) (c : Char) (y : Float)
    (h : Decimal.WritesFinite decimal y) : ¬ IsKeyword (decimal ++ [c]) := by
  obtain ⟨b, hb, hdigit⟩ := exists_isDigit_of_writesFinite decimal y h
  exact not_keyword_of_isDigit _ b (List.mem_append_left [c] hb) hdigit

theorem isInf_of_normalizeText (s : String) (x : Float) (h : normalizeText s = .number x)
    (hx : x.isFinite = false) : x.isInf = true := by
  have hnan : x.isNaN = false := by
    rcases normalizeText_cases s with htext | ⟨y, hy, hnumber⟩
    · cases h.symm.trans htext
    · cases h.symm.trans hnumber
      exact hy
  rw [← Bool.not_eq_false]
  intro hinf
  rw [Double.isFinite_of_isInf x hnan hinf] at hx
  cases hx

theorem normalizeText_not_isFinite_iff (s : String) (x : Float) (hx : x.isFinite = false) :
    normalizeText s = .number x ↔ Overflows s x := by
  have hliteral (cs : List Char) : ¬ Decimal.WritesFinite cs x := by
    intro h
    rw [h.isFinite] at hx
    cases hx
  constructor
  · intro hnumber
    have hinf := isInf_of_normalizeText s x hnumber hx
    rw [normalizeText_eq_number_iff, Reading.ofTrimmed_eq_number_iff] at hnumber
    obtain ⟨-, h | ⟨decimal, -, -, h⟩⟩ := hnumber
    · generalize hcs : Text.trimChars s.toList = cs at h
      cases h with
      | percentage part x h => exact absurd h (hliteral _)
      | magnitude decimal y c factor hdecimal h hunit =>
        exact ⟨decimal, y, c, factor, hcs, hdecimal, h, hunit, rfl, hinf⟩
      | literal cs x h => exact absurd h (hliteral _)
    · exact absurd h (hliteral _)
  · rintro ⟨decimal, y, c, factor, htrim, hdecimal, hy, hunit, rfl, -⟩
    rw [normalizeText_eq_number_iff, Reading.ofTrimmed_eq_number_iff, htrim]
    exact ⟨Reading.not_keyword_of_decimal decimal c y hy,
      .inl (.magnitude decimal y c factor hdecimal hy hunit)⟩

namespace Value

mutual

def strings : Value → List String
  | text s => [s]
  | list items => stringsOfItems items
  | _ => []

def stringsOfItems : List Value → List String
  | [] => []
  | v :: rest => strings v ++ stringsOfItems rest

end

mutual

/-- A number of a normal value was there before, or is what a text stands for. -/
theorem mem_numbers_normalize_iff (x : Float) : ∀ v : Value,
    x ∈ (normalize v).numbers ↔ x ∈ v.numbers ∨ ∃ s ∈ v.strings, normalizeText s = .number x
  | .null | .bool _ | .number _ => by simp [normalize, numbers, strings]
  | .text s => by
    rw [normalize]
    rcases normalizeText_cases s with h | ⟨y, -, h⟩ <;>
      simp [h, numbers, strings, eq_comm]
  | .list items => by
    simpa [normalize, numbers, strings] using mem_numbersOfItems_normalize_iff x items

theorem mem_numbersOfItems_normalize_iff (x : Float) : ∀ items : List Value,
    x ∈ numbersOfItems (normalizeItems items) ↔
      x ∈ numbersOfItems items ∨ ∃ s ∈ stringsOfItems items, normalizeText s = .number x
  | [] => by simp [normalizeItems, numbersOfItems, stringsOfItems]
  | v :: rest => by
    simp only [normalizeItems, numbersOfItems, stringsOfItems, List.mem_append,
      mem_numbers_normalize_iff x v, mem_numbersOfItems_normalize_iff x rest, or_and_right,
      exists_or]
    exact or_or_or_comm

end

end Value

/-- The numbers that a predicate compares with: its threshold, its bounds, or the numbers in the
values it looks for. -/
def Predicate.numbers : Predicate → List Float
  | .equalsRaw _ expected | .equals _ expected => expected.numbers
  | .oneOf _ raw normal => Value.numbersOfItems raw ++ Value.numbersOfItems normal
  | .range _ least greatest => least.toList ++ greatest.toList
  | .moreThan _ threshold | .atMost _ threshold => [threshold]
  | _ => []

theorem mem_numbers_of_bound (v : Value) (b : Option Float) (x : Float) (h : bound? v = some b)
    (hx : x ∈ b.toList) : x ∈ v.numbers := by
  unfold bound? at h
  split at h
  · cases h
    cases hx
  · obtain ⟨y, hy, rfl⟩ := Option.map_eq_some_iff.mp h
    rw [List.mem_singleton.mp hx]
    cases v with
    | number z =>
      cases hy
      exact List.mem_singleton_self y
    | _ => cases hy

namespace Rule

section Compiled

variable (r : Rule) (x : Float)

theorem mem_numbers_missingValue (h : x ∈ (missingValue r).numbers) :
    x ∈ (normalize r.value).numbers := by
  unfold missingValue at h
  split at h <;> cases h

theorem mem_numbers_threshold (build : String → Float → Predicate)
    (hbuild : ∀ y, (build r.name y).numbers = [y]) (h : x ∈ (r.threshold build).numbers) :
    x ∈ (normalize r.value).numbers := by
  unfold threshold at h
  cases hvalue : normalize r.value with
  | number y =>
    rw [hvalue] at h
    change x ∈ (build r.name y).numbers at h
    rwa [hbuild y] at h
  | _ =>
    rw [hvalue] at h
    cases h

theorem mem_numbers_compileScalar (h : x ∈ r.compileScalar.numbers) :
    x ∈ r.value.numbers ∨ x ∈ (normalize r.value).numbers := by
  unfold compileScalar at h
  split at h
  · next raw normal hraw hnormal =>
    rw [hnormal, hraw]
    exact List.mem_append.mp h
  · exact .inr (r.mem_numbers_missingValue x h)
  · right
    split at h
    · exact r.mem_numbers_threshold x _ (fun _ => rfl) h
    · exact r.mem_numbers_threshold x _ (fun _ => rfl) h
    · exact h

theorem mem_numbers_compileRange (least greatest : Value) (h : r.bounds? = some (least, greatest))
    (hx : x ∈ (r.compileRange least greatest).numbers) : x ∈ (normalize r.value).numbers := by
  have hvalue : r.value = .list [least, greatest] := by
    unfold bounds? at h
    split at h
    · next hv =>
      cases h
      exact hv
    · cases h
  unfold compileRange at hx
  rw [hvalue]
  show x ∈ (normalize least).numbers ++ ((normalize greatest).numbers ++ [])
  split at hx
  · cases hx
  · next b c hleast hgreatest =>
    rcases List.mem_append.mp hx with hx | hx
    · exact List.mem_append_left _ (mem_numbers_of_bound _ _ x hleast hx)
    · exact List.mem_append_right _ (by simpa using mem_numbers_of_bound _ _ x hgreatest hx)
  · cases hx

/-- A predicate compares with no numbers but those of its value and of the normal form. -/
theorem mem_numbers_compile (d : Option Directory) (o : Options)
    (h : x ∈ (r.compile d o).numbers) :
    x ∈ r.value.numbers ∨ x ∈ (normalize r.value).numbers := by
  unfold compile at h
  split at h
  · cases h
  · unfold compileMembership at h
    split at h
    · split at h <;> cases h
    · cases h
  · unfold compileCategorical at h
    split at h
    · exact .inr (r.mem_numbers_missingValue x h)
    · next items hvalue =>
      rw [hvalue]
      simpa [Predicate.numbers, Value.numbers, Value.numbersOfItems] using Or.inl h
    · exact .inl h
  · split at h
    · next bounds hbounds => exact .inr (r.mem_numbers_compileRange x _ _ hbounds h)
    · exact r.mem_numbers_compileScalar x h
  · exact r.mem_numbers_compileScalar x h

end Compiled

end Rule

theorem Value.mem_numbers_normalize_iff_overflows (v : Value) (hv : v.Decoded) (x : Float)
    (hx : x.isFinite = false) :
    x ∈ (normalize v).numbers ↔ ∃ s ∈ v.strings, Overflows s x := by
  have hnumbers : x ∉ v.numbers := by
    intro hmem
    rw [v.isFinite_of_decoded hv x hmem] at hx
    cases hx
  rw [mem_numbers_normalize_iff]
  simp only [hnumbers, false_or, normalizeText_not_isFinite_iff _ x hx]

/-- A number that is not finite is what a text normalizes to exactly if the text is a decimal
whose product with its unit is infinite. In the normal form of a value that was read there are no
others, and a predicate of a rule with that value has no others to compare with. -/
theorem normalize_not_isFinite_iff (v : Value) (hv : v.Decoded) (x : Float)
    (hx : x.isFinite = false) :
    (∀ s, normalizeText s = .number x ↔ Overflows s x) ∧
    (x ∈ (normalize v).numbers ↔ ∃ s ∈ v.strings, Overflows s x) ∧
    ∀ (rule : Rule) (d : Option Directory) (o : Options), rule.value = v →
      x ∈ (rule.compile d o).numbers → ∃ s ∈ v.strings, Overflows s x := by
  have hnormal := v.mem_numbers_normalize_iff_overflows hv x hx
  refine ⟨fun s => normalizeText_not_isFinite_iff s x hx, hnormal, ?_⟩
  rintro rule d o rfl hmem
  rcases rule.mem_numbers_compile x d o hmem with hmem | hmem
  · rw [rule.value.isFinite_of_decoded hv x hmem] at hx
    cases hx
  · exact hnormal.mp hmem

/-- A text is read from itself in quotes. -/
theorem Value.decoded_text (s : String) : (text s).Decoded := by
  have hstring := (Json.map_eq_ok_iff Json.string Json.stringBody _ _ []).mpr
    ⟨s, Json.stringBody_written s [], rfl⟩
  exact ⟨"RawValue", 0, '"' :: (s.toList.flatMap Json.escapeChar ++ ['"']), [],
    (Json.bind_eq_ok_iff _ _ _ _ _).mpr ⟨.string s, [], hstring, rfl⟩⟩

theorem normalize_not_isFinite_iff_huge :
    let s := String.ofList Rule.hugeAmount
    let rule : Rule := ⟨"premium", .moreThan, .text s⟩
    ((Value.text s).Decoded ∧ Decimal.infinity.isFinite = false ∧
      Decimal.infinity ∈ (rule.compile none .standard).numbers) ∧
    (normalizeText s = .number Decimal.infinity ↔ Overflows s Decimal.infinity) ∧
    (Decimal.infinity ∈ (normalize (.text s)).numbers ↔
      ∃ t ∈ (Value.text s).strings, Overflows t Decimal.infinity) ∧
    ∃ t ∈ (Value.text s).strings, Overflows t Decimal.infinity := by
  intro s rule
  have hread := Value.decoded_text s
  have hinfinite : Decimal.infinity.isFinite = false := by decide
  have hthreshold : Decimal.infinity ∈ (rule.compile none .standard).numbers := by
    rw [Rule.compile_hugeAmount]
    exact List.mem_singleton_self _
  obtain ⟨htext, hnormal, hrule⟩ :=
    normalize_not_isFinite_iff (.text s) hread Decimal.infinity hinfinite
  exact ⟨⟨hread, hinfinite, hthreshold⟩, htext s, hnormal,
    hrule rule none .standard rfl hthreshold⟩

/-- The double that is one with three hundred zeros is finite, and a billion times it is not. -/
theorem normalizeText_infinite :
    let s := String.ofList Rule.hugeAmount
    normalizeText s = .number Decimal.infinity ∧ Decimal.infinity.isFinite = false ∧
      (⟨"premium", .moreThan, .text s⟩ : Rule).compile none .standard =
        .moreThan "premium" Decimal.infinity :=
  ⟨Rule.normalizeText_hugeAmount, by decide, Rule.compile_hugeAmount⟩

end Screening

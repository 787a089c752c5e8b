import Screening.Proofs.Literals
import Screening.Proofs.NormalValue
import Screening.Proofs.Rounding

/-!
# The texts that stand for numbers

A text without blanks around it stands for a number as a percentage, as a decimal with a unit,
or as a literal. Which of them it is shows in its last character, since no literal has a percent
sign or a unit in it, so the order in which they are tried does not matter. A keyword stands for
none, and a text that stands for no number is kept as it was written.
-/

set_option autoImplicit false

namespace Screening

namespace Decimal

def isLiteralChar (c : Char) : Bool :=
  c.isDigit || c.toLower ∈ ['+', '-', '.', 'e', 'i', 'n', 'f', 't', 'y', 'a']

theorem AllDigits.chars {ds : List Char} (h : AllDigits ds) (c : Char) (hc : c ∈ ds) :
    isLiteralChar c = true := by
  rw [isLiteralChar, h.mem c hc, Bool.true_or]

theorem isLiteralChar_of_word (cs word : List Char) (h : cs.map Char.toLower = word)
    (hword : ∀ c ∈ word, c ∈ ['+', '-', '.', 'e', 'i', 'n', 'f', 't', 'y', 'a'])
    (c : Char) (hc : c ∈ cs) : isLiteralChar c = true := by
  have hlower := hword c.toLower (h ▸ List.mem_map_of_mem hc)
  rw [isLiteralChar, decide_eq_true hlower, Bool.or_true]

theorem WritesSign.chars {sign : List Char} {negative : Bool}
    (h : WritesSign sign negative) : ∀ c ∈ sign, isLiteralChar c = true := by
  cases h <;> simp [isLiteralChar]

theorem WritesExponent.chars {es : List Char} {e : ℤ} (h : WritesExponent es e) (c : Char)
    (hc : c ∈ es) : isLiteralChar c = true := by
  cases h with
  | absent => cases hc
  | present mark sign ds negative hmark hsign hne hds =>
    rcases List.mem_cons.mp hc with rfl | hc
    · rcases hmark with rfl | rfl <;> decide
    · rcases List.mem_append.mp hc with hc | hc
      · exact hsign.chars c hc
      · exact hds.chars c hc

theorem WritesDecimal.chars {ds : List Char} {n k : ℕ} (h : WritesDecimal ds n k)
    (c : Char) (hc : c ∈ ds) : isLiteralChar c = true := by
  cases h with
  | whole ds hne hds => exact hds.chars c hc
  | pointed ds fs hne hds hfs =>
    rcases List.mem_append.mp hc with hc | hc
    · exact hds.chars c hc
    · rcases List.mem_cons.mp hc with rfl | hc
      · decide
      · exact hfs.chars c hc

theorem Writes.chars {cs : List Char} {l : Literal} (h : Writes cs l) (c : Char)
    (hc : c ∈ cs) : isLiteralChar c = true := by
  obtain ⟨sign, cs, negative, l, hsign, h⟩ := h
  rcases List.mem_append.mp hc with hc | hc
  · exact hsign.chars c hc
  · rcases h with ⟨ds, es, n, k, e, hd, he⟩ | ⟨cs, h | h⟩ | ⟨cs, h⟩
    · rcases List.mem_append.mp hc with hc | hc
      · exact hd.chars c hc
      · exact he.chars c hc
    · exact isLiteralChar_of_word cs _ h (by simp) c hc
    · exact isLiteralChar_of_word cs _ h (by simp) c hc
    · exact isLiteralChar_of_word cs _ h (by simp) c hc

theorem not_writesFinite (cs : List Char) (c : Char) (hc : isLiteralChar c = false) (x : Float) :
    ¬ WritesFinite (cs ++ [c]) x := by
  rintro ⟨l, hl, -, -⟩
  have hchar := hl.chars c (by simp)
  rw [hc] at hchar
  cases hchar

theorem readFinite?_eq_none (cs : List Char) (c : Char) (hc : isLiteralChar c = false) :
    readFinite? (cs ++ [c]) = none := by
  rw [Option.eq_none_iff_forall_ne_some]
  intro x hx
  exact not_writesFinite cs c hc x ((readFinite?_eq_some_iff _ x).mp hx)

end Decimal

namespace Reading

open Decimal

inductive DecimalOver (digit : Char → Bool) : List Char → Prop
  | whole (sign ds : List Char) (hsign : sign = [] ∨ sign = ['-']) (hne : ds ≠ [])
      (hds : ds.all digit = true) : DecimalOver digit (sign ++ ds)
  | pointed (sign ds fs : List Char) (hsign : sign = [] ∨ sign = ['-']) (hne : ds ≠ [])
      (hds : ds.all digit = true) (hfne : fs ≠ []) (hfs : fs.all digit = true) :
      DecimalOver digit (sign ++ (ds ++ '.' :: fs))

abbrev PlainDecimal : List Char → Prop := DecimalOver Char.isDigit

theorem DecimalOver.of_chars {p q : Char → Bool} {cs : List Char} (h : DecimalOver p cs)
    (hchars : ∀ c ∈ cs, p c = true → q c = true) : DecimalOver q cs := by
  have hall (ds : List Char) (hsub : ∀ c ∈ ds, c ∈ cs) (hds : ds.all p = true) :
      ds.all q = true :=
    List.all_eq_true.mpr fun c hc => hchars c (hsub c hc) (List.all_eq_true.mp hds c hc)
  cases h with
  | whole sign ds hsign hne hds =>
    exact .whole sign ds hsign hne (hall ds (by simp +contextual) hds)
  | pointed sign ds fs hsign hne hds hfne hfs =>
    exact .pointed sign ds fs hsign hne (hall ds (by simp +contextual) hds) hfne
      (hall fs (by simp +contextual) hfs)

/-- It makes no difference whether digits of other scripts count, since no literal has one. -/
theorem decimalOver_iff (digit : Char → Bool)
    (hdigit : ∀ c, isLiteralChar c = true → digit c = c.isDigit) (cs : List Char) (x : Float)
    (hx : WritesFinite cs x) : DecimalOver digit cs ↔ PlainDecimal cs := by
  obtain ⟨l, hl, -, -⟩ := hx
  constructor
  · exact fun h => h.of_chars fun c hc hdc => hdigit c (hl.chars c hc) ▸ hdc
  · exact fun h => h.of_chars fun c hc hdc => (hdigit c (hl.chars c hc)).trans hdc

def units : List (Char × Float) :=
  [('B', 1000000000.0), ('b', 1000000000.0), ('M', 1000000.0), ('m', 1000000.0), ('K', 1000.0),
    ('k', 1000.0)]

theorem isDigits_iff (ds : List Char) : isDigits ds = true ↔ ds ≠ [] ∧ AllDigits ds := by
  simp [isDigits, AllDigits]

def isUnsignedDecimal (cs : List Char) : Bool :=
  match cs.dropWhile Char.isDigit with
  | '.' :: fraction => isDigits (cs.takeWhile Char.isDigit) && isDigits fraction
  | rest => isDigits cs && rest = []

theorem isUnsignedDecimal_iff (cs : List Char) :
    isUnsignedDecimal cs = true ↔
      (cs ≠ [] ∧ AllDigits cs) ∨
        ∃ ds fs, cs = ds ++ '.' :: fs ∧ ds ≠ [] ∧ AllDigits ds ∧ fs ≠ [] ∧ AllDigits fs := by
  have hcut := List.takeWhile_append_dropWhile (p := Char.isDigit) (l := cs)
  constructor
  · intro h
    unfold isUnsignedDecimal at h
    split at h
    · next fs hdrop =>
      rw [Bool.and_eq_true, isDigits_iff, isDigits_iff] at h
      rw [hdrop] at hcut
      exact .inr ⟨_, fs, hcut.symm, h.1.1, h.1.2, h.2.1, h.2.2⟩
    · rw [Bool.and_eq_true, isDigits_iff] at h
      exact .inl h.1
  · rintro (⟨hne, hds⟩ | ⟨ds, fs, rfl, hne, hds, hfne, hfs⟩)
    · have hdrop := hds.dropWhile_append [] rfl
      rw [List.append_nil] at hdrop
      simp [isUnsignedDecimal, hdrop, (isDigits_iff cs).mpr ⟨hne, hds⟩]
    · simp [isUnsignedDecimal, hds.dropWhile_append ('.' :: fs) rfl,
        hds.takeWhile_append ('.' :: fs) rfl, (isDigits_iff ds).mpr ⟨hne, hds⟩,
        (isDigits_iff fs).mpr ⟨hfne, hfs⟩]

theorem dropMinus_eq (cs : List Char) : cs.head? ≠ some '-' →
    (match cs with
      | '-' :: rest => rest
      | rest => rest) = cs := by
  intro h
  split
  · exact absurd rfl h
  · rfl

theorem isPlainDecimal_signed (sign cs : List Char) (hsign : sign = [] ∨ sign = ['-'])
    (hcs : sign = [] → cs.head? ≠ some '-') :
    isPlainDecimal (sign ++ cs) = isUnsignedDecimal cs := by
  rcases hsign with rfl | rfl
  · exact congrArg isUnsignedDecimal (dropMinus_eq cs (hcs rfl))
  · rfl

theorem isPlainDecimal_iff (cs : List Char) : isPlainDecimal cs = true ↔ PlainDecimal cs := by
  constructor
  · intro h
    obtain ⟨sign, rest, rfl, hsign, hrest⟩ : ∃ sign rest, cs = sign ++ rest ∧
        (sign = [] ∨ sign = ['-']) ∧ (sign = [] → rest.head? ≠ some '-') := by
      by_cases hminus : cs.head? = some '-'
      · obtain ⟨rest, rfl⟩ := List.head?_eq_some_iff.mp hminus
        exact ⟨['-'], rest, rfl, .inr rfl, nofun⟩
      · exact ⟨[], cs, rfl, .inl rfl, fun _ => hminus⟩
    rw [isPlainDecimal_signed sign rest hsign hrest, isUnsignedDecimal_iff] at h
    rcases h with ⟨hne, hds⟩ | ⟨ds, fs, rfl, hne, hds, hfne, hfs⟩
    · exact .whole sign rest hsign hne hds
    · exact .pointed sign ds fs hsign hne hds hfne hfs
  · rintro (⟨sign, ds, hsign, hne, (hds : AllDigits ds)⟩ |
      ⟨sign, ds, fs, hsign, hne, (hds : AllDigits ds), hfne, hfs⟩)
    · rw [isPlainDecimal_signed sign ds hsign fun _ => hds.unsigned.1, isUnsignedDecimal_iff]
      exact .inl ⟨hne, hds⟩
    · obtain ⟨d, ds, rfl⟩ := List.exists_cons_of_ne_nil hne
      rw [isPlainDecimal_signed sign (d :: ds ++ '.' :: fs) hsign fun _ => hds.unsigned.1,
        isUnsignedDecimal_iff]
      exact .inr ⟨d :: ds, fs, rfl, hne, hds, hfne, hfs⟩

theorem unitFactor?_eq_some_iff (c : Char) (factor : Float) :
    unitFactor? c = some factor ↔ (c, factor) ∈ units ∨ (c = '\u212a' ∧ factor = 1.0) := by
  unfold unitFactor?
  split
  · next h => rcases h with rfl | rfl <;> simp [units, eq_comm]
  split
  · next h => rcases h with rfl | rfl <;> simp [units, eq_comm]
  split
  · next h => rcases h with rfl | rfl <;> simp [units, eq_comm]
  split
  · next h =>
    subst h
    simp [units, eq_comm]
  · simp only [units]
    grind

theorem not_isLiteralChar_of_unit (c : Char) (factor : Float) (h : unitFactor? c = some factor) :
    isLiteralChar c = false := by
  have hc : c = 'B' ∨ c = 'b' ∨ c = 'M' ∨ c = 'm' ∨ c = 'K' ∨ c = 'k' ∨ c = '\u212a' := by
    unfold unitFactor? at h
    grind
  rcases hc with rfl | rfl | rfl | rfl | rfl | rfl | rfl <;> decide

/-- A text without blanks around it that stands for a number. -/
inductive StandsFor : List Char → Float → Prop
  | percentage (part : List Char) (x : Float) (h : WritesFinite (Text.trimChars part) x) :
      StandsFor (part ++ ['%']) x
  | magnitude (decimal : List Char) (x : Float) (c : Char) (factor : Float)
      (hdecimal : PlainDecimal decimal) (h : WritesFinite decimal x) (hunit : (c, factor) ∈ units) :
      StandsFor (decimal ++ [c]) (x * factor)
  | literal (cs : List Char) (x : Float) (h : WritesFinite cs x) : StandsFor cs x

/-- A decimal before the Kelvin sign, which is taken for a unit and multiplies by one. -/
def IsKelvin (cs : List Char) (x : Float) : Prop :=
  ∃ decimal, cs = decimal ++ ['\u212a'] ∧ PlainDecimal decimal ∧ WritesFinite decimal x

def IsKeyword (cs : List Char) : Prop := String.ofList (Text.lowerChars cs) ∈ keywords

def number? (cs : List Char) : Option Float :=
  match percentage? cs with
  | some part => readFinite? (Text.trimChars part)
  | none => (magnitude? cs).or (readFinite? cs)

theorem ofTrimmed_eq_number (cs : List Char) (x : Float) :
    ofTrimmed cs = .number x ↔ ¬ IsKeyword cs ∧ number? cs = some x := by
  unfold ofTrimmed number? IsKeyword
  by_cases hkey : String.ofList (Text.lowerChars cs) ∈ keywords
  · simp [hkey]
  · rw [if_neg hkey]
    cases percentage? cs with
    | some part =>
      simp only [hkey, not_false_eq_true, true_and]
      cases readFinite? (Text.trimChars part) <;> simp
    | none =>
      simp only [hkey, not_false_eq_true, true_and]
      cases (magnitude? cs).or (readFinite? cs) with
      | some y => simp
      | none => simp only [reduceCtorEq, iff_false]; split <;> simp

theorem standsFor_concat_iff (d : List Char) (c : Char) (x : Float) :
    StandsFor (d ++ [c]) x ↔
      (c = '%' ∧ WritesFinite (Text.trimChars d) x) ∨
        (∃ y factor, (c, factor) ∈ units ∧ PlainDecimal d ∧ WritesFinite d y ∧ x = y * factor) ∨
          WritesFinite (d ++ [c]) x := by
  constructor
  · intro h
    generalize hcs : d ++ [c] = cs at h
    cases h with
    | percentage part x h =>
      obtain ⟨rfl, rfl⟩ := List.append_singleton_inj.mp hcs
      exact .inl ⟨rfl, h⟩
    | magnitude decimal y b factor hdecimal h hunit =>
      obtain ⟨rfl, rfl⟩ := List.append_singleton_inj.mp hcs
      exact .inr (.inl ⟨y, factor, hunit, hdecimal, h, rfl⟩)
    | literal cs x h => exact .inr (.inr h)
  · rintro (⟨rfl, h⟩ | ⟨y, factor, hunit, hdecimal, h, rfl⟩ | h)
    · exact .percentage d x h
    · exact .magnitude d y c factor hdecimal h hunit
    · exact .literal _ x h

/-- A text that ends in a unit is a decimal with that unit, or nothing. -/
theorem number?_unit (d : List Char) (c : Char) (factor : Float)
    (hunit : unitFactor? c = some factor) (x : Float) :
    number? (d ++ [c]) = some x ↔
      ∃ y, PlainDecimal d ∧ WritesFinite d y ∧ x = y * factor := by
  have hchar := not_isLiteralChar_of_unit c factor hunit
  have hpercent : c ≠ '%' := by
    rintro rfl
    cases hunit
  have hmagnitude : magnitude? (d ++ [c]) =
      if isPlainDecimal d then (readFinite? d).map (· * factor) else none := by
    simp only [magnitude?, splitUnit, List.getLast?_concat, List.dropLast_concat, hunit]
  simp only [number?, percentage?, List.getLast?_concat, Option.some.injEq, if_neg hpercent,
    hmagnitude, readFinite?_eq_none d c hchar, Option.or_none]
  rw [← isPlainDecimal_iff]
  split
  · next h =>
    simp only [h, true_and, Option.map_eq_some_iff, readFinite?_eq_some_iff, @eq_comm _ _ x]
  · next h => simp [h]

/-- Without a unit a decimal is the literal that it is. -/
theorem magnitude?_or_readFinite? (cs : List Char)
    (hunit : ∀ c, cs.getLast? = some c → unitFactor? c = none) :
    (magnitude? cs).or (readFinite? cs) = readFinite? cs := by
  have hsplit : splitUnit cs = (cs, 1.0) := by
    unfold splitUnit
    cases hlast : cs.getLast? with
    | none => rfl
    | some c => simp only [hunit c hlast]
  simp only [magnitude?, hsplit]
  split
  · cases hread : readFinite? cs with
    | none => rfl
    | some x => rw [Option.map_some, Double.mul_one_of_isFinite x (isFinite_readFinite cs x hread),
        Option.some_or]
  · rw [Option.none_or]

/-- What a text stands for by its last character. The Kelvin sign is a unit like the others. -/
theorem standsFor_or_isKelvin_concat_iff (d : List Char) (c : Char) (x : Float) :
    StandsFor (d ++ [c]) x ∨ IsKelvin (d ++ [c]) x ↔
      (c = '%' ∧ WritesFinite (Text.trimChars d) x) ∨
        (∃ y factor, unitFactor? c = some factor ∧ PlainDecimal d ∧ WritesFinite d y ∧
          x = y * factor) ∨ WritesFinite (d ++ [c]) x := by
  constructor
  · rintro (h | ⟨decimal, h, hdecimal, hx⟩)
    · rcases (standsFor_concat_iff d c x).mp h with h | ⟨y, factor, hunit, h⟩ | h
      · exact .inl h
      · exact .inr (.inl ⟨y, factor, (unitFactor?_eq_some_iff c factor).mpr (.inl hunit), h⟩)
      · exact .inr (.inr h)
    · obtain ⟨rfl, rfl⟩ := List.append_singleton_inj.mp h
      exact .inr (.inl ⟨x, 1.0, rfl, hdecimal, hx,
        (Double.mul_one_of_isFinite x hx.isFinite).symm⟩)
  · rintro (h | ⟨y, factor, hunit, hdecimal, hy, rfl⟩ | h)
    · exact .inl ((standsFor_concat_iff d c x).mpr (.inl h))
    · rcases (unitFactor?_eq_some_iff c factor).mp hunit with hunit | ⟨rfl, rfl⟩
      · exact .inl (.magnitude d y c factor hdecimal hy hunit)
      · rw [Double.mul_one_of_isFinite y hy.isFinite]
        exact .inr ⟨d, rfl, hdecimal, hy⟩
    · exact .inl (.literal _ x h)

/-- The last character of a text decides which reading is tried, and no other could succeed. -/
theorem number?_concat_iff (d : List Char) (c : Char) (x : Float) :
    number? (d ++ [c]) = some x ↔ StandsFor (d ++ [c]) x ∨ IsKelvin (d ++ [c]) x := by
  rw [standsFor_or_isKelvin_concat_iff]
  by_cases hpercent : c = '%'
  · subst hpercent
    have hnumber : number? (d ++ ['%']) = readFinite? (Text.trimChars d) := by
      simp only [number?, percentage?, List.getLast?_concat, List.dropLast_concat, if_true]
    have hunit : unitFactor? '%' = none := rfl
    have hliteral := not_writesFinite d '%' (by decide) x
    rw [hnumber, readFinite?_eq_some_iff]
    simp [hunit, hliteral]
  cases hunit : unitFactor? c with
  | some factor =>
    have hliteral := not_writesFinite d c (not_isLiteralChar_of_unit c factor hunit) x
    rw [number?_unit d c factor hunit]
    simp [hpercent, hliteral]
  | none =>
    have hnumber : number? (d ++ [c]) = readFinite? (d ++ [c]) := by
      simp only [number?, percentage?, List.getLast?_concat, Option.some.injEq, if_neg hpercent]
      apply magnitude?_or_readFinite?
      rintro b hb
      rw [List.getLast?_concat] at hb
      cases hb
      exact hunit
    rw [hnumber, readFinite?_eq_some_iff]
    simp [hpercent]

theorem number?_eq_some_iff (cs : List Char) (x : Float) :
    number? cs = some x ↔ StandsFor cs x ∨ IsKelvin cs x := by
  rcases cs.eq_nil_or_concat' with rfl | ⟨d, c, rfl⟩
  · have hliteral : ¬ WritesFinite [] x := by
      rw [← readFinite?_eq_some_iff]
      nofun
    constructor
    · nofun
    · rintro (h | ⟨decimal, h, -⟩)
      · generalize hcs : [] = cs at h
        cases h with
        | percentage part x h => simp at hcs
        | magnitude decimal y c factor hdecimal h hunit => simp at hcs
        | literal cs x h =>
          subst hcs
          exact absurd h hliteral
      · simp at h
  · exact number?_concat_iff d c x

theorem ofTrimmed_eq_number_iff (cs : List Char) (x : Float) :
    ofTrimmed cs = .number x ↔ ¬ IsKeyword cs ∧ (StandsFor cs x ∨ IsKelvin cs x) := by
  rw [ofTrimmed_eq_number, number?_eq_some_iff]

end Reading

theorem normalizeText_eq_number_iff (s : String) (x : Float) :
    normalizeText s = .number x ↔ Reading.ofTrimmed (Text.trimChars s.toList) = .number x := by
  unfold normalizeText Reading.ofText
  cases Reading.ofTrimmed (Text.trimChars s.toList) <;> simp

/-- The texts that normalize to a number are those that are no keyword and stand for it as a
percentage, as a decimal with a unit or as a literal, and decimals before the Kelvin sign. Every
other text is kept. -/
theorem normalizeText_iff (s : String) :
    (∀ x, normalizeText s = .number x ↔
      ¬ Reading.IsKeyword (Text.trimChars s.toList) ∧
        (Reading.StandsFor (Text.trimChars s.toList) x ∨
          Reading.IsKelvin (Text.trimChars s.toList) x)) ∧
    (normalizeText s = .text s ↔
      Reading.IsKeyword (Text.trimChars s.toList) ∨
        ∀ x, ¬ Reading.StandsFor (Text.trimChars s.toList) x ∧
          ¬ Reading.IsKelvin (Text.trimChars s.toList) x) := by
  have hnumber (x : Float) := Reading.ofTrimmed_eq_number_iff (Text.trimChars s.toList) x
  simp only [← normalizeText_eq_number_iff] at hnumber
  refine ⟨hnumber, ?_⟩
  have htext : normalizeText s = .text s ↔ ∀ x, normalizeText s ≠ .number x := by
    rcases normalizeText_cases s with h | ⟨x, -, h⟩ <;> simp [h]
  rw [htext]
  simp only [ne_eq, hnumber, not_and, not_or]
  by_cases hkey : Reading.IsKeyword (Text.trimChars s.toList) <;> simp [hkey]

/-- The Kelvin sign is matched as the letter K in another case, but it is not scaled as one. -/
theorem normalizeText_kelvin :
    normalizeText "5\u212a" = .number 5 ∧ ∀ x, ¬ Reading.StandsFor "5\u212a".toList x := by
  constructor
  · exact normalizeText_magnitude ['5', '\u212a'] 5 (by decide) (by decide) (by decide)
      (by decide +kernel)
  · intro x
    have hliteral := Decimal.not_writesFinite ['5'] '\u212a' (by decide) x
    show ¬ Reading.StandsFor (['5'] ++ ['\u212a']) x
    rw [Reading.standsFor_concat_iff]
    simp only [hliteral, or_false, not_or]
    refine ⟨fun h => absurd h.1 (by decide), ?_⟩
    rintro ⟨y, factor, hunit, -⟩
    simp [Reading.units] at hunit

end Screening

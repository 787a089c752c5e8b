import Screening.Proofs.Readings

/-!
# Numbers in other spellings

What a text stands for does not depend on the blanks around it or on the case of its letters:
the readings look at digits, signs and points, which have no case, and at letters in both cases.
A percentage stands for what stands before its sign.
-/

set_option autoImplicit false

namespace Screening

open Text (foldCase)

namespace Decimal

theorem isDigit_comp_foldCase : Char.isDigit ∘ foldCase = Char.isDigit :=
  funext Text.isDigit_foldCase

theorem AllDigits.map_foldCase {ds : List Char} (h : AllDigits ds) : ds.map foldCase = ds :=
  (List.map_congr_left fun c hc => Text.foldCase_of_isDigit c (h.mem c hc)).trans (List.map_id ds)

theorem WritesSign.map_foldCase {sign : List Char} {negative : Bool}
    (h : WritesSign sign negative) : sign.map foldCase = sign := by
  cases h <;> rfl

theorem Unsigned.map_foldCase {cs : List Char} (h : Unsigned cs) : Unsigned (cs.map foldCase) := by
  unfold Unsigned at h ⊢
  cases cs with
  | nil => exact h
  | cons c cs =>
    simp only [List.map_cons, List.head?_cons, ne_eq, Option.some.injEq] at h ⊢
    rwa [Text.foldCase_eq_iff c '-' rfl, Text.foldCase_eq_iff c '+' rfl]

theorem splitDigits_foldCase (cs : List Char) :
    splitDigits (cs.map foldCase) =
      ((splitDigits cs).1, (splitDigits cs).2.1, (splitDigits cs).2.2.map foldCase) := by
  rw [splitDigits, splitDigits, List.dropWhile_map, List.takeWhile_map,
    isDigit_comp_foldCase, (allDigits_takeWhile cs).map_foldCase]
  cases cs.dropWhile Char.isDigit with
  | nil => rfl
  | cons c rest =>
    by_cases hc : c = '.'
    · subst hc
      show (_, (rest.map foldCase).takeWhile _, (rest.map foldCase).dropWhile _) = _
      rw [List.dropWhile_map, List.takeWhile_map, isDigit_comp_foldCase,
        (allDigits_takeWhile rest).map_foldCase]
      rfl
    · have hfold : foldCase c ≠ '.' := by rwa [Ne, Text.foldCase_eq_iff c '.' rfl]
      rw [List.map_cons]
      split
      · next h => exact absurd (List.cons.inj h).1 hfold
      · split
        · next h =>
          cases h
          exact absurd rfl hc
        · rfl

theorem readExponent?_foldCase (cs : List Char) :
    readExponent? (cs.map foldCase) = readExponent? cs := by
  cases cs with
  | nil => rfl
  | cons c rest =>
    obtain ⟨sign, ds, negative, rfl, hsign, hds⟩ := exists_sign rest
    have hmark : (foldCase c = 'e' ∨ foldCase c = 'E') ↔ (c = 'e' ∨ c = 'E') :=
      decide_eq_decide.mp (Text.apply_foldCase (fun c => decide (c = 'e' ∨ c = 'E')) (by decide) c)
    rw [List.map_cons, List.map_append, hsign.map_foldCase,
      readExponent?_signed c sign ds negative hsign hds,
      readExponent?_signed _ sign _ negative hsign fun h => (hds h).map_foldCase]
    simp only [hmark, ne_eq, List.map_eq_nil_iff, List.all_map, isDigit_comp_foldCase]
    by_cases hdigits : ds.all Char.isDigit = true
    · rw [AllDigits.map_foldCase hdigits]
    · simp [hdigits]

theorem readNumber?_foldCase (negative : Bool) (cs : List Char) :
    readNumber? negative (cs.map foldCase) = readNumber? negative cs := by
  simp only [readNumber?, splitDigits_foldCase, readExponent?_foldCase]

theorem readWord?_foldCase (negative : Bool) (cs : List Char) :
    readWord? negative (cs.map foldCase) = readWord? negative cs := by
  have hlower : (cs.map foldCase).map Char.toLower = cs.map Char.toLower := by
    rw [List.map_map]
    exact List.map_congr_left fun c _ => Char.toLower_toLower_eq_toLower c
  rw [readWord?, readWord?, hlower]

theorem read?_foldCase (cs : List Char) : Literal.read? (cs.map foldCase) = Literal.read? cs := by
  obtain ⟨sign, rest, negative, rfl, hsign, hrest⟩ := exists_sign cs
  rw [List.map_append, hsign.map_foldCase, read?_signed sign rest negative hsign hrest,
    read?_signed sign _ negative hsign fun h => (hrest h).map_foldCase, readUnsigned?,
    readUnsigned?, readNumber?_foldCase, readWord?_foldCase]

theorem readFinite?_foldCase (cs : List Char) :
    readFinite? (cs.map foldCase) = readFinite? cs := by
  rw [readFinite?, readFinite?, read?_foldCase]

end Decimal

namespace Reading

open Decimal

theorem PlainDecimal.not_isAlpha {cs : List Char} (h : PlainDecimal cs) :
    ∀ c ∈ cs, c.isAlpha = false := by
  have hsigned (sign : List Char) (hsign : sign = [] ∨ sign = ['-']) (c : Char) (hc : c ∈ sign) :
      c.isAlpha = false := by
    rcases hsign with rfl | rfl
    · cases hc
    · rw [List.mem_singleton.mp hc]
      rfl
  intro c hc
  rcases h with ⟨sign, ds, hsign, hne, hds⟩ | ⟨sign, ds, fs, hsign, hne, hds, hfne, hfs⟩
  · rcases List.mem_append.mp hc with hc | hc
    · exact hsigned sign hsign c hc
    · exact Text.not_isAlpha_of_isDigit c (List.all_eq_true.mp hds c hc)
  · rcases List.mem_append.mp hc with hc | hc
    · exact hsigned sign hsign c hc
    · rcases List.mem_append.mp hc with hc | hc
      · exact Text.not_isAlpha_of_isDigit c (List.all_eq_true.mp hds c hc)
      · rcases List.mem_cons.mp hc with rfl | hc
        · rfl
        · exact Text.not_isAlpha_of_isDigit c (List.all_eq_true.mp hfs c hc)

/-- A plain decimal has no letters, so it is the same in every case. -/
theorem isPlainDecimal_foldCase (cs : List Char) :
    isPlainDecimal (cs.map foldCase) = isPlainDecimal cs := by
  rw [Bool.eq_iff_iff, isPlainDecimal_iff, isPlainDecimal_iff]
  constructor
  · intro h
    rwa [Text.map_foldCase_eq_self cs h.not_isAlpha] at h
  · intro h
    have hsame : cs.map foldCase = cs :=
      (List.map_congr_left fun c hc =>
        (Text.foldCase_eq_iff c c (h.not_isAlpha c hc)).mpr rfl).trans (List.map_id cs)
    rwa [hsame]

theorem unitFactor?_foldCase (c : Char) : unitFactor? (foldCase c) = unitFactor? c :=
  Text.apply_foldCase unitFactor? (by decide) c

theorem splitUnit_foldCase (cs : List Char) :
    splitUnit (cs.map foldCase) = ((splitUnit cs).1.map foldCase, (splitUnit cs).2) := by
  unfold splitUnit
  rw [List.getLast?_map]
  cases cs.getLast? with
  | none => rfl
  | some c =>
    simp only [Option.map_some, unitFactor?_foldCase]
    cases unitFactor? c with
    | none => rfl
    | some factor => simp only [List.map_dropLast]

theorem magnitude?_foldCase (cs : List Char) : magnitude? (cs.map foldCase) = magnitude? cs := by
  simp only [magnitude?, splitUnit_foldCase, isPlainDecimal_foldCase, readFinite?_foldCase]

theorem percentage?_foldCase (cs : List Char) :
    percentage? (cs.map foldCase) = (percentage? cs).map (List.map foldCase) := by
  have hpercent : (cs.map foldCase).getLast? = some '%' ↔ cs.getLast? = some '%' := by
    rw [List.getLast?_map]
    cases cs.getLast? with
    | none => rfl
    | some c => simp [Text.foldCase_eq_iff c '%' rfl]
  unfold percentage?
  simp only [hpercent]
  split
  · simp only [Option.map_some, List.map_dropLast]
  · rfl

theorem isKeyword_foldCase (cs : List Char) : IsKeyword (cs.map foldCase) ↔ IsKeyword cs := by
  rw [IsKeyword, IsKeyword, Text.lowerChars_foldCase]

theorem ofTrimmed_foldCase (cs : List Char) (x : Float) :
    ofTrimmed (cs.map foldCase) = .number x ↔ ofTrimmed cs = .number x := by
  have hnumber : number? (cs.map foldCase) = number? cs := by
    unfold number?
    rw [percentage?_foldCase, magnitude?_foldCase, readFinite?_foldCase]
    cases percentage? cs with
    | none => rfl
    | some part => simp only [Option.map_some, Text.trimChars_map_foldCase, readFinite?_foldCase]
  rw [ofTrimmed_eq_number, ofTrimmed_eq_number, hnumber, isKeyword_foldCase]

theorem isAlpha_of_keyword : ∀ k ∈ keywords, ∀ c ∈ k.toList, c.isAlpha = true := by
  simp [keywords]

/-- Keywords are letters, so a text with another ASCII character in it is none. -/
theorem not_keyword (cs : List Char) (c : Char) (hc : c ∈ cs) (hascii : c.toNat < 128)
    (halpha : c.isAlpha = false) : ¬ IsKeyword cs := by
  intro hkey
  have hlower : c ∈ Text.lowerChars cs := by
    refine List.mem_flatMap.mpr ⟨c, hc, ?_⟩
    rw [Text.lowerChar_ascii c hascii, (Text.foldCase_eq_iff c c halpha).mpr rfl]
    exact List.mem_singleton_self c
  have hletter := isAlpha_of_keyword _ hkey c (by rwa [String.toList_ofList])
  rw [halpha] at hletter
  cases hletter

/-- Words are not finite, so a finite literal has a digit in it. -/
theorem exists_isDigit_of_writesFinite (cs : List Char) (x : Float) (h : WritesFinite cs x) :
    ∃ c ∈ cs, c.isDigit = true := by
  obtain ⟨l, ⟨sign, cs, negative, l, hsign, hl⟩, rfl, hx⟩ := h
  have hinfinite (negative : Bool) : (Literal.infinite negative).toFloat.isFinite = false := by
    cases negative <;> decide
  have hnan : Literal.nan.toFloat.isFinite = false := by decide
  rcases hl with ⟨ds, es, n, k, e, hd, he⟩ | ⟨cs, h⟩ | ⟨cs, h⟩
  · have hdigit : ∃ c ∈ ds, c.isDigit = true := by
      rcases hd with ⟨ds, hne, hds⟩ | ⟨ds, fs, hne | hne, hds, hfs⟩
      · exact ⟨ds.head hne, List.head_mem hne, hds.mem _ (List.head_mem hne)⟩
      · exact ⟨ds.head hne, by simp, hds.mem _ (List.head_mem hne)⟩
      · exact ⟨fs.head hne, by simp, hfs.mem _ (List.head_mem hne)⟩
    obtain ⟨c, hc, hdigit⟩ := hdigit
    exact ⟨c, by simp [hc], hdigit⟩
  · rw [hinfinite] at hx
    cases hx
  · rw [hnan] at hx
    cases hx

theorem not_keyword_of_isDigit (cs : List Char) (c : Char) (hc : c ∈ cs)
    (hdigit : c.isDigit = true) : ¬ IsKeyword cs := by
  have hascii : c.toNat < 128 := (Char.isDigit_iff_toNat.mp hdigit).2.trans_lt (by decide)
  exact not_keyword cs c hc hascii (Text.not_isAlpha_of_isDigit c hdigit)

end Reading

theorem normalizeText_literal (s : String) (x : Float)
    (h : Decimal.WritesFinite (Text.trimChars s.toList) x) : normalizeText s = .number x := by
  obtain ⟨c, hc, hdigit⟩ := Reading.exists_isDigit_of_writesFinite _ x h
  rw [normalizeText_eq_number_iff, Reading.ofTrimmed_eq_number_iff]
  exact ⟨Reading.not_keyword_of_isDigit _ c hc hdigit, .inl (.literal _ x h)⟩

/-- A percentage stands for its face value, also with blanks before the sign. -/
theorem normalizeText_percentage (s w : String) (hw : w.toList.all Text.isBlank = true) (x : Float)
    (h : Decimal.WritesFinite (Text.trimChars s.toList) x) :
    normalizeText (s ++ w ++ "%") = .number x := by
  have htrim : Text.trimChars (s ++ w ++ "%").toList =
      Text.trimStart (s.toList ++ w.toList) ++ ['%'] := by
    rw [String.toList_append, String.toList_append]
    exact Text.trimChars_concat _ '%' (by decide)
  rw [normalizeText_eq_number_iff, htrim, Reading.ofTrimmed_eq_number_iff]
  refine ⟨Reading.not_keyword _ '%' (by simp) (by decide) rfl, .inl (.percentage _ x ?_)⟩
  rwa [Text.trimChars_trimStart, Text.trimChars_append_blank _ _ hw]

theorem normalizeText_padded (s p t q : String) (hp : p.toList.all Text.isBlank = true)
    (hq : q.toList.all Text.isBlank = true) (ht : Text.sameFolded t s = true) (x : Float) :
    normalizeText (p ++ t ++ q) = .number x ↔ normalizeText s = .number x := by
  have hfolded : (Text.trimChars t.toList).map foldCase =
      (Text.trimChars s.toList).map foldCase := by
    rw [← Text.trimChars_map_foldCase, ← Text.trimChars_map_foldCase,
      (Text.sameFolded_iff t s).mp ht]
  rw [normalizeText_eq_number_iff, normalizeText_eq_number_iff, String.toList_append,
    String.toList_append, Text.trimChars_append _ _ _ hp hq, ← Reading.ofTrimmed_foldCase,
    hfolded, Reading.ofTrimmed_foldCase]

/-- Blanks around a text and the case of its letters do not change the number it stands for. A
literal, alone or before a percent sign, stands for its value. -/
theorem normalizeText_respelled (s : String) :
    (∀ p t q : String, p.toList.all Text.isBlank = true → q.toList.all Text.isBlank = true →
      Text.sameFolded t s = true →
        ∀ x, normalizeText (p ++ t ++ q) = .number x ↔ normalizeText s = .number x) ∧
    ∀ x, Decimal.WritesFinite (Text.trimChars s.toList) x →
      normalizeText s = .number x ∧ normalizeText (s ++ "%") = .number x ∧
        ∀ w : String, w.toList.all Text.isBlank = true →
          normalizeText (s ++ w ++ "%") = .number x := by
  refine ⟨fun p t q hp hq ht x => normalizeText_padded s p t q hp hq ht x, fun x hx => ?_⟩
  have hbare := normalizeText_percentage s "" rfl x hx
  rw [String.append_empty] at hbare
  exact ⟨normalizeText_literal s x hx, hbare, fun w hw => normalizeText_percentage s w hw x hx⟩

theorem normalizeText_respelled_exponent :
    (" ".toList.all Text.isBlank = true ∧ "\u00a0".toList.all Text.isBlank = true ∧
      Text.sameFolded "1.5E3" "1.5e3" = true ∧
      Decimal.WritesFinite (Text.trimChars "1.5e3".toList) 1500) ∧
    (∀ x, normalizeText (" " ++ "1.5E3" ++ "\u00a0") = .number x ↔
      normalizeText "1.5e3" = .number x) ∧
    normalizeText "1.5e3" = .number 1500 ∧ normalizeText ("1.5e3" ++ "%") = .number 1500 ∧
    normalizeText ("1.5e3" ++ "\u00a0" ++ "%") = .number 1500 := by
  have hblank : " ".toList.all Text.isBlank = true := by decide
  have hspace : "\u00a0".toList.all Text.isBlank = true := by decide
  have hcase : Text.sameFolded "1.5E3" "1.5e3" = true := by decide
  have hliteral : Decimal.WritesFinite (Text.trimChars "1.5e3".toList) 1500 :=
    (Decimal.readFinite?_eq_some_iff _ _).mp (by decide +kernel)
  obtain ⟨hpadded, hvalue⟩ := normalizeText_respelled "1.5e3"
  obtain ⟨hbare, hpercent, hspaced⟩ := hvalue 1500 hliteral
  exact ⟨⟨hblank, hspace, hcase, hliteral⟩, hpadded " " "1.5E3" "\u00a0" hblank hspace hcase,
    hbare, hpercent, hspaced "\u00a0" hspace⟩

end Screening

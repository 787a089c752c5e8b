import Screening.Proofs.Acceptance
import Screening.Proofs.Encoded

/-!
# Rules and their predicates as texts

A rule is read again from its text, and the predicate it comes to from the text
of the predicate, as long as the numbers in them are. The predicate is never
nested too deep, since the rule takes as many levels around its value.
-/

set_option autoImplicit false

namespace Screening

theorem Json.text_written (s : String) (blank u : List Char)
    (hblank : blank.all isSpace = true) :
    text (blank ++ (stringChars s ++ u)) = .ok (s, u) := by
  have hskip := skipSpace_blank blank (stringChars s ++ u) hblank
  rw [stringChars_append] at hskip ⊢
  simp only [text, hskip]
  exact stringBody_written s u

theorem Condition.ofWord_word (c : Condition) : ofWord c.word = c := by
  cases c <;> rfl

theorem Condition.reader_written (c : Condition) (levels : ℕ) (blank u : List Char)
    (hblank : blank.all Json.isSpace = true) :
    reader levels (blank ++ (Json.stringChars c.word ++ u)) = .ok (c, u) := by
  have hskip := Json.skipSpace_blank blank (Json.stringChars c.word ++ u) hblank
  rw [Json.stringChars_append] at hskip ⊢
  simp only [reader, Json.unitVariant, hskip]
  exact (Json.map_eq_ok_iff ofWord Json.stringBody _ _ u).mpr
    ⟨c.word, Json.stringBody_written c.word u, c.ofWord_word⟩

namespace Rule

def written (r : Rule) (key : String) (_ : Json) (d : Draft) : Option Draft :=
  if key = "name" then if d.name.isNone then some { d with name := some r.name } else none
  else if key = "condition" then
    if d.condition.isNone then some { d with condition := some r.condition } else none
  else if d.value.isNone then some { d with value := some r.value } else none

def fields (r : Rule) : List (String × Json) :=
  [("name", .string r.name), ("condition", .string r.condition.word), ("value", r.value.toJson)]

theorem member_name (k : ℕ) (d : Draft) :
    member k "name" d = (fun name => { d with name }) <$> Json.once "name" d.name Json.text :=
  rfl

theorem member_condition (k : ℕ) (d : Draft) :
    member k "condition" d =
      (fun condition => { d with condition }) <$>
        Json.once "condition" d.condition (Condition.reader k) :=
  rfl

theorem member_value (k : ℕ) (d : Draft) :
    member k "value" d =
      (fun value => { d with value }) <$> Json.once "value" d.value (Value.reader "RawValue" k) :=
  rfl

section Written

variable (l : Json.Layout) (level k : ℕ) (r : Rule)
  (hvalue : Json.IsSource (Json.value k) (l.chars (level + 1) r.value.toJson) r.value.toJson)

include hvalue

theorem steps_member : l.Steps level (member k) r.written r.fields := by
  intro m hm d d' hd u hu
  simp only [fields, List.mem_cons, List.not_mem_nil, or_false] at hm
  rcases hm with rfl | rfl | rfl
  · obtain ⟨hnone, hd⟩ := Option.ite_none_right_eq_some.mp hd
    cases hd
    have hname := Json.once_colon "name" Json.text _ _ u
      (Json.text_written r.name l.afterColon u l.blank_afterColon)
    rw [member_name, Option.isNone_iff_eq_none.mp hnone]
    exact (Json.map_eq_ok_iff _ _ _ _ u).mpr ⟨_, hname, rfl⟩
  · obtain ⟨hnone, hd⟩ := Option.ite_none_right_eq_some.mp hd
    cases hd
    have hcondition := Json.once_colon "condition" (Condition.reader k) _ _ u
      (Condition.reader_written r.condition k l.afterColon u l.blank_afterColon)
    rw [member_condition, Option.isNone_iff_eq_none.mp hnone]
    exact (Json.map_eq_ok_iff _ _ _ _ u).mpr ⟨_, hcondition, rfl⟩
  · obtain ⟨hnone, hd⟩ := Option.ite_none_right_eq_some.mp hd
    cases hd
    have hj := hvalue u hu
    rw [← Json.value_blank k _ _ l.blank_afterColon] at hj
    have hdecoded := Json.once_colon "value" (Value.reader "RawValue" k) _ r.value u
      ((Json.bind_eq_ok_iff _ _ _ _ u).mpr ⟨_, u, hj, by rw [Value.decode_toJson]; rfl⟩)
    rw [member_value, Option.isNone_iff_eq_none.mp hnone]
    exact (Json.map_eq_ok_iff _ _ _ _ u).mpr ⟨_, hdecoded, rfl⟩

theorem fromObject_written (u : List Char) :
    fromObject k (l.objectBody level r.fields ++ u) = .ok (r, '}' :: u) := by
  have hfinal : r.fields.foldlM (fun d m => r.written m.1 m.2 d) ⟨none, none, none⟩ =
      some ⟨some r.name, some r.condition, some r.value⟩ := rfl
  have hmembers := l.members_objectBody level _ _ _ (steps_member l level k r hvalue) _ _ hfinal u
  exact (Json.bind_eq_ok_iff _ _ _ _ _).mpr ⟨_, _, hmembers, rfl⟩

end Written

/-- A rule is read from its text if the numbers of its value are found again. -/
theorem run_compact (r : Rule) (hdepth : r.value.toJson.depth ≤ 126)
    (hnumbers : r.value.toJson.ReadsBack) : (reader Json.levels).run r.toJson.compact = .ok r := by
  have hvalue := Json.Layout.compact.isSource_chars r.value.toJson 1 126 hdepth hnumbers
  have hfields := fromObject_written .compact 0 126 r hvalue []
  have htext : r.toJson.compact.toList =
      '{' :: (Json.Layout.compact.objectBody 0 r.fields ++ []) := by
    rw [Json.compact, String.toList_ofList, ← Json.Layout.chars_compact _ 0, List.append_nil]
    rfl
  rw [Json.run_eq_ok_iff, htext]
  exact ⟨[], (Json.enclosed_eq_ok_iff _ _ _ _ _ _).mpr ⟨_, hfields, rfl⟩, rfl⟩

end Rule

namespace Predicate

def Writable (p : Predicate) : Prop := p.Canonical ∧ p.toJson.depth ≤ Json.levels

theorem depth_strings (texts : List String) : (Json.strings texts).depth ≤ 1 := by
  have htexts : ∀ j ∈ texts.map Json.string, j.depth ≤ 0 := by simp [Json.depth]
  exact Nat.succ_le_succ ((Json.depthOfItems_le_iff _ 0).mpr htexts)

theorem depth_valuesToJson (values : List Value) :
    (valuesToJson values).depth = (Value.list values).toJson.depth := by
  rw [valuesToJson, Value.toJson, Value.itemsToJson_eq_map]

theorem writable_membership (symbolField : String) (symbols : List String) :
    (membership symbolField (symbolSet symbols)).Writable := by
  have hdepth := depth_strings (symbolSet symbols)
  refine ⟨symbolSet_symbolSet symbols, ?_⟩
  simp only [toJson, fields, Json.depth, Json.depthOfMembers, Json.levels]
  omega

theorem writable_equalsRaw (field : String) (v : Value) (h : v.toJson.depth ≤ 126) :
    (equalsRaw field v).Writable := by
  refine ⟨trivial, ?_⟩
  simp only [toJson, fields, Json.depth, Json.depthOfMembers, Json.levels]
  omega

theorem writable_equals (field : String) (v : Value) (h : v.toJson.depth ≤ 126) :
    (equals field v).Writable :=
  writable_equalsRaw field v h

theorem writable_oneOf (field : String) (raw normal : List Value)
    (hraw : (Value.list raw).toJson.depth ≤ 126)
    (hnormal : (Value.list normal).toJson.depth ≤ 126) :
    (oneOf field raw normal).Writable := by
  rw [← depth_valuesToJson] at hraw hnormal
  refine ⟨trivial, ?_⟩
  simp only [toJson, fields, Json.depth, Json.depthOfMembers, Json.levels]
  omega

theorem writable_range (field : String) (least greatest : Option Float) :
    (range field least greatest).Writable := by
  refine ⟨trivial, ?_⟩
  cases least <;> cases greatest <;> exact (by decide : 1 ≤ Json.levels)

end Predicate

namespace Rule

open Predicate

theorem writable_missingValue (r : Rule) : (missingValue r).Writable := by
  unfold missingValue
  split <;> exact ⟨trivial, by decide⟩

theorem writable_compileMembership (d : Option Directory) (o : Options) (r : Rule) :
    (r.compileMembership d o).Writable := by
  unfold compileMembership
  split
  · split
    · exact ⟨trivial, by decide⟩
    · exact writable_membership o.symbolField _
  · exact ⟨trivial, by decide⟩

theorem writable_compileCategorical (r : Rule) (h : r.value.toJson.depth ≤ 126) :
    r.compileCategorical.Writable := by
  unfold compileCategorical
  split
  · exact writable_missingValue r
  · next items hvalue =>
    rw [hvalue] at h
    exact writable_oneOf r.name items [] h (by decide)
  · exact writable_equalsRaw r.name r.value h

theorem writable_compileRange (r : Rule) (least greatest : Value) :
    (r.compileRange least greatest).Writable := by
  unfold compileRange
  split
  · exact ⟨trivial, by decide⟩
  · exact writable_range r.name _ _
  · exact ⟨trivial, by decide⟩

theorem writable_threshold (r : Rule) (build : String → Float → Predicate)
    (hbuild : ∀ field x, (build field x).Writable) : (r.threshold build).Writable := by
  unfold threshold
  split
  · exact hbuild r.name _
  · exact ⟨trivial, by decide⟩

theorem writable_compileScalar (r : Rule) (h : r.value.toJson.depth ≤ 126) :
    r.compileScalar.Writable := by
  have hnormal : (normalize r.value).toJson.depth ≤ 126 :=
    (Value.depth_normalize r.value).trans_le h
  unfold compileScalar
  split
  · next raw normal hraw hn =>
    rw [hraw] at h
    rw [hn] at hnormal
    exact writable_oneOf r.name raw normal h hnormal
  · exact writable_missingValue r
  · split
    · exact writable_threshold r _ fun _ _ => ⟨trivial, (by decide : 1 ≤ Json.levels)⟩
    · exact writable_threshold r _ fun _ _ => ⟨trivial, (by decide : 1 ≤ Json.levels)⟩
    · exact writable_equals r.name _ hnormal

theorem writable_compile (d : Option Directory) (o : Options) (r : Rule)
    (h : r.value.toJson.depth ≤ 126) : (r.compile d o).Writable := by
  unfold compile
  split
  · exact ⟨trivial, by decide⟩
  · exact writable_compileMembership d o r
  · exact writable_compileCategorical r h
  · split
    · exact writable_compileRange r _ _
    · exact writable_compileScalar r h
  · exact writable_compileScalar r h

/-- The predicate of a rule that was read is found again in its text, so that it accepts the
same records, if each of its numbers is found again. -/
theorem run_compact_compile (text : String) (rule : Rule) (d : Option Directory) (o : Options)
    (hrule : (reader Json.levels).run text = .ok rule)
    (hnumbers : (rule.compile d o).toJson.ReadsBack) :
    (Predicate.reader Json.levels).run (rule.compile d o).toJson.compact =
      .ok (rule.compile d o) := by
  obtain ⟨hcanonical, hdepth⟩ := writable_compile d o rule (depth_value_of_run text rule hrule)
  exact run_compact_of_readsBack _ hdepth hnumbers hcanonical

/-- A whole threshold, which is written with a fraction, is found again. -/
theorem run_compact_compile_premium :
    let rule := mk "premium" .moreThan (.text (String.ofList ['1', '0', '0', 'K']))
    let p := rule.compile none .standard
    (reader Json.levels).run rule.toJson.compact = .ok rule ∧ p.toJson.ReadsBack ∧
      (Predicate.reader Json.levels).run p.toJson.compact = .ok p := by
  intro rule p
  have hrule := run_compact rule (Nat.zero_le 126) fun n hn => nomatch hn
  have hp : p = .moreThan "premium" 100000.0 :=
    compile_of_amounts "premium" (.text (String.ofList ['1', '0', '0', 'K'])) 100000.0 none
      .standard (by decide) (by decide)
      (normalizeText_magnitude ['1', '0', '0', 'K'] 100000.0 (by decide) (by decide) (by decide)
        (by decide +kernel)) .moreThan (by decide)
  have hcompact : (Json.number (.float 100000.0)).compact = "100000.0" := by decide +kernel
  have hnumber : (Number.float 100000.0).ReadsBack := by
    rw [Number.ReadsBack, hcompact]
    rfl
  have hnumbers : p.toJson.ReadsBack := by
    intro n hn
    rw [hp] at hn
    rwa [List.mem_singleton.mp hn]
  exact ⟨hrule, hnumbers, run_compact_compile _ rule none .standard hrule hnumbers⟩

def hugeAmount : List Char := '1' :: (List.replicate 300 '0' ++ ['B'])

theorem normalizeText_hugeAmount :
    normalizeText (String.ofList hugeAmount) = .number Decimal.infinity :=
  normalizeText_magnitude hugeAmount _ (by decide +kernel) (by decide +kernel) (by decide +kernel)
    (by decide +kernel)

theorem compile_hugeAmount :
    (mk "premium" .moreThan (.text (String.ofList hugeAmount))).compile none .standard =
      .moreThan "premium" Decimal.infinity :=
  compile_of_amounts "premium" (.text (String.ofList hugeAmount)) Decimal.infinity none .standard
    (by decide) (by decide) normalizeText_hugeAmount .moreThan (by decide)

/-- An infinite threshold is written as null, and null is read as no predicate. -/
theorem run_compact_compile_infinite :
    let rule := mk "premium" .moreThan (.text (String.ofList hugeAmount))
    (reader Json.levels).run rule.toJson.compact = .ok rule ∧
      ∀ p, (Predicate.reader Json.levels).run (rule.compile none .standard).toJson.compact ≠
        .ok p := by
  intro rule
  have hrule := run_compact rule (Nat.zero_le 126) fun n hn => nomatch hn
  have hcompile : rule.compile none .standard = .moreThan "premium" Decimal.infinity :=
    compile_hugeAmount
  have hfails : ((Predicate.reader Json.levels).run
      (Predicate.moreThan "premium" Decimal.infinity).toJson.compact).toOption.isNone := by
    decide +kernel
  refine ⟨hrule, fun p hp => ?_⟩
  rw [← hcompile, hp] at hfails
  cases hfails

end Rule

end Screening

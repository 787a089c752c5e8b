import Screening.Predicate.Compile
import Screening.Proofs.NormalForms

/-!
# Names in another case

Fields, categories, membership rules and the symbol field are named in any case of
the letters A to Z. In a record whose keys are different names, another case finds
the same field, so a rule and its options mean the same in any case. Where keys are
one name in several cases, the exact key is read, or else the first one in the
order of the encoded bytes.
-/

set_option autoImplicit false

namespace Screening

open Text

namespace Text

def bytes (s : String) : List UInt8 := s.toUTF8.data.toList

theorem bytes_eq_flatMap (s : String) : bytes s = s.toList.flatMap String.utf8EncodeChar := by
  rw [bytes, String.toUTF8, ← String.utf8Encode_toList, List.utf8Encode,
    List.toList_data_toByteArray]

/-- The first byte that differs decides, as the first character does. -/
theorem utf8EncodeChar_append_lt (c d : Char) (h : c < d) (xs ys : List UInt8) :
    String.utf8EncodeChar c ++ xs < String.utf8EncodeChar d ++ ys := by
  have hlt : c.toNat < d.toNat := UInt32.lt_iff_toNat_lt.mp h
  have hd : d.toNat ≤ 0x10FFFF := d.toNat_le_max
  -- The lengths are those of the four ranges of code points, and within a range the digits
  -- to the base 64 stand from the highest to the lowest.
  simp only [String.utf8EncodeChar, Char.toNat_val]
  split_ifs <;>
    simp only [List.cons_append, List.nil_append, List.cons_lt_cons_iff, UInt8.lt_iff_toNat_lt,
      ← UInt8.toNat_inj, UInt8.toNat_ofNat'] <;>
    simp (disch := omega) only [Nat.mod_eq_of_lt] <;> omega

theorem flatMap_utf8EncodeChar_lt (cs ds : List Char) (h : cs < ds) :
    cs.flatMap String.utf8EncodeChar < ds.flatMap String.utf8EncodeChar := by
  induction cs generalizing ds with
  | nil =>
    cases ds with
    | nil => exact absurd h (List.lt_irrefl [])
    | cons d ds =>
      obtain ⟨b, bs, hb⟩ := List.exists_cons_of_ne_nil (String.utf8EncodeChar_ne_nil (c := d))
      rw [List.flatMap_cons, hb]
      exact List.nil_lt_cons b _
  | cons c cs ih =>
    cases ds with
    | nil => exact absurd h (List.not_lt_nil _)
    | cons d ds =>
      rw [List.flatMap_cons, List.flatMap_cons]
      rcases List.cons_lt_cons_iff.mp h with hlt | ⟨rfl, hlt⟩
      · exact utf8EncodeChar_append_lt c d hlt _ _
      · exact List.append_left_lt (ih ds hlt)

/-- Texts are in the order of their bytes. -/
theorem bytes_lt (s t : String) (h : s < t) : bytes s < bytes t := by
  rw [bytes_eq_flatMap, bytes_eq_flatMap]
  exact flatMap_utf8EncodeChar_lt s.toList t.toList (String.lt_iff.mp h)

theorem sameFolded_refl (s : String) : sameFolded s s = true := (sameFolded_iff s s).mpr rfl

theorem sameFolded_of_common (s t u : String) (hs : sameFolded s u = true)
    (ht : sameFolded t u = true) : sameFolded s t = true :=
  (sameFolded_iff s t).mpr (((sameFolded_iff s u).mp hs).trans ((sameFolded_iff t u).mp ht).symm)

theorem sameFolded_congr (s s' t t' : String) (hs : sameFolded s s' = true)
    (ht : sameFolded t t' = true) : sameFolded s' t' = sameFolded s t := by
  rw [sameFolded, sameFolded, (sameFolded_iff s s').mp hs, (sameFolded_iff t t').mp ht]

end Text

namespace Record

/-- No two keys are one name in different cases. -/
def DistinctNames (r : Record) : Prop :=
  ∀ m ∈ r.members, ∀ l ∈ r.members, sameFolded m.1 l.1 = true → m.1 = l.1

variable (r : Record)

theorem lookup_of_mem (m : String × Json) (h : m ∈ r.members) :
    r.members.lookup m.1 = some m.2 :=
  Keyed.lookup_of_mem r.members r.members_sorted.1 m h

theorem find_exact (m : String × Json) (h : m ∈ r.members) : r.find? m.1 = some m.2 := by
  rw [find?, r.lookup_of_mem m h, Option.some_or]

theorem find_of_lookup_none (name : String) (hexact : ∀ m ∈ r.members, m.1 ≠ name) :
    r.find? name = (r.members.find? fun m => sameFolded m.1 name).map (·.2) := by
  have hnone : r.members.lookup name = none := by
    rw [Option.eq_none_iff_forall_ne_some]
    intro j hj
    exact hexact (name, j) (Keyed.mem_of_lookup r.members name j hj) rfl
  rw [find?, hnone, Option.none_or]

/-- Without an exact key the first one that is the name in another case is read. -/
theorem find_first (name : String) (hexact : ∀ m ∈ r.members, m.1 ≠ name)
    (hsome : ∃ m ∈ r.members, sameFolded m.1 name = true) :
    ∃ m ∈ r.members, sameFolded m.1 name = true ∧ r.find? name = some m.2 ∧
      ∀ l ∈ r.members, sameFolded l.1 name = true → l = m ∨ m.1 < l.1 := by
  obtain ⟨m, hm⟩ := Option.isSome_iff_exists.mp
    (List.find?_isSome (p := fun m : String × Json => sameFolded m.1 name).mpr hsome)
  obtain ⟨hname, before, after, hmembers, hbefore⟩ := List.find?_eq_some_iff_append.mp hm
  have hsorted := (Keyed.ascending_iff_pairwise r.members).mp r.members_sorted.1
  refine ⟨m, List.mem_of_find?_eq_some hm, hname, ?_, fun l hl hlname => ?_⟩
  · rw [r.find_of_lookup_none name hexact, hm, Option.map_some]
  · rw [hmembers] at hl hsorted
    rcases List.mem_append.mp hl with hl | hl
    · simpa [hlname] using hbefore l hl
    · rcases List.mem_cons.mp hl with hl | hl
      · exact .inl hl
      · exact .inr ((List.pairwise_cons.mp (List.pairwise_append.mp hsorted).2.1).1 l hl)

theorem find_unnamed (name : String) (h : ∀ m ∈ r.members, ¬ sameFolded m.1 name = true) :
    r.find? name = none := by
  have hexact : ∀ m ∈ r.members, m.1 ≠ name := by
    rintro m hm rfl
    exact h m hm (sameFolded_refl m.1)
  rw [r.find_of_lookup_none name hexact, List.find?_eq_none.mpr h, Option.map_none]

variable {r} (hr : r.DistinctNames)

include hr

theorem DistinctNames.find_eq (name : String) (m : String × Json) (hm : m ∈ r.members)
    (hname : sameFolded m.1 name = true) : r.find? name = some m.2 := by
  by_cases hexact : ∀ l ∈ r.members, l.1 ≠ name
  · obtain ⟨l, hl, hlname, hfind, -⟩ := r.find_first name hexact ⟨m, hm, hname⟩
    have hkey := hr m hm l hl (sameFolded_of_common m.1 l.1 name hname hlname)
    have hvalue := r.lookup_of_mem m hm
    rw [hkey, r.lookup_of_mem l hl] at hvalue
    rw [hfind, hvalue]
  · simp only [not_forall, not_not] at hexact
    obtain ⟨l, hl, rfl⟩ := hexact
    rw [← hr m hm l hl hname]
    exact r.find_exact m hm

/-- In another case a name finds the same field. -/
theorem DistinctNames.field_eq (name other : String) (h : sameFolded name other = true) :
    r.field other = r.field name := by
  have hsame (key : String) : sameFolded key other = sameFolded key name :=
    sameFolded_congr key key name other (sameFolded_refl key) h
  have hfind : r.find? other = r.find? name := by
    by_cases hsome : ∃ m ∈ r.members, sameFolded m.1 name = true
    · obtain ⟨m, hm, hname⟩ := hsome
      rw [hr.find_eq name m hm hname, hr.find_eq other m hm ((hsame m.1).trans hname)]
    · have hnone : ∀ m ∈ r.members, ¬ sameFolded m.1 name = true :=
        fun m hm hname => hsome ⟨m, hm, hname⟩
      rw [r.find_unnamed name hnone, r.find_unnamed other]
      intro m hm
      rw [hsame]
      exact hnone m hm
  rw [field, hfind, field]

theorem DistinctNames.symbol_eq (name other : String) (h : sameFolded name other = true) :
    r.symbol? other = r.symbol? name := by
  rw [symbol?, hr.field_eq name other h, symbol?]

end Record

structure Options.Recased (o o' : Options) : Prop where
  categorical : List.Forall₂ (fun s t => sameFolded s t = true) o.categorical o'.categorical
  membership : List.Forall₂ (fun s t => sameFolded s t = true) o.membership o'.membership
  symbolField : sameFolded o.symbolField o'.symbolField = true

def PredicateFault.inField (field : String) : PredicateFault → PredicateFault
  | .notNumeric _ value => .notNumeric field value
  | .unsupportedField _ => .unsupportedField field

theorem any_sameFolded (fields fields' : List String) (name name' : String)
    (hfields : List.Forall₂ (fun s t => sameFolded s t = true) fields fields')
    (hname : sameFolded name name' = true) :
    (fields'.any fun field => sameFolded field name') =
      fields.any fun field => sameFolded field name := by
  induction hfields with
  | nil => rfl
  | @cons s t fields fields' hst _ ih =>
    rw [List.any_cons, List.any_cons, sameFolded_congr s t name name' hst hname, ih]

theorem Rule.kind_recased (rule : Rule) (name : String) (o o' : Options) (ho : o.Recased o')
    (hname : sameFolded rule.name name = true) :
    ({ rule with name := name } : Rule).kind o' = rule.kind o := by
  have hmember : o'.isMembership name = o.isMembership rule.name :=
    any_sameFolded _ _ rule.name name ho.membership hname
  have hcategory : o'.isCategorical name = o.isCategorical rule.name :=
    any_sameFolded _ _ rule.name name ho.categorical hname
  unfold Rule.kind
  rw [hmember, hcategory]
  rfl

section Recased

variable (field field' symbolField symbolField' : String)

/-- Predicates that differ in the names of the field and of the symbol field only. -/
inductive Predicate.Recased : Predicate → Predicate → Prop
  | always : Recased .always .always
  | never : Recased .never .never
  | membership (members : List String) :
    Recased (.membership symbolField members) (.membership symbolField' members)
  | equalsRaw (expected : Value) : Recased (.equalsRaw field expected) (.equalsRaw field' expected)
  | equals (expected : Value) : Recased (.equals field expected) (.equals field' expected)
  | oneOf (raw normal : List Value) : Recased (.oneOf field raw normal) (.oneOf field' raw normal)
  | range (least greatest : Option Float) :
    Recased (.range field least greatest) (.range field' least greatest)
  | moreThan (threshold : Float) : Recased (.moreThan field threshold) (.moreThan field' threshold)
  | atMost (threshold : Float) : Recased (.atMost field threshold) (.atMost field' threshold)

end Recased

section Fields

variable (r : Record) (field field' : String) (hfield : r.field field' = r.field field)

include hfield

theorem scalarField_recased :
    scalarField r field' = (scalarField r field).mapError (·.inField field') := by
  rw [scalarField, scalarField, hfield]
  cases r.field field <;> rfl

theorem numericField_recased :
    numericField r field' = (numericField r field).mapError (·.inField field') := by
  rw [numericField, numericField, scalarField_recased r field field' hfield]
  rcases scalarField r field with cause | found
  · rfl
  · rcases found with _ | value
    · rfl
    · cases value <;> rfl

end Fields

theorem any_mapError {α : Type} (answer : Except PredicateFault (Option α)) (p : α → Bool)
    (f : PredicateFault → PredicateFault) :
    (do return (← answer.mapError f).any p : Except PredicateFault Bool) =
      (do return (← answer).any p : Except PredicateFault Bool).mapError f := by
  cases answer <;> rfl

/-- Where both names find the same field, such predicates answer alike and fault alike, each
in its own name of the field. -/
theorem Predicate.Recased.evaluate_eq (field field' symbolField symbolField' : String)
    (p q : Predicate) (h : Recased field field' symbolField symbolField' p q) (r : Record)
    (hfield : r.field field' = r.field field)
    (hsymbol : r.symbol? symbolField' = r.symbol? symbolField) :
    q.evaluate r = (p.evaluate r).mapError (·.inField field') := by
  cases h with
  | always => rfl
  | never => rfl
  | membership members =>
    rw [evaluate, evaluate, hsymbol]
    rfl
  | equalsRaw expected =>
    rw [evaluate, evaluate, hfield]
    cases r.field field <;> rfl
  | equals expected =>
    rw [evaluate, evaluate, scalarField_recased r field field' hfield, any_mapError]
  | oneOf raw normal =>
    rw [evaluate, evaluate, hfield]
    rfl
  | range least greatest =>
    rw [evaluate, evaluate, numericField_recased r field field' hfield, any_mapError]
  | moreThan threshold =>
    rw [evaluate, evaluate, numericField_recased r field field' hfield, any_mapError]
  | atMost threshold =>
    rw [evaluate, evaluate, numericField_recased r field field' hfield, any_mapError]

namespace Rule

variable (rule : Rule) (name : String) (o o' : Options)

theorem missingValue_recased :
    Predicate.Recased rule.name name o.symbolField o'.symbolField (missingValue rule)
      (missingValue { rule with name := name }) := by
  unfold missingValue
  split
  · exact .always
  · exact .never

theorem compileMembership_recased (d : Option Directory) :
    Predicate.Recased rule.name name o.symbolField o'.symbolField (rule.compileMembership d o)
      (({ rule with name := name } : Rule).compileMembership d o') := by
  unfold compileMembership
  cases d with
  | none => exact .never
  | some d =>
    by_cases he : d.isEmpty = true
    · simp only [he, if_true]
      exact .never
    · simp only [he]
      exact .membership _

theorem compileCategorical_recased :
    Predicate.Recased rule.name name o.symbolField o'.symbolField rule.compileCategorical
      ({ rule with name := name } : Rule).compileCategorical := by
  unfold compileCategorical
  cases hvalue : rule.value with
  | null => exact rule.missingValue_recased name o o'
  | list items => exact .oneOf items []
  | _ => exact .equalsRaw _

theorem compileRange_recased (least greatest : Value) :
    Predicate.Recased rule.name name o.symbolField o'.symbolField
      (rule.compileRange least greatest)
      (({ rule with name := name } : Rule).compileRange least greatest) := by
  unfold compileRange
  split
  · exact .always
  · exact .range _ _
  · exact .never

theorem threshold_recased (build : String → Float → Predicate)
    (hbuild : ∀ x, Predicate.Recased rule.name name o.symbolField o'.symbolField
      (build rule.name x) (build name x)) :
    Predicate.Recased rule.name name o.symbolField o'.symbolField (rule.threshold build)
      (({ rule with name := name } : Rule).threshold build) := by
  unfold threshold
  cases (normalize rule.value).number? with
  | none => exact .never
  | some x => exact hbuild x

theorem compileScalar_recased :
    Predicate.Recased rule.name name o.symbolField o'.symbolField rule.compileScalar
      ({ rule with name := name } : Rule).compileScalar := by
  unfold compileScalar
  dsimp only
  split
  · exact .oneOf _ _
  · exact rule.missingValue_recased name o o'
  · cases rule.condition with
    | moreThan => exact rule.threshold_recased name o o' .moreThan .moreThan
    | atMost => exact rule.threshold_recased name o o' .atMost .atMost
    | _ => exact .equals _

theorem compile_recased (d : Option Directory) (ho : o.Recased o')
    (hname : sameFolded rule.name name = true) :
    Predicate.Recased rule.name name o.symbolField o'.symbolField (rule.compile d o)
      (({ rule with name := name } : Rule).compile d o') := by
  unfold compile
  rw [rule.kind_recased name o o' ho hname]
  cases rule.kind o with
  | wildcard => exact .always
  | membership => exact rule.compileMembership_recased name o o' d
  | categorical => exact rule.compileCategorical_recased name o o'
  | range =>
    have hbounds : ({ rule with name := name } : Rule).bounds? = rule.bounds? := rfl
    rw [hbounds]
    cases rule.bounds? with
    | none => exact rule.compileScalar_recased name o o'
    | some bounds => exact rule.compileRange_recased name o o' bounds.1 bounds.2
  | scalar => exact rule.compileScalar_recased name o o'

end Rule

/-- For a record whose keys are different names, a rule is of the same kind and answers
alike in whatever case it, the options and the symbol field are written; a fault quotes
the name as it is written. In any record an exact key is read, also one that is null, and
else the least of the keys, by their bytes, that are the name in another case. -/
theorem evaluate_compile_recased :
    (∀ (rule : Rule) (name : String) (table : Option MembershipTable) (o o' : Options)
      (r : Record), sameFolded rule.name name = true → o.Recased o' → r.DistinctNames →
      let rule' : Rule := { rule with name := name }
      let directory := table.map Directory.ofTable
      rule'.kind o' = rule.kind o ∧
        (rule'.compile directory o').evaluate r =
          ((rule.compile directory o).evaluate r).mapError (·.inField name)) ∧
    ∀ (r : Record) (name : String),
      (∀ j, (name, j) ∈ r.members → r.field name = .ofJson j) ∧
      ((∀ m ∈ r.members, m.1 ≠ name) → (∃ m ∈ r.members, sameFolded m.1 name = true) →
        ∃ m ∈ r.members, sameFolded m.1 name = true ∧ r.field name = .ofJson m.2 ∧
          ∀ l ∈ r.members, sameFolded l.1 name = true → l = m ∨ bytes m.1 < bytes l.1) := by
  refine ⟨fun rule name table o o' r hname ho hr => ?_, fun r name => ⟨fun j hj => ?_, ?_⟩⟩
  · refine ⟨rule.kind_recased name o o' ho hname, ?_⟩
    exact (rule.compile_recased name o o' _ ho hname).evaluate_eq _ _ _ _ _ _ r
      (hr.field_eq rule.name name hname) (hr.symbol_eq o.symbolField o'.symbolField ho.symbolField)
  · rw [Record.field, r.find_exact (name, j) hj]
  · intro hexact hsome
    obtain ⟨m, hm, hname, hfind, hfirst⟩ := r.find_first name hexact hsome
    refine ⟨m, hm, hname, by rw [Record.field, hfind], fun l hl hlname => ?_⟩
    exact (hfirst l hl hlname).imp_right fun hlt => bytes_lt m.1 l.1 hlt

/-- A fault under another name, and three keys that are one name. -/
theorem evaluate_compile_recased_premium :
    let rule : Rule := ⟨"premium", .moreThan, .text "5"⟩
    let o : Options := ⟨["OPTIONTYPE", "assettype"], ["indexmembership"], "Symbol"⟩
    let r := Record.ofJson (.object [("Premium", .string "n/a")])
    let prices := Record.ofJson (.object [("price", .string "2"), ("PRICE", .string "1"),
      ("Price", .null)])
    (sameFolded rule.name "PREMIUM" = true ∧ Options.standard.Recased o ∧ r.DistinctNames ∧
      (({ rule with name := "PREMIUM" } : Rule).compile none o).evaluate r =
        ((rule.compile none .standard).evaluate r).mapError (·.inField "PREMIUM")) ∧
    (("Price", .null) ∈ prices.members ∧ prices.field "Price" = .absent) ∧
    (∀ m ∈ prices.members, m.1 ≠ "pRICE") ∧
      (∃ m ∈ prices.members, sameFolded m.1 "pRICE" = true) ∧
      ∃ m ∈ prices.members, sameFolded m.1 "pRICE" = true ∧
        prices.field "pRICE" = .ofJson m.2 ∧
        ∀ l ∈ prices.members, sameFolded l.1 "pRICE" = true → l = m ∨ bytes m.1 < bytes l.1 := by
  intro rule o r prices
  obtain ⟨hrecased, hread⟩ := evaluate_compile_recased
  have hname : sameFolded rule.name "PREMIUM" = true := by decide
  have ho : Options.standard.Recased o :=
    ⟨.cons (by decide) (.cons (by decide) .nil), .cons (by decide) .nil, by decide⟩
  have hr : r.DistinctNames := by
    have hmembers : r.members = [("Premium", .string "n/a")] := rfl
    simp [Record.DistinctNames, hmembers]
  have hprices : prices.members =
      [("PRICE", .string "1"), ("Price", .null), ("price", .string "2")] := rfl
  have hnull : ("Price", .null) ∈ prices.members := by simp [hprices]
  have hexact : ∀ m ∈ prices.members, m.1 ≠ "pRICE" := by simp [hprices]
  have hsome : ∃ m ∈ prices.members, sameFolded m.1 "pRICE" = true :=
    ⟨("PRICE", .string "1"), by simp [hprices], by decide⟩
  exact ⟨⟨hname, ho, hr, (hrecased rule "PREMIUM" none .standard o r hname ho hr).2⟩,
    ⟨hnull, (hread prices "Price").1 .null hnull⟩, hexact, hsome,
    (hread prices "pRICE").2 hexact hsome⟩

end Screening
